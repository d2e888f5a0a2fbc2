import Acceptance.Proofs.Table.Widths
import Mathlib.Data.List.Basic

/-!
# Columns of tables

The cells under a name can be asked of a table, and of each of its rows as a dictionary.  The table
answers with the cells under the first header of that name, a row with the cell under the last, so
the two agree on a name just where every row has one cell at both places.

    (dictOf entries).lookup key = entries.reverse.lookup key             (lookup_dictOf)
    FirstPlace t.headers name i → t.column name = the cells at i         (column_of_first)
    LastPlace t.headers name i → (t.rowDict row).lookup name = row[i]?   (lookup_rowDict)
    t.asDict has for a key the second cell of the last row with it       (asDict_of_two)
    the last row with a key is the last dictionary with it               (lastWith_dicts_iff)
    where the answers of a table and of its rows are the same            (columns_of_dicts)
-/

namespace Acceptance.DataTable

/-! ## Dictionaries -/

section
variable (d entries : List (String × String)) (key k v : String)

theorem lookup_cons_if : ((k, v) :: d).lookup key = if key = k then some v else d.lookup key := by
  rw [List.lookup_cons]
  by_cases h : key = k
  · simp [h]
  · simp [h, beq_false_of_ne h]

theorem lookup_map_replaced : (d.map fun e => if e.1 = k then (k, v) else e).lookup key =
    if key = k then (d.lookup k).map fun _ => v else d.lookup key := by
  induction d with
  | nil => simp
  | cons e d ih =>
    obtain ⟨other, value⟩ := e
    rw [List.map_cons, lookup_cons_if, lookup_cons_if]
    by_cases hother : other = k
    · rw [if_pos hother, lookup_cons_if, ih, if_pos hother.symm]
      by_cases hkey : key = k
      · simp [hkey]
      · simp [hkey, hother]
    · rw [if_neg hother, lookup_cons_if, ih, if_neg (Ne.symm hother)]
      by_cases hkey : key = k
      · rw [if_pos hkey, if_pos hkey, if_neg (hkey ▸ Ne.symm hother)]
      · rw [if_neg hkey, if_neg hkey]

/-- **A key that is set has the value that was set, and the others have theirs.** -/
theorem lookup_put : (put d k v).lookup key = if key = k then some v else d.lookup key := by
  have hany : d.any (·.1 == k) = (d.lookup k).isSome := by
    rw [Bool.eq_iff_iff, List.lookup_isSome_iff, List.any_eq_true]
    exact exists_congr fun e => by rw [beq_iff_eq, beq_iff_eq, eq_comm]
  rw [put, hany]
  simp only [beq_iff_eq]
  cases hk : d.lookup k with
  | some value => simp [lookup_map_replaced, hk]
  | none =>
    rw [Option.isSome_none, if_neg (by simp), List.lookup_append, lookup_cons_if, List.lookup_nil]
    by_cases hkey : key = k
    · simp [hkey, hk]
    · simp [hkey]

theorem put_keys (h : (d.map Prod.fst).Nodup) : ((put d k v).map Prod.fst).Nodup := by
  unfold put
  split
  · have hkeys : (d.map fun e => if e.1 == k then (k, v) else e).map Prod.fst = d.map Prod.fst := by
      rw [List.map_map]
      refine List.map_congr_left fun e _ => ?_
      by_cases he : e.1 = k <;> simp [he]
    rw [hkeys]
    exact h
  · next hnone =>
    have hfree : k ∉ d.map Prod.fst := by
      intro hk
      obtain ⟨e, he, rfl⟩ := List.mem_map.1 hk
      exact hnone (List.any_eq_true.2 ⟨e, he, beq_self_eq_true _⟩)
    rw [List.map_append, List.map_singleton, List.nodup_append]
    refine ⟨h, by simp, ?_⟩
    intro a ha b hb he
    rw [he, List.mem_singleton.1 hb] at ha
    exact hfree ha

/-- **A dictionary of entries has for each key the value of its last entry.** -/
theorem lookup_dictOf : (dictOf entries).lookup key = entries.reverse.lookup key := by
  have hfold : ∀ d, (entries.foldl (fun d e => put d e.1 e.2) d).lookup key =
      (entries.reverse.lookup key).or (d.lookup key) := by
    induction entries with
    | nil => simp
    | cons e entries ih =>
      intro d
      rw [List.foldl_cons, ih, lookup_put, List.reverse_cons, List.lookup_append, lookup_cons_if,
        List.lookup_nil, Option.or_assoc]
      split <;> rfl
  rw [dictOf, hfold, List.lookup_nil, Option.or_none]

theorem dictOf_keys : ((dictOf entries).map Prod.fst).Nodup := by
  have hfold : ∀ d, (d.map Prod.fst).Nodup →
      ((entries.foldl (fun d e => put d e.1 e.2) d).map Prod.fst).Nodup := by
    induction entries with
    | nil => exact fun _ h => h
    | cons e entries ih => exact fun d h => ih _ (put_keys d e.1 e.2 h)
  exact hfold [] List.nodup_nil

end

/-- The last member with a key has a value. -/
def LastWith {α : Type} (key value : α → Option String) (as : List α) (k v : String) : Prop :=
  ∃ before a behind, as = before ++ a :: behind ∧ key a = some k ∧ value a = some v ∧
    ∀ other ∈ behind, key other ≠ some k

theorem lookup_dictOf_eq_some_iff {entries : List (String × String)} {k v : String} :
    (dictOf entries).lookup k = some v ↔
      LastWith (fun e => some e.1) (fun e => some e.2) entries k v := by
  rw [lookup_dictOf, List.lookup_eq_some_iff]
  constructor
  · rintro ⟨behind, before, h, hbehind⟩
    refine ⟨before.reverse, (k, v), behind.reverse, ?_, rfl, rfl, ?_⟩
    · simpa using congrArg List.reverse h
    · intro other ho he
      have hne := hbehind other (List.mem_reverse.1 ho)
      simp [← Option.some.inj he] at hne
  · rintro ⟨before, ⟨k', v'⟩, behind, rfl, hk, hv, hbehind⟩
    obtain rfl := Option.some.inj hk
    obtain rfl := Option.some.inj hv
    refine ⟨behind.reverse, before.reverse, by simp, ?_⟩
    intro other ho
    have hne : other.1 ≠ k' := fun he => hbehind other (List.mem_reverse.1 ho) (congrArg some he)
    exact bne_iff_ne.2 hne.symm

theorem lastWith_map_iff {α β : Type} {f : β → α} {key value : α → Option String} {bs : List β}
    {k v : String} : LastWith key value (bs.map f) k v ↔
      LastWith (fun b => key (f b)) (fun b => value (f b)) bs k v := by
  constructor
  · rintro ⟨before, a, behind, h, hkey, hvalue, hbehind⟩
    obtain ⟨before, rest, rfl, rfl, hrest⟩ := List.map_eq_append_iff.1 h
    obtain ⟨b, behind, rfl, rfl, rfl⟩ := List.map_eq_cons_iff.1 hrest
    exact ⟨before, b, behind, rfl, hkey, hvalue,
      fun other ho => hbehind (f other) (List.mem_map_of_mem ho)⟩
  · rintro ⟨before, b, behind, rfl, hkey, hvalue, hbehind⟩
    exact ⟨before.map f, f b, behind.map f, by simp, hkey, hvalue, by simpa using hbehind⟩

theorem lastWith_congr {α : Type} {key key' value value' : α → Option String} {as : List α}
    {k v : String} (hkey : ∀ a ∈ as, key a = key' a) (hvalue : ∀ a ∈ as, value a = value' a) :
    LastWith key value as k v ↔ LastWith key' value' as k v := by
  refine exists_congr fun before => exists_congr fun a => exists_congr fun behind => ?_
  refine and_congr_right fun has => ?_
  subst has
  rw [hkey a (by simp), hvalue a (by simp)]
  refine and_congr_right fun _ => and_congr_right fun _ => forall₂_congr fun other hother => ?_
  rw [hkey other (by simp [hother])]

/-! ## Places of a header -/

/-- A place where a header stands, and before which it does not. -/
def FirstPlace (headers : List String) (name : String) (i : Nat) : Prop :=
  headers[i]? = some name ∧ ∀ j, j < i → headers[j]? ≠ some name

/-- A place where a header stands, and behind which it does not. -/
def LastPlace (headers : List String) (name : String) (i : Nat) : Prop :=
  headers[i]? = some name ∧ ∀ j, i < j → headers[j]? ≠ some name

theorem eq_take_cons_drop {α : Type} {as : List α} {a : α} {i : Nat} (h : as[i]? = some a) :
    as = as.take i ++ a :: as.drop (i + 1) := by
  obtain ⟨hi, rfl⟩ := List.getElem?_eq_some_iff.1 h
  rw [← List.drop_eq_getElem_cons, List.take_append_drop]

section
variable {headers : List String} {name : String} {i j : Nat}

theorem idxOf?_eq_some_iff_firstPlace : headers.idxOf? name = some i ↔ FirstPlace headers name i := by
  rw [List.idxOf?_eq_some_iff, FirstPlace, List.getElem?_eq_some_iff]
  constructor
  · rintro ⟨hi, rfl, hbefore⟩
    refine ⟨⟨hi, rfl⟩, fun j hj hname => ?_⟩
    obtain ⟨_, hname⟩ := List.getElem?_eq_some_iff.1 hname
    exact hbefore j hj hname
  · rintro ⟨⟨hi, rfl⟩, hbefore⟩
    exact ⟨hi, rfl, fun j hj hname => hbefore j hj (List.getElem?_eq_some_iff.2 ⟨by omega, hname⟩)⟩

theorem exists_firstPlace (h : name ∈ headers) : ∃ i, FirstPlace headers name i := by
  cases hi : headers.idxOf? name with
  | none => exact absurd h (List.idxOf?_eq_none_iff.1 hi)
  | some i => exact ⟨i, idxOf?_eq_some_iff_firstPlace.1 hi⟩

theorem exists_lastPlace (h : name ∈ headers) : ∃ i, LastPlace headers name i := by
  induction headers with
  | nil => contradiction
  | cons header headers ih =>
    by_cases hrest : name ∈ headers
    · obtain ⟨i, hi, hbehind⟩ := ih hrest
      refine ⟨i + 1, hi, fun j hj => ?_⟩
      obtain ⟨j, rfl⟩ : ∃ j', j = j' + 1 := ⟨j - 1, by omega⟩
      exact hbehind j (by omega)
    · obtain rfl := (List.mem_cons.1 h).resolve_right hrest
      refine ⟨0, rfl, fun j hj hname => ?_⟩
      obtain ⟨j, rfl⟩ : ∃ j', j = j' + 1 := ⟨j - 1, by omega⟩
      exact hrest (List.mem_of_getElem? hname)

theorem LastPlace.unique (h : LastPlace headers name i) (h' : LastPlace headers name j) : i = j := by
  rcases Nat.lt_trichotomy i j with hlt | heq | hgt
  · exact absurd h'.1 (h.2 j hlt)
  · exact heq
  · exact absurd h.1 (h'.2 i hgt)

/-- A header has one place just where it stands once. -/
theorem FirstPlace.eq_last_iff (h : FirstPlace headers name i) (h' : LastPlace headers name j) :
    i = j ↔ headers.count name = 1 := by
  have hbefore : name ∉ headers.take i := by
    intro hmem
    obtain ⟨k, hk, hname⟩ := List.mem_take_iff_getElem.1 hmem
    exact h.2 k (by omega) (List.getElem?_eq_some_iff.2 ⟨by omega, hname⟩)
  have hbehind : LastPlace headers name i ↔ name ∉ headers.drop (i + 1) := by
    rw [LastPlace, and_iff_right h.1, List.mem_iff_getElem?]
    simp only [List.getElem?_drop, not_exists]
    constructor
    · exact fun hno k => hno _ (by omega)
    · intro hno k hk
      obtain ⟨m, rfl⟩ : ∃ m, k = i + 1 + m := ⟨k - (i + 1), by omega⟩
      exact hno m
  have hcount : headers.count name = 1 + (headers.drop (i + 1)).count name := by
    conv => lhs; rw [eq_take_cons_drop h.1]
    rw [List.count_append, List.count_cons_self, List.count_eq_zero.2 hbefore, Nat.zero_add,
      Nat.add_comm]
  have honce : headers.count name = 1 ↔ LastPlace headers name i := by
    rw [hbehind, ← List.count_eq_zero, hcount]
    omega
  rw [honce]
  exact ⟨fun he => he ▸ h', fun hi => hi.unique h'⟩

end

/-! ## Rows as dictionaries -/

section
variable {t : DataTable} {row : List String} {name : String} {i : Nat}

/-- **A row has under a name the cell under the last header of that name.** -/
theorem lookup_rowDict (width : row.length = t.headers.length) (h : LastPlace t.headers name i) :
    (t.rowDict row).lookup name = row[i]? := by
  obtain ⟨hi, -⟩ := List.getElem?_eq_some_iff.1 h.1
  obtain ⟨cell, hcell⟩ : ∃ cell, row[i]? = some cell :=
    ⟨_, List.getElem?_eq_getElem (by omega)⟩
  rw [hcell, rowDict, lookup_dictOf_eq_some_iff]
  have hentry : (t.headers.zip row)[i]? = some (name, cell) :=
    List.getElem?_zip_eq_some.2 ⟨h.1, hcell⟩
  refine ⟨_, _, _, eq_take_cons_drop hentry, rfl, rfl, ?_⟩
  intro other hother hname
  obtain ⟨k, hk⟩ := List.mem_iff_getElem?.1 hother
  rw [List.getElem?_drop] at hk
  refine h.2 (i + 1 + k) (by omega) ?_
  rw [(List.getElem?_zip_eq_some.1 hk).1, ← hname]

/-- So have the dictionaries of all rows. -/
theorem lookup_dicts (width : ∀ row ∈ t.rows, row.length = t.headers.length)
    (h : LastPlace t.headers name i) : t.dicts.map (·.lookup name) = t.rows.map (·[i]?) := by
  rw [dicts, List.map_map]
  exact List.map_congr_left fun row hrow => lookup_rowDict (width row hrow) h

/-! ## Columns -/

theorem exists_cellsAt {rows : List (List String)} (wide : ∀ row ∈ rows, i < row.length) :
    ∃ cells, cellsAt i rows = .ok cells ∧ cells.map some = rows.map (·[i]?) := by
  induction rows with
  | nil => exact ⟨[], rfl, rfl⟩
  | cons row rows ih =>
    obtain ⟨hrow, hrows⟩ := List.forall_mem_cons.1 wide
    obtain ⟨cells, hcells, hsome⟩ := ih hrows
    refine ⟨row[i] :: cells, ?_, ?_⟩
    · rw [cellsAt, List.getElem?_eq_getElem hrow]
      simp [hcells, Except.map]
    · rw [List.map_cons, List.map_cons, hsome, List.getElem?_eq_getElem hrow]

/-- **A table has under a name the cells under the first header of that name.** -/
theorem column_of_first (width : ∀ row ∈ t.rows, row.length = t.headers.length)
    (h : FirstPlace t.headers name i) :
    ∃ cells, t.column name = .ok cells ∧ cells.map some = t.rows.map (·[i]?) := by
  obtain ⟨hi, -⟩ := List.getElem?_eq_some_iff.1 h.1
  rw [column, idxOf?_eq_some_iff_firstPlace.2 h]
  exact exists_cellsAt fun row hrow => by rw [width row hrow]; exact hi

/-! ## Tables of two columns -/

theorem exists_pairs {rows : List (List String)} (two : ∀ row ∈ rows, row.length = 2) :
    ∃ entries, pairs rows = .ok entries ∧ rows = entries.map fun e => [e.1, e.2] := by
  induction rows with
  | nil => exact ⟨[], rfl, rfl⟩
  | cons row rows ih =>
    obtain ⟨hrow, hrows⟩ := List.forall_mem_cons.1 two
    obtain ⟨key, value, rfl⟩ := List.length_eq_two.mp hrow
    obtain ⟨entries, hentries, rfl⟩ := ih hrows
    exact ⟨(key, value) :: entries, by simp [pairs, hentries, Except.map], rfl⟩

/-- **A table of two columns as a dictionary has for a key the second cell of the last row whose
first cell it is.** -/
theorem asDict_of_two (width : ∀ row ∈ t.rows, row.length = t.headers.length)
    (two : t.headers.length = 2) : ∃ d, t.asDict = .ok d ∧ (d.map Prod.fst).Nodup ∧
      ∀ k v, d.lookup k = some v ↔ LastWith (·[0]?) (·[1]?) t.rows k v := by
  obtain ⟨entries, hentries, hrows⟩ := exists_pairs fun row hrow => (width row hrow).trans two
  refine ⟨dictOf entries, ?_, dictOf_keys entries, fun k v => ?_⟩
  · rw [asDict, if_pos two, hentries]
    rfl
  · rw [lookup_dictOf_eq_some_iff, hrows, lastWith_map_iff]
    rfl

/-- Where its headers differ, that is what the dictionaries of its rows say. -/
theorem lastWith_dicts_iff {left right k v : String}
    (width : ∀ row ∈ t.rows, row.length = t.headers.length) (two : t.headers = [left, right])
    (differ : left ≠ right) : LastWith (·[0]?) (·[1]?) t.rows k v ↔
      LastWith (·.lookup left) (·.lookup right) t.dicts k v := by
  have hleft : LastPlace t.headers left 0 := by
    rw [two]
    refine ⟨rfl, fun j hj hname => ?_⟩
    obtain ⟨j, rfl⟩ : ∃ j', j = j' + 1 := ⟨j - 1, by omega⟩
    exact differ (List.mem_singleton.1 (List.mem_of_getElem? hname))
  have hright : LastPlace t.headers right 1 := by
    rw [two]
    refine ⟨rfl, fun j hj => ?_⟩
    rw [List.getElem?_eq_none hj]
    nofun
  rw [dicts, lastWith_map_iff]
  exact lastWith_congr (fun row hrow => (lookup_rowDict (width row hrow) hleft).symm)
    fun row hrow => (lookup_rowDict (width row hrow) hright).symm

end

/-! ## Top theorem -/

/-- **Where a table and its rows agree on a name.**  Of a table that is made and a header of it, the
column holds the cells at the first place of the header, and the dictionaries of the rows the cells
at the last.  So they agree just where every row has one cell at both places, in particular for a
header that stands once.  A table of two columns is as a dictionary what its last rows say, and
where its headers differ, what the dictionaries of these rows say. -/
theorem columns_of_dicts {headers : List String} {rows : List (List String)} {t : DataTable}
    (made : make headers rows = .ok t) :
    (∀ name ∈ t.headers, ∃ first last cells,
      FirstPlace t.headers name first ∧ LastPlace t.headers name last ∧
      t.column name = .ok cells ∧ cells.map some = t.rows.map (·[first]?) ∧
      t.dicts.map (·.lookup name) = t.rows.map (·[last]?) ∧
      (cells.map some = t.dicts.map (·.lookup name) ↔
        ∀ row ∈ t.rows, row[first]? = row[last]?) ∧
      (t.headers.count name = 1 → cells.map some = t.dicts.map (·.lookup name))) ∧
    ∀ left right, t.headers = [left, right] →
      ∃ d, t.asDict = .ok d ∧ (d.map Prod.fst).Nodup ∧
        (∀ k v, d.lookup k = some v ↔ LastWith (·[0]?) (·[1]?) t.rows k v) ∧
        (left ≠ right → ∀ k v, d.lookup k = some v ↔
          LastWith (·.lookup left) (·.lookup right) t.dicts k v) := by
  obtain ⟨rfl, width⟩ := make_eq_ok_iff.1 made
  constructor
  · intro name hname
    obtain ⟨first, hfirst⟩ := exists_firstPlace hname
    obtain ⟨last, hlast⟩ := exists_lastPlace hname
    obtain ⟨cells, hcolumn, hcells⟩ := column_of_first width hfirst
    have hdicts := lookup_dicts width hlast
    refine ⟨first, last, cells, hfirst, hlast, hcolumn, hcells, hdicts, ?_, ?_⟩
    · rw [hcells, hdicts, List.map_inj_left]
    · intro once
      rw [hcells, hdicts, (hfirst.eq_last_iff hlast).2 once]
  · rintro left right two
    obtain ⟨d, hd, hkeys, hlookup⟩ := asDict_of_two width (congrArg List.length two)
    refine ⟨d, hd, hkeys, hlookup, fun differ k v => ?_⟩
    rw [hlookup, lastWith_dicts_iff width two differ]

/-- Rows of a name and a size, the name `a` twice. -/
def sizes : DataTable := ⟨["name", "size"], [["a", "1"], ["b", "2"], ["a", "3"]]⟩

/-- The column of names is that of the rows, and the size of `a` is that of its last row. -/
theorem sizes_agree :
    make ["name", "size"] [["a", "1"], ["b", "2"], ["a", "3"]] = .ok sizes ∧
      ["a", "b", "a"].map some = sizes.dicts.map (·.lookup "name") ∧
      ∃ d, sizes.asDict = .ok d ∧ d.lookup "a" = some "3" ∧
        LastWith (·.lookup "name") (·.lookup "size") sizes.dicts "a" "3" := by
  have made : make ["name", "size"] [["a", "1"], ["b", "2"], ["a", "3"]] = .ok sizes := rfl
  obtain ⟨hnames, htwo⟩ := columns_of_dicts made
  obtain ⟨first, last, cells, -, -, hcolumn, -, -, -, honce⟩ := hnames "name" (by decide)
  obtain rfl : ["a", "b", "a"] = cells := Except.ok.inj hcolumn
  obtain ⟨d, hd, -, hrows, hdicts⟩ := htwo "name" "size" rfl
  have ha : d.lookup "a" = some "3" :=
    (hrows "a" "3").2 ⟨[["a", "1"], ["b", "2"]], ["a", "3"], [], rfl, rfl, rfl, nofun⟩
  exact ⟨made, honce rfl, d, hd, ha, (hdicts (by decide) "a" "3").1 ha⟩

/-- Under a header that stands twice the table has the first cell of a row, and the row its last. -/
theorem repeated_header_differs :
    make ["a", "a"] [["1", "2"]] = .ok ⟨["a", "a"], [["1", "2"]]⟩ ∧
      column ⟨["a", "a"], [["1", "2"]]⟩ "a" = .ok ["1"] ∧
      (dicts ⟨["a", "a"], [["1", "2"]]⟩).map (·.lookup "a") = [some "2"] :=
  ⟨rfl, rfl, by decide⟩

end Acceptance.DataTable
