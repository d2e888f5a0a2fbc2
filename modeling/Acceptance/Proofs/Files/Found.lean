import Acceptance.Proofs.Files.NullByte

/-!
# What a search finds

A search below a directory finds every path once, in order, and each of them leads to something of
the tree.

    (t.find p accepts).Pairwise fun a b => inOrder a.parts b.parts  (find_sorted)
    (t.find p accepts).Nodup                                        (find_nodup)
    q ∈ t.find p accepts → t.Finds p accepts q names  for some      (finds_of_mem)
    (u.find p accepts).filter t.stood = t.find p accepts
                              where more stands in u than in t      (find_stood)
-/

namespace Acceptance

namespace Path

/-! ## The order of paths -/

theorem inOrder_total (as bs : List String) : (inOrder as bs || inOrder bs as) = true := by
  induction as generalizing bs with
  | nil => simp [inOrder]
  | cons a as ih =>
    cases bs with
    | nil => simp [inOrder]
    | cons b bs =>
      by_cases h : a = b
      · subst h
        simpa [inOrder] using ih bs
      · have hor : a < b ∨ b < a := by
          by_cases hlt : a < b
          · exact .inl hlt
          · right
            have hle : b ≤ a := String.not_lt.1 hlt
            by_cases hgt : b < a
            · exact hgt
            · exact absurd (String.le_antisymm (String.not_lt.1 hgt) hle) h
        simpa [inOrder, h, Ne.symm h] using hor

theorem inOrder_trans (as bs cs : List String) (h : inOrder as bs = true)
    (h' : inOrder bs cs = true) : inOrder as cs = true := by
  induction as generalizing bs cs with
  | nil => simp [inOrder]
  | cons a as ih =>
    cases bs with
    | nil => simp [inOrder] at h
    | cons b bs =>
      cases cs with
      | nil => simp [inOrder] at h'
      | cons c cs =>
        by_cases hab : a = b
        · subst hab
          by_cases hac : a = c
          · subst hac
            simp only [inOrder, if_true] at h h' ⊢
            exact ih bs cs h h'
          · simpa [inOrder, hac] using h'
        · have hlt : a < b := by simpa [inOrder, hab] using h
          by_cases hbc : b = c
          · subst hbc
            simpa [inOrder, hab] using hlt
          · have hlt' : b < c := by simpa [inOrder, hbc] using h'
            have hac : a ≠ c := by
              rintro rfl
              exact String.lt_asymm hlt hlt'
            simpa [inOrder, hac] using String.lt_trans hlt hlt'

theorem inOrder_antisymm {as bs : List String} (h : inOrder as bs = true)
    (h' : inOrder bs as = true) : as = bs := by
  induction as generalizing bs with
  | nil =>
    cases bs with
    | nil => rfl
    | cons b bs => simp [inOrder] at h'
  | cons a as ih =>
    cases bs with
    | nil => simp [inOrder] at h
    | cons b bs =>
      by_cases hab : a = b
      · subst hab
        simp only [inOrder, if_true] at h h'
        rw [ih h h']
      · have hlt : a < b := by simpa [inOrder, hab] using h
        have hlt' : b < a := by simpa [inOrder, Ne.symm hab] using h'
        exact absurd hlt' (String.lt_asymm hlt)

theorem sort_sorted (ps : List Path) :
    (sort ps).Pairwise fun p q => inOrder p.parts q.parts = true :=
  List.pairwise_mergeSort (fun p q r => inOrder_trans p.parts q.parts r.parts)
    (fun p q => inOrder_total p.parts q.parts) ps

/-- Two rows of paths in order, from one start, that have the same members are the same. -/
theorem eq_of_sorted {n : Nat} {ps qs : List Path}
    (hps : ∀ p ∈ ps, p.slashes = n) (hqs : ∀ q ∈ qs, q.slashes = n)
    (sorted : ps.Pairwise fun p q => inOrder p.parts q.parts = true)
    (sorted' : qs.Pairwise fun p q => inOrder p.parts q.parts = true) (perm : ps.Perm qs) :
    ps = qs := by
  refine List.Perm.eq_of_pairwise ?_ sorted sorted' perm
  intro p q hp hq hpq hqp
  obtain ⟨slashes, parts⟩ := p
  obtain ⟨slashes', parts'⟩ := q
  obtain rfl : slashes = slashes' := (hps _ hp).trans (hqs _ hq).symm
  have hparts : parts = parts' := inOrder_antisymm hpq hqp
  rw [hparts]

theorem name_down {p : Path} {names : List String} (ne : names ≠ []) :
    (p.down names).name = names.getLast ne := by
  simp [name, down, List.getLast?_append, List.getLast?_eq_some_getLast ne]

end Path

namespace FileTree

/-! ## What is found -/

/-- What a search for `q` below `p` comes upon. -/
structure Finds (t : FileTree) (p : Path) (accepts : String → Bool) (q : Path)
    (names : List String) : Prop where
  ne : names ≠ []
  path : q = p.down names
  accepted : accepts (names.getLast ne) = true
  legal : ∀ name ∈ names, isName name = true
  there : ∃ n, t.look q = .ok (p.place t.here ++ names, n)

theorem mem_placesBelow {t : FileTree} {l k : Location} (h : k ∈ t.placesBelow l) :
    ∃ names n, names ≠ [] ∧ k = l ++ names ∧ t.node? k = some n := by
  obtain ⟨hm, hk⟩ := List.mem_filter.1 h
  obtain ⟨⟨k', n⟩, hn, rfl⟩ := List.mem_map.1 hm
  simp only [Bool.and_eq_true, bne_iff_ne] at hk
  obtain ⟨names, hnames⟩ := List.isPrefixOf_iff_prefix.1 hk.1
  refine ⟨names, n, ?_, hnames.symm, node?_of_mem hn⟩
  rintro rfl
  rw [List.append_nil] at hnames
  exact hk.2 hnames.symm

theorem contents_eq {t : FileTree} {p : Path} :
    t.contents p = [] ∨ ∃ l, t.locate p = .ok l ∧
      t.contents p = (t.placesBelow l).map fun k => p.down (k.drop l.length) := by
  unfold contents
  split
  · next l h => exact .inr ⟨l, (look_eq_ok_iff.1 h).1, rfl⟩
  · exact .inl rfl

theorem contents_nodup (t : FileTree) (p : Path) : (t.contents p).Nodup := by
  rcases contents_eq (t := t) (p := p) with h | ⟨l, -, h⟩
  · rw [h]
    exact List.nodup_nil
  · rw [h]
    have hplaces : (t.placesBelow l).Nodup := t.distinct.filter _
    refine List.pairwise_map.2 (hplaces.imp_of_mem ?_)
    intro k j hk hj hne he
    obtain ⟨names, -, -, rfl, -⟩ := mem_placesBelow hk
    obtain ⟨others, -, -, rfl, -⟩ := mem_placesBelow hj
    have hdown := congrArg Path.parts he
    simp only [Path.down, List.drop_left, List.append_cancel_left_eq] at hdown
    exact hne (by rw [hdown])

/-- The place of a path that goes down through names from one that leads somewhere. -/
theorem place_down_of_locate {t : FileTree} {p : Path} {l : Location} {names : List String}
    (h : t.locate p = .ok l) (legal : ∀ name ∈ names, isName name = true) :
    (p.down names).place t.here = l ++ names := by
  have hdown : (p.down names).place t.here = names.foldl Location.onward (p.place t.here) :=
    List.foldl_append
  rw [hdown, ← locate_place h]
  refine Location.foldl_onward_down ?_ l
  intro name hm
  obtain ⟨hempty, hdot, hup, -⟩ := isName_iff.1 (legal name hm)
  exact ⟨hempty, hdot, hup⟩

/-- The way down from a path through names that may stand in directories. -/
theorem look_down_iff {t : FileTree} {p : Path} {l k : Location} {names : List String} {n : Node}
    (h : t.locate p = .ok l) (legal : ∀ name ∈ names, isName name = true) :
    t.look (p.down names) = .ok (k, n) ↔ k = l ++ names ∧ t.node? k = some n := by
  rw [look_eq_ok_iff]
  constructor
  · rintro ⟨hlocate, hn⟩
    exact ⟨(locate_place hlocate).trans (place_down_of_locate h legal), hn⟩
  · rintro ⟨rfl, hn⟩
    refine ⟨?_, hn⟩
    obtain ⟨hnull, hl⟩ := locate_eq_ok_iff.1 h
    refine locate_eq_ok_iff.2 ⟨?_, (walk_append hl names).trans (walk_down hn)⟩
    rw [Path.hasNull_down, hnull, Bool.false_or, List.any_eq_false]
    intro name hm
    simp [(isName_iff.1 (legal name hm)).2.2.2.2.1]

/-- What is found is what stands below a directory under a name that is accepted. -/
theorem mem_find_iff {t : FileTree} {p q : Path} {accepts : String → Bool} :
    q ∈ t.find p accepts ↔ accepts q.name = true ∧ ∃ l names n, t.locate p = .ok l ∧
      names ≠ [] ∧ t.node? (l ++ names) = some n ∧ q = p.down names := by
  rw [find, Path.sort, List.mem_mergeSort, List.mem_filter, and_comm]
  refine and_congr_right fun _ => ?_
  constructor
  · intro hc
    rcases contents_eq (t := t) (p := p) with he | ⟨l, hl, he⟩
    · rw [he] at hc
      contradiction
    · rw [he] at hc
      obtain ⟨k, hk, rfl⟩ := List.mem_map.1 hc
      obtain ⟨names, n, ne, rfl, hn⟩ := mem_placesBelow hk
      exact ⟨l, names, n, hl, ne, hn, by rw [List.drop_left]⟩
  · rintro ⟨l, names, n, hl, ne, hn, rfl⟩
    have hlook : t.look p = .ok (l, .directory) := look_eq_ok_iff.2 ⟨hl, node?_above ne hn⟩
    have hbelow : l ++ names ∈ t.placesBelow l := by
      have hmem := mem_of_node? (List.append_ne_nil_of_right_ne_nil l ne) hn
      refine List.mem_filter.2 ⟨List.mem_map.2 ⟨_, hmem, rfl⟩, ?_⟩
      simp [ne]
    unfold contents
    rw [hlook]
    refine List.mem_map.2 ⟨_, hbelow, ?_⟩
    rw [List.drop_left]
    rfl

theorem finds_of_mem {t : FileTree} {p q : Path} {accepts : String → Bool}
    (h : q ∈ t.find p accepts) : ∃ names, t.Finds p accepts q names := by
  obtain ⟨haccepts, l, names, n, hl, ne, hn, rfl⟩ := mem_find_iff.1 h
  rw [Path.name_down ne] at haccepts
  have hnames : ∀ name ∈ names, isName name = true :=
    fun name hm => names_of_node? hn name (List.mem_append_right l hm)
  refine ⟨names, ne, rfl, haccepts, hnames, n, ?_⟩
  rw [← locate_place hl]
  exact (look_down_iff hl hnames).2 ⟨rfl, hn⟩

theorem find_nodup (t : FileTree) (p : Path) (accepts : String → Bool) :
    (t.find p accepts).Nodup :=
  (List.mergeSort_perm _ _).nodup_iff.2 ((contents_nodup t p).filter _)

theorem find_sorted (t : FileTree) (p : Path) (accepts : String → Bool) :
    (t.find p accepts).Pairwise fun a b => Path.inOrder a.parts b.parts = true :=
  Path.sort_sorted _

theorem slashes_of_find {t : FileTree} {p q : Path} {accepts : String → Bool}
    (h : q ∈ t.find p accepts) : q.slashes = p.slashes := by
  obtain ⟨-, -, names, -, -, -, -, rfl⟩ := mem_find_iff.1 h
  rfl

/-- Whether something stands at the place of a path. -/
def stood (t : FileTree) (q : Path) : Bool := (t.node? (q.place t.here)).isSome

/-- In a tree where more stands, a search finds what it found, and besides what has come. -/
theorem find_stood {t u : FileTree} {p : Path} {l : Location} {accepts : String → Bool}
    (here : u.here = t.here) (h : t.locate p = .ok l) (h' : u.locate p = .ok l)
    (more : ∀ k n, t.node? k = some n → ∃ n', u.node? k = some n') :
    (u.find p accepts).filter t.stood = t.find p accepts := by
  refine Path.eq_of_sorted (n := p.slashes)
    (fun q hq => slashes_of_find (List.mem_filter.1 hq).1) (fun q hq => slashes_of_find hq)
    ((find_sorted u p accepts).filter _) (find_sorted t p accepts) ?_
  refine (List.perm_ext_iff_of_nodup ((find_nodup u p accepts).filter _)
    (find_nodup t p accepts)).2 ?_
  intro q
  rw [List.mem_filter, mem_find_iff, mem_find_iff, and_assoc]
  refine and_congr_right fun _ => ?_
  constructor
  · rintro ⟨⟨k, names, n, hk, ne, hn, rfl⟩, hstood⟩
    obtain rfl := Except.ok.inj (h'.symm.trans hk)
    have hplace := place_down_of_locate h' fun name hm =>
      names_of_node? hn name (List.mem_append_right l hm)
    rw [stood, ← here, hplace, Option.isSome_iff_exists] at hstood
    obtain ⟨m, hm⟩ := hstood
    exact ⟨l, names, m, h, ne, hm, rfl⟩
  · rintro ⟨k, names, n, hk, ne, hn, rfl⟩
    obtain rfl := Except.ok.inj (h.symm.trans hk)
    obtain ⟨n', hn'⟩ := more _ n hn
    refine ⟨⟨l, names, n', h', ne, hn', rfl⟩, ?_⟩
    have hplace := place_down_of_locate h fun name hm =>
      names_of_node? hn name (List.mem_append_right l hm)
    rw [stood, hplace, hn]
    rfl

/-- A search that comes upon its paths in order. -/
theorem find_of_sorted {t : FileTree} {p : Path} {accepts : String → Bool} {paths : List Path}
    (h : (t.contents p).filter (fun q => accepts q.name) = paths)
    (sorted : paths.Pairwise fun a b => Path.inOrder a.parts b.parts = true) :
    t.find p accepts = paths := by
  rw [find, h]
  exact List.mergeSort_of_pairwise sorted

theorem isPart_of_isName {name : String} (h : isName name = true) : Path.isPart name = true := by
  simp only [isName, Bool.and_eq_true] at h
  exact h.1.1.1

/-- What a search finds below a setting's directory lies below it. -/
theorem under_of_mem_find {t : FileTree} {root q : Path} {setting : String}
    {accepts : String → Bool} (h : q ∈ t.find (root.«to» (.ofText setting)) accepts) :
    Path.Under root setting q := by
  obtain ⟨names, hfinds⟩ := finds_of_mem h
  exact ⟨names, fun name hn => isPart_of_isName (hfinds.legal name hn), hfinds.path⟩

/-- Paths that a search finds below a setting's directory are shown differently. -/
theorem find_shown_nodup (t : FileTree) (root : Path) (setting : String)
    (accepts : String → Bool) :
    ((t.find (root.«to» (.ofText setting)) accepts).map fun q => q.shown root).Nodup := by
  refine List.pairwise_map.2 ((find_nodup t _ accepts).imp_of_mem ?_)
  intro p q hp hq hne he
  exact hne (Path.shown_inj (under_of_mem_find hp) (under_of_mem_find hq) he)

end FileTree

end Acceptance
