import Acceptance.Proofs.Files.NullByte
import Mathlib.Data.List.Infix

/-!
# Making directories

A directory is made with those above it where no file stands on its way and every part of the way
can be walked along.  Nothing changes but the places on the way, where directories come to stand.

    Grows (· ∈ p.way t.here) t (t.ensureAll p).1                    (grows_ensureAll)
    t.Open p → t.ensureAll p = (u, none) ∧ …  for some u            (Open.made)
    t.ensureAll p = (u, none) → t.Creatable (p.start t.here) → t.Open p
                                                                    (open_of_ensureAll)
    t.writeBytes (p.child name) b = .ok u ↔ …                       (writeBytes_child_eq_ok_iff)
-/

namespace Acceptance

/-! ## Ways -/

namespace Path

/-- Where a path starts. -/
def start (here : Location) (p : Path) : Location := if p.isAbsolute then [] else here

/-- The places that a path leads through, its start and its end among them. -/
def way (here : Location) (p : Path) : List Location :=
  p.parts.inits.map fun names => names.foldl Location.onward (p.start here)

variable {here k : Location} {p : Path} {part : String}

theorem mem_way :
    k ∈ p.way here ↔ ∃ names, names <+: p.parts ∧ names.foldl Location.onward (p.start here) = k := by
  simp [way, List.mem_inits]

theorem start_mem_way : p.start here ∈ p.way here := mem_way.2 ⟨[], List.nil_prefix, rfl⟩

theorem place_mem_way : p.place here ∈ p.way here := mem_way.2 ⟨p.parts, List.prefix_refl _, rfl⟩

theorem mem_way_child :
    k ∈ (p.child part).way here ↔ k ∈ p.way here ∨ k = (p.child part).place here := by
  have hparts : (p.child part).parts = p.parts ++ [part] := rfl
  simp only [mem_way, hparts, List.prefix_concat_iff]
  constructor
  · rintro ⟨names, rfl | h, rfl⟩
    · exact .inr rfl
    · exact .inl ⟨names, h, rfl⟩
  · rintro (⟨names, h, rfl⟩ | rfl)
    · exact ⟨names, .inr h, rfl⟩
    · exact ⟨p.parts ++ [part], .inl rfl, rfl⟩

theorem way_child_subset (h : k ∈ p.way here) : k ∈ (p.child part).way here :=
  mem_way_child.2 (.inl h)

theorem place_child (here : Location) (p : Path) (part : String) :
    (p.child part).place here = (p.place here).onward part := by
  show (p.parts ++ [part]).foldl Location.onward _ = _
  rw [List.foldl_append]
  rfl

theorem hasNull_of_walkable {p : Path} (h : ∀ part ∈ p.parts, FileTree.Walkable part) :
    p.hasNull = false := by
  refine List.any_eq_false.2 ?_
  intro part hp
  rcases h part hp with rfl | rfl | rfl | hname
  · decide
  · decide
  · decide
  · simp [(isName_iff.1 hname).2.2.2.2.1]

end Path

namespace FileTree

variable {t u : FileTree} {p : Path} {part : String} {l m k : Location} {e : FileError}

/-- A way with one more part is walked to its end through directories alone. -/
theorem walk_concat_eq_ok_iff {parts : List String} :
    t.walk l (parts ++ [part]) = .ok m ↔
      (∀ q ∈ parts ++ [part], Walkable q) ∧
        (∀ names, names <+: parts → t.node? (names.foldl Location.onward l) = some .directory) ∧
        m = (parts ++ [part]).foldl Location.onward l := by
  induction parts generalizing l with
  | nil =>
    rw [List.nil_append, walk_cons_eq_ok_iff]
    simp only [walk, List.mem_singleton, forall_eq, List.prefix_nil, List.foldl_nil,
      List.foldl_cons, Except.ok.injEq]
    constructor
    · rintro ⟨hd, hw, rfl⟩
      exact ⟨hw, hd, rfl⟩
    · rintro ⟨hw, hd, rfl⟩
      exact ⟨hd, hw, rfl⟩
  | cons first parts ih =>
    rw [List.cons_append, walk_cons_eq_ok_iff, ih]
    constructor
    · rintro ⟨hd, hw, hall, hway, hm⟩
      refine ⟨List.forall_mem_cons.2 ⟨hw, hall⟩, ?_, hm⟩
      intro names hnames
      rcases List.prefix_cons_iff.1 hnames with rfl | ⟨rest, rfl, hrest⟩
      · exact hd
      · exact hway rest hrest
    · rintro ⟨hall, hway, hm⟩
      obtain ⟨hw, hall⟩ := List.forall_mem_cons.1 hall
      refine ⟨hway [] List.nil_prefix, hw, hall, ?_, hm⟩
      intro rest hrest
      exact hway (first :: rest) (List.prefix_cons_iff.2 (.inr ⟨rest, rfl, hrest⟩))

theorem locate_child_eq_ok_iff :
    t.locate (p.child part) = .ok l ↔
      (∀ q ∈ (p.child part).parts, Walkable q) ∧
        (∀ k ∈ p.way t.here, t.node? k = some .directory) ∧ l = (p.child part).place t.here := by
  have hway : (∀ k ∈ p.way t.here, t.node? k = some .directory) ↔
      ∀ names, names <+: p.parts →
        t.node? (names.foldl Location.onward (p.start t.here)) = some .directory := by
    simp only [Path.mem_way]
    constructor
    · exact fun h names hnames => h _ ⟨names, hnames, rfl⟩
    · rintro h k ⟨names, hnames, rfl⟩
      exact h names hnames
  rw [locate_eq_ok_iff, hway]
  constructor
  · rintro ⟨-, h⟩
    exact walk_concat_eq_ok_iff.1 h
  · intro h
    exact ⟨Path.hasNull_of_walkable h.1, walk_concat_eq_ok_iff.2 h⟩

/-- Where no file is in the way, a walk fails for what is missing alone. -/
theorem walk_missing {parts : List String} (walkable : ∀ q ∈ parts, Walkable q)
    (free : ∀ names, names <+: parts → ∀ b, t.node? (names.foldl Location.onward l) ≠ some (.file b))
    (h : ∀ m, t.walk l parts ≠ .ok m) : t.walk l parts = .error .missing := by
  induction parts generalizing l with
  | nil => exact absurd rfl (h l)
  | cons part parts ih =>
    obtain ⟨hw, hwalkable⟩ := List.forall_mem_cons.1 walkable
    cases hl : t.node? l with
    | none =>
      rw [walk, step]
      simp only [hl]
    | some n =>
      cases n with
      | file b => exact absurd hl (free [] List.nil_prefix b)
      | directory =>
        have hstep : t.step l part = .ok (l.onward part) := step_eq_ok_iff.2 ⟨hl, hw, rfl⟩
        have hwalk : t.walk l (part :: parts) = t.walk (l.onward part) parts := by
          rw [walk, hstep]
        rw [hwalk] at h ⊢
        refine ih hwalkable ?_ h
        intro names hnames
        exact free (part :: names) (List.prefix_cons_iff.2 (.inr ⟨names, rfl, hnames⟩))

/-! ## Trees that grow -/

/-- Directories come to stand where there was nothing, at places of `W`. -/
structure Grows (W : Location → Prop) (t u : FileTree) : Prop where
  here : u.here = t.here
  node : ∀ k, u.node? k = t.node? k ∨
    W k ∧ t.node? k = none ∧ u.node? k = some .directory

namespace Grows

variable {W W' : Location → Prop} {v : FileTree}

theorem refl (W : Location → Prop) (t : FileTree) : Grows W t t := ⟨rfl, fun _ => .inl rfl⟩

theorem mono (h : Grows W t u) (sub : ∀ k, W k → W' k) : Grows W' t u :=
  ⟨h.here, fun k => (h.node k).imp id fun ⟨hw, hn⟩ => ⟨sub k hw, hn⟩⟩

theorem directory (h : Grows W t u) (hk : t.node? k = some .directory) :
    u.node? k = some .directory := by
  rcases h.node k with hn | ⟨-, -, hn⟩
  · rw [hn, hk]
  · exact hn

theorem file_iff (h : Grows W t u) {b : ByteArray} :
    u.node? k = some (.file b) ↔ t.node? k = some (.file b) := by
  rcases h.node k with hn | ⟨-, hn, hn'⟩
  · rw [hn]
  · rw [hn, hn']
    simp

theorem outside (h : Grows W t u) (hk : ¬ W k) : u.node? k = t.node? k := by
  rcases h.node k with hn | ⟨hw, -⟩
  · exact hn
  · exact absurd hw hk

theorem trans (h : Grows W t u) (h' : Grows W u v) : Grows W t v := by
  refine ⟨h'.here.trans h.here, ?_⟩
  intro k
  rcases h.node k with hn | ⟨hw, hn, hd⟩
  · rw [← hn]
    exact h'.node k
  · exact .inr ⟨hw, hn, h'.directory hd⟩

end Grows

theorem grows_putDirectory (t : FileTree) (l : Location) : Grows (· = l) t (t.putDirectory l) := by
  unfold putDirectory
  split
  · next h =>
    refine ⟨rfl, ?_⟩
    intro k
    rw [node?_add]
    by_cases hk : k = l
    · subst hk
      rw [if_pos rfl]
      exact .inr ⟨rfl, h.2.2.1, rfl⟩
    · rw [if_neg hk]
      exact .inl rfl
  · exact .refl _ t

/-- A place where a directory stands, or could be made. -/
def Creatable (t : FileTree) (l : Location) : Prop :=
  (t.putDirectory l).node? l = some .directory

theorem creatable_of_directory (h : t.node? l = some .directory) : t.Creatable l :=
  (grows_putDirectory t l).directory h

theorem putDirectory_of_not_creatable (h : ¬ t.Creatable l) : t.putDirectory l = t := by
  by_cases hput : l ≠ [] ∧ l.all isName = true ∧ t.node? l = none ∧
      t.node? l.dropLast = some .directory
  · have hd := node?_putDirectory hput.1 hput.2.1 hput.2.2.1 hput.2.2.2 l
    rw [if_pos rfl] at hd
    exact absurd hd h
  · exact dif_neg hput

theorem creatable_iff :
    t.Creatable l ↔ t.node? l = some .directory ∨
      t.node? l = none ∧ l ≠ [] ∧ l.all isName = true ∧ t.node? l.dropLast = some .directory := by
  constructor
  · intro h
    by_cases hput : l ≠ [] ∧ l.all isName = true ∧ t.node? l = none ∧
        t.node? l.dropLast = some .directory
    · exact .inr ⟨hput.2.2.1, hput.1, hput.2.1, hput.2.2.2⟩
    · rw [Creatable, putDirectory, dif_neg hput] at h
      exact .inl h
  · rintro (h | ⟨hfree, hne, hnames, habove⟩)
    · exact creatable_of_directory h
    · rw [Creatable, node?_putDirectory hne hnames hfree habove, if_pos rfl]

theorem not_creatable_of_file (h : ∃ b, t.node? l = some (.file b)) : ¬ t.Creatable l := by
  obtain ⟨b, hb⟩ := h
  rw [creatable_iff, hb]
  simp

theorem creatable_congr (node : u.node? l = t.node? l)
    (above : u.node? l.dropLast = some .directory ↔ t.node? l.dropLast = some .directory) :
    u.Creatable l ↔ t.Creatable l := by
  rw [creatable_iff, creatable_iff, node, above]

theorem Grows.creatable {W : Location → Prop} (h : Grows W t u) (hl : t.Creatable l) :
    u.Creatable l := by
  rcases creatable_iff.1 hl with hd | ⟨hfree, hne, hnames, habove⟩
  · exact creatable_of_directory (h.directory hd)
  · rcases h.node l with hn | ⟨-, -, hn⟩
    · exact creatable_iff.2 (.inr ⟨hn.trans hfree, hne, hnames, h.directory habove⟩)
    · exact creatable_of_directory hn

/-- Where a walk of some parts ends, and no file stands, a directory could be made. -/
theorem creatable_of_walk {parts : List String} (ne : parts ≠ []) (h : t.walk l parts = .ok m)
    (free : ∀ b, t.node? m ≠ some (.file b)) : t.Creatable m := by
  cases hm : t.node? m with
  | some n =>
    cases n with
    | file b => exact absurd hm (free b)
    | directory => exact creatable_of_directory hm
  | none =>
    rcases walk_end ne h with hd | ⟨k, name, rfl, hname, hk⟩
    · rw [hm] at hd
      cases hd
    · have hall : (k ++ [name]).all isName = true := by
        rw [List.all_append, Bool.and_eq_true]
        exact ⟨List.all_eq_true.2 (names_of_node? hk), by simp [hname]⟩
      rw [Creatable, node?_putDirectory (by simp) hall hm (by rwa [List.dropLast_concat]), if_pos rfl]

/-! ## One directory -/

theorem ensureDirectory_eq_ok_iff :
    t.ensureDirectory p = .ok u ↔
      ∃ l, t.locate p = .ok l ∧ (∀ b, t.node? l ≠ some (.file b)) ∧ u = t.putDirectory l := by
  unfold ensureDirectory makeDirectory isDirectory look
  cases hl : t.locate p with
  | error f => simp
  | ok l =>
    cases hn : t.node? l with
    | none => simp [hn, eq_comm]
    | some n =>
      cases n with
      | file b => simp [hn]
      | directory =>
        have hput : t.putDirectory l = t := dif_neg (by simp [hn])
        simp [hn, hput, eq_comm]

theorem fault_of_ensureDirectory (h : t.ensureDirectory p = .error e) :
    t.locate p = .error e.fault ∨
      ∃ l b, t.locate p = .ok l ∧ t.node? l = some (.file b) ∧ e.fault = .present := by
  unfold ensureDirectory makeDirectory isDirectory look at h
  cases hl : t.locate p with
  | error f =>
    simp only [hl] at h
    obtain rfl := Except.error.inj h
    exact .inl rfl
  | ok l =>
    cases hn : t.node? l with
    | none => simp [hl, hn] at h
    | some n =>
      cases n with
      | directory => simp [hl, hn] at h
      | file b =>
        simp [hl, hn] at h
        exact .inr ⟨l, b, rfl, hn, by rw [← h]⟩

/-! ## A directory and those above it -/

theorem ensureAll_child (t : FileTree) (p : Path) (part : String) :
    t.ensureAll (p.child part) =
      match t.ensureDirectory (p.child part) with
      | .ok u => (u, none)
      | .error e =>
        if e.fault = .missing then
          match t.ensureAll p with
          | (u, some e) => (u, some e)
          | (u, none) =>
            match u.ensureDirectory (p.child part) with
            | .ok v => (v, none)
            | .error e => (u, some e)
        else (t, some e) := by
  have hparts : (p.child part).parts.reverse = part :: p.parts.reverse := List.reverse_concat
  have hpath : (⟨(p.child part).slashes, (part :: p.parts.reverse).reverse⟩ : Path) =
      p.child part := by
    rw [List.reverse_cons, List.reverse_reverse]
    rfl
  have habove : t.ensureFrom (p.child part).slashes p.parts.reverse = t.ensureAll p := rfl
  rw [ensureAll, hparts, ensureFrom, hpath]
  cases t.ensureDirectory (p.child part) with
  | ok u => rfl
  | error e =>
    generalize t.ensureAll p = made at habove ⊢
    subst habove
    rcases t.ensureFrom (p.child part).slashes p.parts.reverse with ⟨u, _ | e⟩
    · cases u.ensureDirectory (p.child part) <;> rfl
    · rfl

/-- What making a directory with those above it comes to: it is made at once, or behind those
above it, or not at all. -/
inductive Ensures (t : FileTree) (p : Path) (part : String) : FileTree × Option FileError → Prop
  | atOnce {l : Location} (located : t.locate (p.child part) = .ok l)
      (free : ∀ b, t.node? l ≠ some (.file b)) : Ensures t p part (t.putDirectory l, none)
  | behind {u : FileTree} {l : Location} (above : t.ensureAll p = (u, none))
      (located : u.locate (p.child part) = .ok l) (free : ∀ b, u.node? l ≠ some (.file b)) :
      Ensures t p part (u.putDirectory l, none)
  | fails {u : FileTree} {e : FileError} (left : u = t ∨ u = (t.ensureAll p).1) :
      Ensures t p part (u, some e)

theorem ensures_child (t : FileTree) (p : Path) (part : String) :
    Ensures t p part (t.ensureAll (p.child part)) := by
  rw [ensureAll_child]
  cases hd : t.ensureDirectory (p.child part) with
  | ok u =>
    obtain ⟨l, hl, hfree, rfl⟩ := ensureDirectory_eq_ok_iff.1 hd
    exact .atOnce hl hfree
  | error e =>
    by_cases he : e.fault = .missing
    · simp only [if_pos he]
      cases habove : t.ensureAll p with
      | mk u e? =>
        cases e? with
        | some e => exact .fails (.inr (by rw [habove]))
        | none =>
          cases hd' : u.ensureDirectory (p.child part) with
          | error e =>
            simp only [hd']
            exact .fails (.inr (by rw [habove]))
          | ok v =>
            obtain ⟨l, hl, hfree, rfl⟩ := ensureDirectory_eq_ok_iff.1 hd'
            simp only [hd']
            exact .behind habove hl hfree
    · simp only [if_neg he]
      exact .fails (.inl rfl)

/-- The start of a path is made alone. -/
theorem ensureAll_start (t : FileTree) (slashes : Nat) :
    (∃ u e, t.ensureAll ⟨slashes, []⟩ = (u, some e) ∧ u = t) ∨
      t.ensureAll ⟨slashes, []⟩ = (t.putDirectory ((⟨slashes, []⟩ : Path).start t.here), none) := by
  show (∃ u e, t.ensureFrom slashes [] = (u, some e) ∧ u = t) ∨ t.ensureFrom slashes [] = _
  rw [ensureFrom]
  cases hd : t.ensureDirectory ⟨slashes, []⟩ with
  | error e => exact .inl ⟨t, e, rfl, rfl⟩
  | ok u =>
    obtain ⟨l, hl, -, rfl⟩ := ensureDirectory_eq_ok_iff.1 hd
    rw [locate_place hl]
    exact .inr rfl

/-- **Only directories on the way are made.** -/
theorem grows_ensureAll (t : FileTree) (p : Path) :
    Grows (· ∈ p.way t.here) t (t.ensureAll p).1 := by
  obtain ⟨slashes, parts⟩ := p
  induction parts using List.reverseRecOn with
  | nil =>
    rcases ensureAll_start t slashes with ⟨u, e, h, rfl⟩ | h
    · rw [h]
      exact .refl _ _
    · rw [h]
      refine (grows_putDirectory t _).mono ?_
      rintro k rfl
      exact Path.start_mem_way
  | append_singleton parts part ih =>
    have habove : Grows (· ∈ (Path.child ⟨slashes, parts⟩ part).way t.here) t _ :=
      ih.mono fun k hk => Path.way_child_subset hk
    have hend : ∀ {v : FileTree} {l : Location}, v.here = t.here →
        v.locate (Path.child ⟨slashes, parts⟩ part) = .ok l →
        Grows (· ∈ (Path.child ⟨slashes, parts⟩ part).way t.here) v (v.putDirectory l) := by
      intro v l hhere hl
      refine (grows_putDirectory v l).mono ?_
      rintro k rfl
      rw [locate_place hl, hhere]
      exact Path.place_mem_way
    show Grows _ t (t.ensureAll (Path.child ⟨slashes, parts⟩ part)).1
    cases hensures : t.ensureAll (Path.child ⟨slashes, parts⟩ part) with
    | mk u e? =>
      have h := ensures_child t ⟨slashes, parts⟩ part
      rw [hensures] at h
      cases h with
      | atOnce located free => exact hend rfl located
      | @behind v l above located free =>
        rw [above] at habove
        exact habove.trans (hend habove.here located)
      | fails left =>
        rcases left with rfl | rfl
        · exact .refl _ _
        · exact habove

/-- Nothing is made from a start that is no directory and cannot become one. -/
theorem ensureAll_eq_or_creatable (t : FileTree) (p : Path) :
    (t.ensureAll p).1 = t ∨ t.Creatable (p.start t.here) := by
  obtain ⟨slashes, parts⟩ := p
  induction parts using List.reverseRecOn with
  | nil =>
    rcases ensureAll_start t slashes with ⟨u, e, h, rfl⟩ | h
    · exact .inl (by rw [h])
    · by_cases hstart : t.Creatable ((⟨slashes, []⟩ : Path).start t.here)
      · exact .inr hstart
      · left
        rw [h]
        exact putDirectory_of_not_creatable hstart
  | append_singleton parts part ih =>
    -- what was walked along begins with a directory
    have hwalked : ∀ {v : FileTree} {l : Location}, v.here = t.here →
        v.locate (Path.child ⟨slashes, parts⟩ part) = .ok l →
        v.node? ((⟨slashes, parts⟩ : Path).start t.here) = some .directory := by
      intro v l hhere hl
      rw [← hhere]
      exact (locate_child_eq_ok_iff.1 hl).2.1 _ Path.start_mem_way
    show (t.ensureAll (Path.child ⟨slashes, parts⟩ part)).1 = t ∨ _
    cases hensures : t.ensureAll (Path.child ⟨slashes, parts⟩ part) with
    | mk u e? =>
      have h := ensures_child t ⟨slashes, parts⟩ part
      rw [hensures] at h
      cases h with
      | atOnce located free => exact .inr (creatable_of_directory (hwalked rfl located))
      | @behind v l above located free =>
        rw [above] at ih
        rcases ih with rfl | hstart
        · exact .inr (creatable_of_directory (hwalked rfl located))
        · exact .inr hstart
      | fails left =>
        rcases left with rfl | rfl
        · exact .inl rfl
        · exact ih

/-- Where a directory was made there are directories on all of its way, and its parts can be walked
along. -/
theorem stands_of_ensureAll (h : t.ensureAll p = (u, none))
    (start : t.Creatable (p.start t.here)) :
    (∀ q ∈ p.parts, Walkable q) ∧ ∀ k ∈ p.way t.here, u.node? k = some .directory := by
  obtain ⟨slashes, parts⟩ := p
  rcases List.eq_nil_or_concat' parts with rfl | ⟨parts, part, rfl⟩
  · rcases ensureAll_start t slashes with ⟨v, e, hv, -⟩ | hv
    · rw [h] at hv
      cases hv
    · rw [h] at hv
      obtain ⟨rfl, -⟩ := Prod.mk.inj hv
      refine ⟨by simp, ?_⟩
      intro k hk
      obtain ⟨names, hnames, rfl⟩ := Path.mem_way.1 hk
      obtain rfl := List.prefix_nil.1 hnames
      exact start
  · have hend : ∀ {v : FileTree} {l : Location}, v.here = t.here →
        v.locate (Path.child ⟨slashes, parts⟩ part) = .ok l →
        (∀ b, v.node? l ≠ some (.file b)) →
        (∀ q ∈ parts ++ [part], Walkable q) ∧
          ∀ k ∈ (Path.child ⟨slashes, parts⟩ part).way t.here,
            (v.putDirectory l).node? k = some .directory := by
      intro v l hhere hl hfree
      obtain ⟨hwalkable, hway, hplace⟩ := locate_child_eq_ok_iff.1 hl
      refine ⟨hwalkable, ?_⟩
      intro k hk
      rw [← hhere] at hk
      rcases Path.mem_way_child.1 hk with hk | rfl
      · exact (grows_putDirectory v l).directory (hway k hk)
      · rw [← hplace]
        exact creatable_of_walk (by simp [Path.child]) (locate_eq_ok_iff.1 hl).2 hfree
    have hensures := ensures_child t ⟨slashes, parts⟩ part
    rw [show Path.child ⟨slashes, parts⟩ part = ⟨slashes, parts ++ [part]⟩ from rfl, h] at hensures
    cases hensures with
    | atOnce located free => exact hend rfl located free
    | @behind v l above located free =>
      have habove := grows_ensureAll t ⟨slashes, parts⟩
      rw [above] at habove
      exact hend habove.here located free

/-! ## Open ways -/

/-- A path along which directories can be made: it starts where one may stand, its parts can be
walked along, and no file stands on its way. -/
structure Open (t : FileTree) (p : Path) : Prop where
  start : t.Creatable (p.start t.here)
  walkable : ∀ q ∈ p.parts, Walkable q
  free : ∀ k ∈ p.way t.here, ∀ b, t.node? k ≠ some (.file b)

theorem open_of_ensureAll (h : t.ensureAll p = (u, none)) (start : t.Creatable (p.start t.here)) :
    t.Open p := by
  obtain ⟨hwalkable, hway⟩ := stands_of_ensureAll h start
  refine ⟨start, hwalkable, ?_⟩
  intro k hk b hb
  have hgrows := grows_ensureAll t p
  rw [h] at hgrows
  have hd := hway k hk
  rw [hgrows.file_iff.2 hb] at hd
  cases hd

theorem Open.above (h : t.Open (p.child part)) : t.Open p :=
  ⟨h.start, fun q hq => h.walkable q (List.mem_append_left _ hq),
    fun k hk => h.free k (Path.way_child_subset hk)⟩

/-- **Along an open way a directory is made.** -/
theorem ensureAll_of_open (h : t.Open p) : (t.ensureAll p).2 = none := by
  obtain ⟨slashes, parts⟩ := p
  induction parts using List.reverseRecOn with
  | nil =>
    have hlocate : t.locate ⟨slashes, []⟩ = .ok ((⟨slashes, []⟩ : Path).start t.here) := rfl
    have hmade : t.ensureDirectory ⟨slashes, []⟩ = .ok _ :=
      ensureDirectory_eq_ok_iff.2 ⟨_, hlocate, h.free _ Path.start_mem_way, rfl⟩
    show (t.ensureFrom slashes []).2 = none
    rw [ensureFrom, hmade]
  | append_singleton parts part ih =>
    have hchild : (⟨slashes, parts ++ [part]⟩ : Path) = Path.child ⟨slashes, parts⟩ part := rfl
    rw [hchild] at h ⊢
    have hfree := h.free _ Path.place_mem_way
    by_cases hlocate : ∃ l, t.locate (Path.child ⟨slashes, parts⟩ part) = .ok l
    · obtain ⟨l, hl⟩ := hlocate
      rw [← locate_place hl] at hfree
      rw [ensureAll_child, ensureDirectory_eq_ok_iff.2 ⟨l, hl, hfree, rfl⟩]
    · -- something on the way is missing, and is made first
      have hmissing : t.locate (Path.child ⟨slashes, parts⟩ part) = .error .missing := by
        have hnull := Path.hasNull_of_walkable h.walkable
        rw [locate, hnull] at hlocate ⊢
        refine walk_missing h.walkable ?_ (not_exists.1 hlocate)
        exact fun names hnames => h.free _ (Path.mem_way.2 ⟨names, hnames, rfl⟩)
      have hnone := ih h.above
      cases habove : t.ensureAll ⟨slashes, parts⟩ with
      | mk v e? =>
        rw [habove] at hnone
        obtain rfl : e? = none := hnone
        have hgrows := grows_ensureAll t ⟨slashes, parts⟩
        rw [habove] at hgrows
        obtain ⟨-, hway⟩ := stands_of_ensureAll habove h.start
        have hl : v.locate (Path.child ⟨slashes, parts⟩ part) = .ok _ :=
          locate_child_eq_ok_iff.2 ⟨h.walkable, by rwa [hgrows.here], rfl⟩
        have hmade := ensureDirectory_eq_ok_iff.2 ⟨_, hl, ?_, rfl⟩
        · rw [ensureAll_child]
          cases hd : t.ensureDirectory (Path.child ⟨slashes, parts⟩ part) with
          | ok u => rfl
          | error e =>
            have he : e.fault = .missing := by
              rcases fault_of_ensureDirectory hd with hf | ⟨l, b, hf, -⟩
              · exact Except.error.inj (hf.symm.trans hmissing)
              · exact absurd ⟨l, hf⟩ hlocate
            simp only [if_pos he, habove, hmade]
        · intro b hb
          rw [hgrows.here] at hb
          exact hfree b (hgrows.file_iff.1 hb)

theorem Open.made (h : t.Open p) : ∃ u, t.ensureAll p = (u, none) ∧
    Grows (· ∈ p.way t.here) t u ∧ ∀ k ∈ p.way t.here, u.node? k = some .directory := by
  have hnone := ensureAll_of_open h
  have hgrows := grows_ensureAll t p
  cases hmade : t.ensureAll p with
  | mk u e? =>
    rw [hmade] at hnone hgrows
    obtain rfl : e? = none := hnone
    exact ⟨u, rfl, hgrows, (stands_of_ensureAll hmade h.start).2⟩

/-! ## Writing behind a way -/

theorem writeBytes_eq_ok_iff {b : ByteArray} :
    t.writeBytes p b = .ok u ↔
      ∃ l, t.locate p = .ok l ∧ t.node? l ≠ some .directory ∧ u = t.putFile l b := by
  unfold writeBytes
  cases t.locate p with
  | error f => simp
  | ok l =>
    cases hn : t.node? l with
    | none => simp [hn, eq_comm]
    | some n => cases n <;> simp [hn, eq_comm]

/-- A file is written behind a way of directories where there is none itself. -/
theorem writeBytes_child_eq_ok_iff {b : ByteArray} :
    t.writeBytes (p.child part) b = .ok u ↔
      (∀ q ∈ (p.child part).parts, Walkable q) ∧
        (∀ k ∈ p.way t.here, t.node? k = some .directory) ∧
        t.node? ((p.child part).place t.here) ≠ some .directory ∧
        u = t.putFile ((p.child part).place t.here) b := by
  rw [writeBytes_eq_ok_iff]
  constructor
  · rintro ⟨l, hl, hfree, rfl⟩
    obtain ⟨hwalkable, hway, rfl⟩ := locate_child_eq_ok_iff.1 hl
    exact ⟨hwalkable, hway, hfree, rfl⟩
  · rintro ⟨hwalkable, hway, hfree, rfl⟩
    exact ⟨_, locate_child_eq_ok_iff.2 ⟨hwalkable, hway, rfl⟩, hfree, rfl⟩

/-- What stands anywhere once a file was written. -/
theorem node?_writeBytes {b : ByteArray} (h : t.writeBytes (p.child part) b = .ok u)
    (k : Location) :
    u.node? k = if k = (p.child part).place t.here then some (.file b) else t.node? k := by
  obtain ⟨l, hl, hfree, rfl⟩ := writeBytes_eq_ok_iff.1 h
  have hparts : (p.child part).parts ≠ [] := by simp [Path.child]
  rw [← locate_place hl]
  obtain ⟨j, name, rfl, hname, hj⟩ :=
    (walk_end hparts (locate_eq_ok_iff.1 hl).2).resolve_left hfree
  refine node?_putFile (by simp) ?_ hfree (by rwa [List.dropLast_concat]) k
  rw [List.all_append, Bool.and_eq_true]
  exact ⟨List.all_eq_true.2 (names_of_node? hj), by simp [hname]⟩

end FileTree

end Acceptance
