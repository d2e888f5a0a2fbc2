import Acceptance.Proofs.Files.Found

/-!
# Trees that differ in one file

A file may be changed or taken away.  What does not lead to it is found, looked at and read as
before, since no way goes through a file.

    t.node? l = some (.file b) → DiffersAt l t (t.remove l)          (differsAt_remove)
    DiffersAt l t t' → t.look q = .ok (k, n) → k ≠ l → t'.readText q = t.readText q
                                                                     (DiffersAt.readText)
    DiffersAt l t t' → t'.find p accepts = t.find p accepts
                                 where the name of the file is not accepted   (DiffersAt.find)
-/

namespace Acceptance

namespace FileTree

/-- Trees that differ in one place at most, where neither has a directory. -/
structure DiffersAt (l : Location) (t t' : FileTree) : Prop where
  here : t'.here = t.here
  node : ∀ k, k ≠ l → t'.node? k = t.node? k
  before : t.node? l ≠ some .directory
  behind : t'.node? l ≠ some .directory
  places : (t'.nodes.map Prod.fst).filter (· != l) = (t.nodes.map Prod.fst).filter (· != l)

namespace DiffersAt

variable {l k : Location} {t t' : FileTree} {n : Node} {p q : Path}

theorem directory_iff (h : DiffersAt l t t') :
    t'.node? k = some .directory ↔ t.node? k = some .directory := by
  by_cases hk : k = l
  · subst hk
    simp [h.before, h.behind]
  · rw [h.node k hk]

/-! ## Looking -/

/-- Faults of a way that ends too early. -/
def Lost {α : Type} (r : Except FileFault α) : Prop :=
  r = .error .missing ∨ r = .error .notDirectory

/-- A walk comes to the same in both trees, or is lost in both. -/
theorem walk (h : DiffersAt l t t') (parts : List String) :
    t'.walk k parts = t.walk k parts ∨ Lost (t'.walk k parts) ∧ Lost (t.walk k parts) := by
  have hlost : ∀ {u : FileTree} {part : String} {parts : List String},
      u.node? l ≠ some .directory → Lost (u.walk l (part :: parts)) := by
    intro u part parts hd
    rw [FileTree.walk, step]
    cases hn : u.node? l with
    | none => exact .inl rfl
    | some n =>
      cases n with
      | directory => exact absurd hn hd
      | file b => exact .inr rfl
  induction parts generalizing k with
  | nil => exact .inl rfl
  | cons part parts ih =>
    by_cases hk : k = l
    · subst hk
      exact .inr ⟨hlost h.behind, hlost h.before⟩
    · have hstep : t'.step k part = t.step k part := by rw [step, step, h.node k hk]
      rw [FileTree.walk, FileTree.walk, hstep]
      cases t.step k part with
      | error f => exact .inl rfl
      | ok m => exact ih

theorem locate (h : DiffersAt l t t') (q : Path) :
    t'.locate q = t.locate q ∨ Lost (t'.locate q) ∧ Lost (t.locate q) := by
  rw [FileTree.locate, FileTree.locate, h.here]
  cases q.hasNull with
  | true => exact .inl rfl
  | false => exact h.walk q.parts

theorem locate_eq_ok_iff (h : DiffersAt l t t') : t'.locate q = .ok k ↔ t.locate q = .ok k := by
  rcases h.locate q with he | ⟨hlost', hlost⟩
  · rw [he]
  · rcases hlost with he | he <;> rcases hlost' with he' | he' <;> rw [he, he'] <;> simp

/-- What stands elsewhere is looked at as before. -/
theorem look (h : DiffersAt l t t') (hk : k ≠ l) :
    t'.look q = .ok (k, n) ↔ t.look q = .ok (k, n) := by
  rw [look_eq_ok_iff, look_eq_ok_iff, h.locate_eq_ok_iff, h.node k hk]

theorem probe (h : DiffersAt l t t') (hq : t.locate q ≠ .ok l) : t'.probe q = t.probe q := by
  unfold FileTree.probe FileTree.look
  rcases h.locate q with he | ⟨hlost', hlost⟩
  · rw [he]
    cases hl : t.locate q with
    | error f => rfl
    | ok k =>
      have hk : k ≠ l := by
        rintro rfl
        exact hq hl
      simp only [h.node k hk]
  · rcases hlost with he | he <;> rcases hlost' with he' | he' <;> rw [he, he']

/-- Whether a path may be asked for does not depend on the file. -/
theorem probe_eq_error_iff (h : DiffersAt l t t') {e : FileError} :
    t'.probe q = .error e ↔ t.probe q = .error e := by
  by_cases hq : t.locate q = .ok l
  · have hno : ∀ {u : FileTree}, u.locate q = .ok l → u.probe q ≠ .error e := by
      intro u hu he
      unfold FileTree.probe FileTree.look at he
      rw [hu] at he
      cases hn : u.node? l <;> simp [hn] at he
    exact iff_of_false (hno (h.locate_eq_ok_iff.2 hq)) (hno hq)
  · rw [h.probe hq]

theorem isFile (h : DiffersAt l t t') (hq : t.locate q ≠ .ok l) : t'.isFile q = t.isFile q := by
  rw [Bool.eq_iff_iff, isFile_iff, isFile_iff]
  have hne : ∀ {k b}, t.look q = .ok (k, .file b) ∨ t'.look q = .ok (k, .file b) → k ≠ l := by
    rintro k b (hb | hb) rfl
    · exact hq (look_eq_ok_iff.1 hb).1
    · exact hq (h.locate_eq_ok_iff.1 (look_eq_ok_iff.1 hb).1)
  constructor
  · rintro ⟨k, b, hb⟩
    exact ⟨k, b, (h.look (hne (.inr hb))).1 hb⟩
  · rintro ⟨k, b, hb⟩
    exact ⟨k, b, (h.look (hne (.inl hb))).2 hb⟩

/-- **What leads elsewhere is read as before.** -/
theorem readText (h : DiffersAt l t t') (hq : t.look q = .ok (k, n)) (hk : k ≠ l) :
    t'.readText q = t.readText q := readText_congr (((h.look hk).2 hq).trans hq.symm)

/-! ## Searching -/

theorem placesBelow (h : DiffersAt l t t') (k : Location) :
    (t'.placesBelow k).filter (· != l) = (t.placesBelow k).filter (· != l) := by
  have hcomm : ∀ u : FileTree, (u.placesBelow k).filter (· != l) =
      ((u.nodes.map Prod.fst).filter (· != l)).filter fun j => k.isPrefixOf j && j != k := by
    intro u
    rw [FileTree.placesBelow, List.filter_filter, List.filter_filter]
    exact List.filter_congr fun j _ => Bool.and_comm _ _
  rw [hcomm, hcomm, h.places]

/-- What lies below a directory is the same in both trees, but for paths of the file. -/
theorem contents (h : DiffersAt l t t') {keeps : Path → Bool}
    (hkeeps : ∀ names, names ≠ [] → l = p.place t.here ++ names → keeps (p.down names) = false) :
    (t'.contents p).filter keeps = (t.contents p).filter keeps := by
  have hbelow : ∀ {u : FileTree} {k : Location}, u.look p = .ok (k, .directory) →
      (u.contents p).filter keeps = ((u.placesBelow k).filter fun j =>
        keeps (p.down (j.drop k.length))).map fun j => p.down (j.drop k.length) := by
    intro u k hk
    unfold FileTree.contents
    rw [hk]
    exact List.filter_map
  have hlook : ∀ k, t'.look p = .ok (k, .directory) ↔ t.look p = .ok (k, .directory) := by
    intro k
    rw [look_eq_ok_iff, look_eq_ok_iff, h.locate_eq_ok_iff, h.directory_iff]
  by_cases hdirectory : ∃ k, t.look p = .ok (k, .directory)
  · obtain ⟨k, hk⟩ := hdirectory
    rw [hbelow hk, hbelow ((hlook k).2 hk)]
    have hplace : k = p.place t.here := locate_place (look_eq_ok_iff.1 hk).1
    -- among the places that are kept is not that of the file
    have hfilter : ∀ u : FileTree, ((u.placesBelow k).filter fun j =>
        keeps (p.down (j.drop k.length))) =
        ((u.placesBelow k).filter (· != l)).filter fun j => keeps (p.down (j.drop k.length)) := by
      intro u
      rw [List.filter_filter]
      refine List.filter_congr ?_
      intro j hj
      by_cases he : j = l
      · obtain ⟨names, -, ne, hnames, -⟩ := mem_placesBelow hj
        have hdrop : keeps (p.down (j.drop k.length)) = false := by
          rw [hnames, List.drop_left]
          exact hkeeps names ne (by rw [← hplace, ← hnames, he])
        rw [hdrop, Bool.false_and]
      · simp [he]
    rw [hfilter t', hfilter t, h.placesBelow]
  · have hnone : ∀ {u : FileTree}, (∀ k, u.look p ≠ .ok (k, .directory)) → u.contents p = [] := by
      intro u hu
      unfold FileTree.contents
      split
      · next k hk => exact absurd hk (hu k)
      · rfl
    rw [hnone fun k hk => hdirectory ⟨k, hk⟩, hnone fun k hk => hdirectory ⟨k, (hlook k).1 hk⟩]

/-- A search finds the same in both trees where it does not accept the name of the file. -/
theorem find (h : DiffersAt l t t') {accepts : String → Bool}
    (rejected : ∀ name, l.getLast? = some name → accepts name = false) :
    t'.find p accepts = t.find p accepts := by
  have hcontents : (t'.contents p).filter (fun q => accepts q.name) =
      (t.contents p).filter fun q => accepts q.name := by
    refine h.contents ?_
    rintro names ne rfl
    refine rejected _ ?_
    rw [Path.name_down ne, List.getLast?_append, List.getLast?_eq_some_getLast ne]
    rfl
  rw [FileTree.find, FileTree.find, hcontents]

/-- A search finds the same besides the path of the file. -/
theorem find_filter (h : DiffersAt l t t') {accepts : String → Bool} {names : List String}
    (place : l = p.place t.here ++ names) :
    (t'.find p accepts).filter (· != p.down names) = (t.find p accepts).filter (· != p.down names) := by
  have hcontents : (t'.contents p).filter (fun q => q != p.down names && accepts q.name) =
      (t.contents p).filter fun q => q != p.down names && accepts q.name := by
    refine h.contents ?_
    intro others _ he
    rw [place, List.append_cancel_left_eq] at he
    simp [he]
  have hperm : ∀ u : FileTree, ((u.find p accepts).filter (· != p.down names)).Perm
      ((u.contents p).filter fun q => q != p.down names && accepts q.name) := by
    intro u
    rw [← List.filter_filter]
    exact (List.mergeSort_perm _ _).filter _
  exact Path.eq_of_sorted (n := p.slashes)
    (fun q hq => slashes_of_find (List.mem_filter.1 hq).1)
    (fun q hq => slashes_of_find (List.mem_filter.1 hq).1)
    ((find_sorted t' p accepts).filter _) ((find_sorted t p accepts).filter _)
    ((hperm t').trans (hcontents ▸ (hperm t).symm))

end DiffersAt

/-! ## Edits -/

/-- A file gets other bytes or is taken away. -/
inductive Edits (t : FileTree) (l : Location) : FileTree → Prop
  | replaced (bytes : ByteArray) : Edits t l (t.putFile l bytes)
  | removed : Edits t l (t.remove l)

section
variable {t t' : FileTree} {l k : Location} {old : ByteArray}

theorem node?_remove (there : t.node? l = some (.file old)) (k : Location) :
    (t.remove l).node? k = if k = l then none else t.node? k := by
  have hl : l ≠ [] := by
    rintro rfl
    rw [node?_nil] at there
    cases there
  have hmem : ∀ {n : Node}, (k, n) ∈ (t.remove l).nodes ↔
      (k, n) ∈ t.nodes ∧ l.isPrefixOf k = false := by
    intro n
    simp only [remove, List.mem_filter, Bool.not_eq_eq_eq_not, Bool.not_true]
  by_cases hk : k = l
  · subst hk
    rw [if_pos rfl]
    cases hn : (t.remove k).node? k with
    | none => rfl
    | some n =>
      have hprefix := (hmem.1 (mem_of_node? hl hn)).2
      rw [List.isPrefixOf_iff_prefix.2 (List.prefix_refl k)] at hprefix
      cases hprefix
  · rw [if_neg hk]
    by_cases hroot : k = []
    · rw [hroot, node?_nil, node?_nil]
    · -- a file has nothing below it
      have hbeside : ∀ {n : Node}, t.node? k = some n → l.isPrefixOf k = false := by
        intro n hn
        cases hp : l.isPrefixOf k with
        | false => rfl
        | true =>
          obtain ⟨names, rfl⟩ := List.isPrefixOf_iff_prefix.1 hp
          have hnames : names ≠ [] := by
            rintro rfl
            exact hk (List.append_nil l)
          rw [node?_above hnames hn] at there
          cases there
      cases hn : t.node? k with
      | some n => exact node?_of_mem (hmem.2 ⟨mem_of_node? hroot hn, hbeside hn⟩)
      | none =>
        cases hn' : (t.remove l).node? k with
        | none => rfl
        | some n =>
          rw [node?_of_mem (hmem.1 (mem_of_node? hroot hn')).1] at hn
          cases hn

theorem node?_putFile_file (there : t.node? l = some (.file old)) (bytes : ByteArray)
    (k : Location) : (t.putFile l bytes).node? k = if k = l then some (.file bytes) else t.node? k := by
  unfold putFile
  split
  · exact node?_replace _ k
  · next hd =>
    rw [there] at hd
    cases hd
  · next hn =>
    rw [there] at hn
    cases hn

theorem places_putFile (there : t.node? l = some (.file old)) (bytes : ByteArray) :
    (t.putFile l bytes).nodes.map Prod.fst = t.nodes.map Prod.fst := by
  unfold putFile
  split
  · show (t.nodes.map fun e => if e.1 = l then (l, Node.file bytes) else e).map Prod.fst = _
    rw [List.map_map]
    refine List.map_congr_left ?_
    intro e _
    by_cases he : e.1 = l <;> simp [he]
  · rfl
  · next hn =>
    rw [there] at hn
    cases hn

/-- **An edit changes nothing but the file.** -/
theorem Edits.differsAt (h : t.Edits l t') (there : t.node? l = some (.file old)) :
    DiffersAt l t t' := by
  have hbefore : t.node? l ≠ some .directory := by simp [there]
  cases h with
  | replaced bytes =>
    have hnode := node?_putFile_file there bytes
    refine ⟨(keeps_putFile t l bytes).here, ?_, hbefore, by simp [hnode], ?_⟩
    · intro k hk
      rw [hnode, if_neg hk]
    · rw [places_putFile there]
  | removed =>
    have hnode := node?_remove there
    refine ⟨rfl, ?_, hbefore, by simp [hnode], ?_⟩
    · intro k hk
      rw [hnode, if_neg hk]
    · show ((t.nodes.filter fun e => !l.isPrefixOf e.1).map Prod.fst).filter (· != l) =
        (t.nodes.map Prod.fst).filter (· != l)
      rw [List.filter_map, List.filter_map, List.filter_filter]
      congr 1
      refine List.filter_congr ?_
      rintro ⟨k, n⟩ hk
      by_cases he : k = l
      · simp [he]
      · have hstays : (t.remove l).node? k = some n := by
          rw [hnode, if_neg he, node?_of_mem hk]
        have hmem := mem_of_node? (t.rooted k n hk).1 hstays
        have hkept := (List.mem_filter.1 hmem).2
        simp [hkept]

end

end FileTree

end Acceptance
