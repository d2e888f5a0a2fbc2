import Acceptance.Proofs.Files.Making

/-!
# Ways that are blocked

A directory that cannot be made has a way that is blocked: it leads into a file, or through a
directory to a part that no walk goes along.  Such a way stays blocked as long as directories stay
and files stay files.  So what was asked for in vain, or is there already, changes nothing when it
is asked for again.

    t.ensureAll p = (u, some e) → u.Blocked p                       (blocked_of_ensureAll)
    t.Blocked p → t.ensureAll p = (t, some e)  for some e           (Blocked.ensureAll)
    t.look p = .ok (l, .directory) → t.ensureAll p = (t, none)      (ensureAll_of_look)
    t.readBytes p = .ok b → t.writeBytes p b = .ok t                (writeBytes_same)
-/

namespace Acceptance.FileTree

variable {t u : FileTree} {p : Path} {part name : String} {l m k : Location} {e : FileError}
  {f : FileFault} {b : ByteArray}

/-! ## Walks that fail -/

/-- A walk fails at its first part that no step can be taken along. -/
theorem walk_eq_error {parts : List String} (h : t.walk l parts = .error f) :
    ∃ names part rest m, parts = names ++ part :: rest ∧ t.walk l names = .ok m ∧
      t.step m part = .error f := by
  induction parts generalizing l with
  | nil => cases h
  | cons first parts ih =>
    rw [walk] at h
    cases hs : t.step l first with
    | error g =>
      rw [hs] at h
      obtain rfl := Except.error.inj h
      exact ⟨[], first, parts, l, rfl, rfl, hs⟩
    | ok n =>
      rw [hs] at h
      obtain ⟨names, part, rest, m, rfl, hwalk, hstep⟩ := ih h
      refine ⟨first :: names, part, rest, m, rfl, ?_, hstep⟩
      rw [walk, hs]
      exact hwalk

theorem step_eq_error (h : t.step l part = .error f) :
    t.node? l = none ∧ f = .missing ∨ (∃ b, t.node? l = some (.file b)) ∨
      t.node? l = some .directory ∧ ¬ Walkable part := by
  cases hl : t.node? l with
  | none =>
    rw [step, hl] at h
    exact .inl ⟨rfl, (Except.error.inj h).symm⟩
  | some n =>
    cases n with
    | file b => exact .inr (.inl ⟨b, rfl⟩)
    | directory =>
      refine .inr (.inr ⟨rfl, ?_⟩)
      intro hw
      rw [step_eq_ok_iff.2 ⟨hl, hw, rfl⟩] at h
      cases h

/-! ## Blocked ways -/

/-- A path whose way leads into a file, or through a directory to a part that no walk goes along. -/
inductive Blocked (t : FileTree) (p : Path) : Prop
  | file {names rest : List String} {m : Location} {b : ByteArray} (parts : p.parts = names ++ rest)
      (walk : t.walk (p.start t.here) names = .ok m) (there : t.node? m = some (.file b))
  | part {names rest : List String} {part : String} {m : Location}
      (parts : p.parts = names ++ part :: rest) (walk : t.walk (p.start t.here) names = .ok m)
      (there : t.node? m = some .directory) (legless : ¬ Walkable part)

theorem Blocked.child (h : t.Blocked p) : t.Blocked (p.child part) := by
  have hchild : (p.child part).parts = p.parts ++ [part] := rfl
  cases h with
  | @file names rest m b parts walk there =>
    have hparts : (p.child part).parts = names ++ (rest ++ [part]) := by
      rw [hchild, parts, List.append_assoc]
    exact .file hparts walk there
  | @part names rest stop m parts walk there legless =>
    have hparts : (p.child part).parts = names ++ stop :: (rest ++ [part]) := by
      rw [hchild, parts, List.append_assoc, List.cons_append]
    exact .part hparts walk there legless

/-- A blocked way stays blocked where directories stay and files stay files. -/
theorem Blocked.stays {W : Location → Prop} (h : t.Blocked p) (keeps : Keeps W t u)
    (files : ∀ k b, t.node? k = some (.file b) → ∃ b', u.node? k = some (.file b')) :
    u.Blocked p := by
  cases h with
  | file parts walk there =>
    obtain ⟨b', hb'⟩ := files _ _ there
    exact .file parts (by rw [keeps.here]; exact keeps.walk walk) hb'
  | part parts walk there legless =>
    exact .part parts (by rw [keeps.here]; exact keeps.walk walk) (keeps.directory _ there) legless

/-- A way that cannot be walked, though nothing is missing on it, is blocked. -/
theorem blocked_of_locate (null : p.hasNull = false) (h : t.locate p = .error f)
    (present : f ≠ .missing) : t.Blocked p := by
  have hwalk : t.walk (p.start t.here) p.parts = .error f := by
    rw [locate, null] at h
    exact h
  obtain ⟨names, part, rest, m, hparts, hnames, hstep⟩ := walk_eq_error hwalk
  rcases step_eq_error hstep with ⟨-, hmissing⟩ | ⟨b, hb⟩ | ⟨hd, hpart⟩
  · exact absurd hmissing present
  · exact .file hparts hnames hb
  · exact .part hparts hnames hd hpart

/-! ## Below a directory -/

/-- The way to what may stand in a directory. -/
theorem locate_below_iff (h : t.look p = .ok (l, .directory)) :
    t.locate (p.child name) = .ok m ↔ Walkable name ∧ m = l.onward name := by
  obtain ⟨hlocate, hd⟩ := look_eq_ok_iff.1 h
  obtain ⟨hnull, hwalk⟩ := locate_eq_ok_iff.1 hlocate
  have hchild : t.walk ((p.child name).start t.here) (p.child name).parts = t.walk l [name] :=
    walk_append hwalk [name]
  have hstep : t.walk l [name] = .ok m ↔ Walkable name ∧ m = l.onward name := by
    rw [walk_cons_eq_ok_iff, walk, Except.ok.injEq, eq_comm (a := l.onward name)]
    simp only [hd, true_and]
  constructor
  · intro hm
    exact hstep.1 (hchild.symm.trans (locate_eq_ok_iff.1 hm).2)
  · intro hm
    refine locate_eq_ok_iff.2 ⟨?_, hchild.trans (hstep.2 hm)⟩
    have hname : Path.hasNull ⟨0, [name]⟩ = false :=
      Path.hasNull_of_walkable (by simpa using hm.1)
    show (p.parts ++ [name]).any Path.hasNullChar = false
    rw [List.any_append, Bool.or_eq_false_iff]
    exact ⟨hnull, hname⟩

/-- A way of directories leads to the last of them. -/
theorem look_of_way (walkable : ∀ q ∈ p.parts, Walkable q)
    (way : ∀ k ∈ p.way t.here, t.node? k = some .directory) :
    t.look p = .ok (p.place t.here, .directory) := by
  refine look_eq_ok_iff.2 ⟨?_, way _ Path.place_mem_way⟩
  obtain ⟨slashes, parts⟩ := p
  rcases List.eq_nil_or_concat' parts with rfl | ⟨parts, part, rfl⟩
  · rfl
  · have hlocate : t.locate (Path.child ⟨slashes, parts⟩ part) = .ok _ :=
      locate_child_eq_ok_iff.2 ⟨walkable, fun k hk => way k (Path.way_child_subset hk), rfl⟩
    exact hlocate

/-- Where a directory is there nothing is made. -/
theorem ensureAll_of_look (h : t.look p = .ok (l, .directory)) : t.ensureAll p = (t, none) := by
  obtain ⟨hlocate, hd⟩ := look_eq_ok_iff.1 h
  have hput : t.putDirectory l = t := dif_neg (by simp [hd])
  have hmade : t.ensureDirectory p = .ok t :=
    ensureDirectory_eq_ok_iff.2 ⟨l, hlocate, by simp [hd], hput.symm⟩
  obtain ⟨slashes, parts⟩ := p
  rcases List.eq_nil_or_concat' parts with rfl | ⟨parts, part, rfl⟩
  · show t.ensureFrom slashes [] = _
    rw [ensureFrom, hmade]
  · show t.ensureAll (Path.child ⟨slashes, parts⟩ part) = _
    have hchild : t.ensureDirectory (Path.child ⟨slashes, parts⟩ part) = .ok t := hmade
    rw [ensureAll_child, hchild]

/-- What bars a name of a directory from being written: no walk goes along it, or a directory has
it. -/
def Barred (t : FileTree) (l : Location) (name : String) : Prop :=
  ¬ Walkable name ∨ t.node? (l.onward name) = some .directory

theorem barred_iff (h : t.look p = .ok (l, .directory)) (b : ByteArray) :
    t.Barred l name ↔ ∃ e, t.writeBytes (p.child name) b = .error e := by
  have hok : (∃ u, t.writeBytes (p.child name) b = .ok u) ↔ ¬ t.Barred l name := by
    simp only [writeBytes_eq_ok_iff, locate_below_iff h, Barred, not_or, not_not]
    constructor
    · rintro ⟨u, m, ⟨hw, rfl⟩, hfree, -⟩
      exact ⟨hw, hfree⟩
    · rintro ⟨hw, hfree⟩
      exact ⟨_, _, ⟨hw, rfl⟩, hfree, rfl⟩
  rw [← not_iff_not, ← hok]
  cases t.writeBytes (p.child name) b with
  | error e => simp
  | ok u => simp

/-! ## Asking in vain -/

theorem hasNull_above (h : (p.child part).hasNull = false) : p.hasNull = false := by
  change (p.parts ++ [part]).any Path.hasNullChar = false at h
  rw [List.any_append, Bool.or_eq_false_iff] at h
  exact h.1

theorem blocked_of_file (hl : t.locate p = .ok l) (hb : t.node? l = some (.file b)) :
    t.Blocked p :=
  .file (List.append_nil _).symm (locate_eq_ok_iff.1 hl).2 hb

/-- A directory that is refused for something else than what is missing above it has a blocked
way. -/
theorem blocked_of_ensureDirectory (null : (p.child part).hasNull = false)
    (h : t.ensureDirectory (p.child part) = .error e)
    (above : e.fault ≠ .missing ∨ ∃ l, t.look p = .ok (l, .directory)) :
    t.Blocked (p.child part) := by
  rcases fault_of_ensureDirectory h with hf | ⟨l, b, hl, hb, -⟩
  · rcases above with hpresent | ⟨l, hlook⟩
    · exact blocked_of_locate null hf hpresent
    · obtain ⟨hlocate, hd⟩ := look_eq_ok_iff.1 hlook
      have hparts : (p.child part).parts = p.parts ++ part :: [] := rfl
      refine .part hparts (locate_eq_ok_iff.1 hlocate).2 hd ?_
      intro hw
      rw [(locate_below_iff hlook).2 ⟨hw, rfl⟩] at hf
      cases hf
  · exact blocked_of_file hl hb

/-- A directory that was made is there. -/
theorem look_of_ensureAll (h : t.ensureAll p = (u, none)) (start : t.Creatable (p.start t.here)) :
    u.look p = .ok (p.place u.here, .directory) := by
  obtain ⟨hwalkable, hway⟩ := stands_of_ensureAll h start
  have hgrows := grows_ensureAll t p
  rw [h] at hgrows
  have hhere : u.here = t.here := hgrows.here
  exact look_of_way hwalkable (by rwa [hhere])

/-- Where making a directory fails it is refused for something else than what is missing above it,
or one above it cannot be made, or it is refused behind that one. -/
theorem unmade_of_ensureAll_child (h : t.ensureAll (p.child part) = (u, some e)) :
    (u = t ∧ t.ensureDirectory (p.child part) = .error e ∧ e.fault ≠ .missing) ∨
      t.ensureAll p = (u, some e) ∨
        t.ensureAll p = (u, none) ∧ u.ensureDirectory (p.child part) = .error e := by
  rw [ensureAll_child] at h
  split at h
  · cases h
  · next hd =>
    split at h
    · split at h
      · next habove => exact .inr (.inl (habove.trans h))
      · next habove =>
        split at h
        · cases h
        · next hd' =>
          obtain ⟨rfl, ⟨⟩⟩ := Prod.mk.inj h
          exact .inr (.inr ⟨habove, hd'⟩)
    · next hpresent =>
      obtain ⟨rfl, ⟨⟩⟩ := Prod.mk.inj h
      exact .inl ⟨rfl, hd, hpresent⟩

/-- **A directory that cannot be made has a blocked way.** -/
theorem blocked_of_ensureAll (null : p.hasNull = false) (start : t.Creatable (p.start t.here))
    (h : t.ensureAll p = (u, some e)) : u.Blocked p := by
  obtain ⟨slashes, parts⟩ := p
  induction parts using List.reverseRecOn generalizing u e with
  | nil =>
    have hlocate : t.locate ⟨slashes, []⟩ = .ok ((⟨slashes, []⟩ : Path).start t.here) := rfl
    change t.ensureFrom slashes [] = _ at h
    rw [ensureFrom] at h
    cases hd : t.ensureDirectory ⟨slashes, []⟩ with
    | ok v =>
      rw [hd] at h
      cases h
    | error e' =>
      rw [hd] at h
      obtain ⟨rfl, -⟩ := Prod.mk.inj h
      rcases fault_of_ensureDirectory hd with hf | ⟨l, b, hl, hb, -⟩
      · rw [hlocate] at hf
        cases hf
      · exact blocked_of_file hl hb
  | append_singleton parts part ih =>
    change Path.hasNull (Path.child ⟨slashes, parts⟩ part) = false at null
    change t.ensureAll (Path.child ⟨slashes, parts⟩ part) = _ at h
    rcases unmade_of_ensureAll_child h with ⟨rfl, hd, hpresent⟩ | habove | ⟨habove, hd⟩
    · exact blocked_of_ensureDirectory null hd (.inl hpresent)
    · exact (ih (hasNull_above null) start habove).child
    · -- the directory above was made, so it is this part that cannot be
      exact blocked_of_ensureDirectory null hd (.inr ⟨_, look_of_ensureAll habove start⟩)

/-- A way that is blocked ends in a file, above its last part, or at its last part. -/
theorem Blocked.above (null : (p.child part).hasNull = false) (h : t.Blocked (p.child part)) :
    (∃ l b, t.locate (p.child part) = .ok l ∧ t.node? l = some (.file b)) ∨ t.Blocked p ∨
      ∃ l, t.look p = .ok (l, .directory) := by
  have hchild : (p.child part).parts = p.parts ++ [part] := rfl
  cases h with
  | @file names rest m b parts walk there =>
    rw [hchild] at parts
    rcases List.eq_nil_or_concat' rest with rfl | ⟨rest, last, rfl⟩
    · rw [List.append_nil] at parts
      refine .inl ⟨m, b, locate_eq_ok_iff.2 ⟨null, ?_⟩, there⟩
      rw [hchild, parts]
      exact walk
    · rw [← List.append_assoc] at parts
      exact .inr (.inl (.file (List.append_inj' parts rfl).1 walk there))
  | @part names rest stop m parts walk there legless =>
    rw [hchild] at parts
    rcases List.eq_nil_or_concat' rest with rfl | ⟨rest, last, rfl⟩
    · obtain ⟨hparts, -⟩ := List.append_inj' parts rfl
      have hnull := hasNull_above null
      refine .inr (.inr ⟨m, look_eq_ok_iff.2 ⟨locate_eq_ok_iff.2 ⟨hnull, ?_⟩, there⟩⟩)
      rw [hparts]
      exact walk
    · rw [← List.cons_append, ← List.append_assoc] at parts
      exact .inr (.inl (.part (List.append_inj' parts rfl).1 walk there legless))

theorem Blocked.ensureDirectory (h : t.Blocked p) : ∃ e, t.ensureDirectory p = .error e := by
  cases hd : t.ensureDirectory p with
  | error e => exact ⟨e, rfl⟩
  | ok u =>
    obtain ⟨l, hl, hfree, -⟩ := ensureDirectory_eq_ok_iff.1 hd
    obtain ⟨-, hl⟩ := locate_eq_ok_iff.1 hl
    cases h with
    | @file names rest m b parts walk there =>
      rw [parts] at hl
      have hrest : t.walk m rest = .ok l := (walk_append walk rest).symm.trans hl
      cases rest with
      | nil =>
        obtain rfl := Except.ok.inj hrest
        exact absurd there (hfree b)
      | cons part rest =>
        rw [(walk_cons_eq_ok_iff.1 hrest).1] at there
        cases there
    | @part names rest part m parts walk there legless =>
      rw [parts] at hl
      have hrest : t.walk m (part :: rest) = .ok l := (walk_append walk _).symm.trans hl
      exact absurd (walk_cons_eq_ok_iff.1 hrest).2.1 legless

/-- **Along a blocked way nothing is made.** -/
theorem Blocked.ensureAll (null : p.hasNull = false) (h : t.Blocked p) :
    ∃ e, t.ensureAll p = (t, some e) := by
  obtain ⟨slashes, parts⟩ := p
  induction parts using List.reverseRecOn with
  | nil =>
    obtain ⟨e, hd⟩ := h.ensureDirectory
    refine ⟨e, ?_⟩
    show t.ensureFrom slashes [] = _
    rw [ensureFrom, hd]
  | append_singleton parts part ih =>
    change Blocked t (Path.child ⟨slashes, parts⟩ part) at h
    change Path.hasNull (Path.child ⟨slashes, parts⟩ part) = false at null
    show ∃ e, t.ensureAll (Path.child ⟨slashes, parts⟩ part) = (t, some e)
    obtain ⟨e, hd⟩ := h.ensureDirectory
    rw [ensureAll_child, hd]
    by_cases hmissing : e.fault = .missing
    · -- what is above is blocked too, or is a directory
      have habove : ∃ e?, t.ensureAll ⟨slashes, parts⟩ = (t, e?) := by
        rcases h.above null with ⟨l, b, hl, hb⟩ | hblocked | ⟨l, hlook⟩
        · rcases fault_of_ensureDirectory hd with hf | ⟨-, -, -, -, hpresent⟩
          · rw [hl] at hf
            cases hf
          · rw [hmissing] at hpresent
            cases hpresent
        · obtain ⟨e', he'⟩ := ih (hasNull_above null) hblocked
          exact ⟨some e', he'⟩
        · exact ⟨none, ensureAll_of_look hlook⟩
      obtain ⟨e?, habove⟩ := habove
      simp only [if_pos hmissing, habove]
      cases e? with
      | some e' => exact ⟨e', rfl⟩
      | none => exact ⟨e, by simp only [hd]⟩
    · simp only [if_neg hmissing]
      exact ⟨e, rfl⟩

/-! ## Writing again -/

theorem putFile_same (h : t.node? l = some (.file b)) : t.putFile l b = t := by
  unfold putFile
  split
  · next old there =>
    obtain rfl : b = old := Node.file.inj (Option.some.inj (h.symm.trans there))
    have hnodes : (t.nodes.map fun e => if e.1 = l then (l, Node.file b) else e) = t.nodes := by
      refine (List.map_congr_left ?_).trans (List.map_id _)
      rintro ⟨k, n⟩ hk
      by_cases hl : k = l
      · subst hl
        rw [if_pos rfl, Option.some.inj ((node?_of_mem hk).symm.trans h), id]
      · rw [if_neg hl, id]
    unfold replace
    congr
  · rfl
  · next hn =>
    rw [h] at hn
    cases hn

/-- **A file that holds what is written stays as it is, and so does the tree.** -/
theorem writeBytes_same (h : t.readBytes p = .ok b) : t.writeBytes p b = .ok t := by
  obtain ⟨l, hlook⟩ := readBytes_eq_ok_iff.1 h
  obtain ⟨hlocate, hfile⟩ := look_eq_ok_iff.1 hlook
  exact writeBytes_eq_ok_iff.2 ⟨l, hlocate, by simp [hfile], (putFile_same hfile).symm⟩

end Acceptance.FileTree
