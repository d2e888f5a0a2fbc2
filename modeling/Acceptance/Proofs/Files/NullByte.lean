import Acceptance.Proofs.Files.Frame
import Acceptance.Proofs.Files.PathText

/-!
# Paths with null characters

No request is made with a path that has a null character: it changes nothing and tells of nothing
else.  Every other request has faults of the tree alone.

    t.locate p = .error .nullByte ↔ p.hasNull = true                (locate_eq_null_iff)
    p.hasNull = true → t.ensureAll p = (t, some e)  for a null byte (ensureAll_null)
    t.ensureAll p = (u, some e) → e.fault = .nullByte → p.hasNull = true
                                                                    (hasNull_of_ensureAll)
-/

namespace Acceptance

namespace Path

theorem hasNull_down (p : Path) (names : List String) :
    (p.down names).hasNull = (p.hasNull || names.any hasNullChar) :=
  List.any_append

theorem hasNullChar_eq_false_iff {s : String} : hasNullChar s = false ↔ '\x00' ∉ s.toList := by
  simp [hasNullChar]

theorem splitName_subset (cs : List Char) : (splitName cs).1 ⊆ cs := by
  unfold splitName
  simp only
  split
  · exact List.Subset.refl _
  · exact List.take_subset _ _

theorem hasNullChar_name {p : Path} (h : p.hasNull = false) : hasNullChar p.name = false := by
  unfold name
  cases hl : p.parts.getLast? with
  | none => decide
  | some last => simpa using List.any_eq_false.1 h last (List.mem_of_getLast? hl)

theorem hasNullChar_stem {p : Path} (h : p.hasNull = false) : hasNullChar p.stem = false := by
  have hname := hasNullChar_eq_false_iff.1 (hasNullChar_name h)
  rw [hasNullChar_eq_false_iff, stem, String.toList_ofList]
  exact fun hm => hname (splitName_subset _ hm)

end Path

namespace FileTree

variable {t u : FileTree} {p : Path} {e : FileError}

/-! ## Places -/

theorem step_ne_null (t : FileTree) (l : Location) (part : String) :
    t.step l part ≠ .error .nullByte := by
  unfold step
  repeat' split
  all_goals exact nofun

theorem walk_ne_null (t : FileTree) (l : Location) (parts : List String) :
    t.walk l parts ≠ .error .nullByte := by
  induction parts generalizing l with
  | nil => exact nofun
  | cons part parts ih =>
    rw [walk]
    split
    · next f h =>
      intro he
      rw [Except.error.inj he] at h
      exact step_ne_null t l part h
    · exact ih _

/-- A place is refused for a null character where the path has one. -/
theorem locate_eq_null_iff : t.locate p = .error .nullByte ↔ p.hasNull = true := by
  unfold locate
  cases p.hasNull with
  | true => simp
  | false => simpa using walk_ne_null t _ p.parts

/-! ## Reading -/

theorem hasNull_of_readBytes (h : t.readBytes p = .error e) (null : e.fault = .nullByte) :
    p.hasNull = true := by
  unfold readBytes at h
  split at h
  · next f hl =>
    obtain rfl := Except.error.inj h
    obtain rfl : f = .nullByte := null
    unfold look at hl
    split at hl
    · next g hp =>
      obtain rfl := Except.error.inj hl
      exact locate_eq_null_iff.1 hp
    · split at hl
      · cases hl
      · cases hl
  · obtain rfl := Except.error.inj h
    cases null
  · cases h

theorem hasNull_of_readText (h : t.readText p = .error (.file e)) (null : e.fault = .nullByte) :
    p.hasNull = true := by
  unfold readText at h
  split at h
  · next e' hb =>
    obtain rfl := TextError.file.inj (Except.error.inj h)
    exact hasNull_of_readBytes hb null
  · split at h
    · cases h
    · cases h

/-- What is read has a path without null characters. -/
theorem hasNull_of_readText_ok {s : String} (h : t.readText p = .ok s) : p.hasNull = false := by
  obtain ⟨l, b, hlook⟩ := look_of_readText h
  exact (locate_eq_ok_iff.1 (look_eq_ok_iff.1 hlook).1).1

/-! ## Writing -/

theorem hasNull_of_writeBytes {b : ByteArray} (h : t.writeBytes p b = .error e)
    (null : e.fault = .nullByte) : p.hasNull = true := by
  unfold writeBytes at h
  split at h
  · next f hl =>
    obtain rfl := Except.error.inj h
    obtain rfl : f = .nullByte := null
    exact locate_eq_null_iff.1 hl
  · split at h
    · obtain rfl := Except.error.inj h
      cases null
    · cases h

/-! ## Making directories -/

theorem makeDirectory_null (h : p.hasNull = true) :
    t.makeDirectory p = .error ⟨.nullByte, p.text⟩ := by
  rw [makeDirectory, locate_eq_null_iff.2 h]

theorem ensureDirectory_null (h : p.hasNull = true) :
    t.ensureDirectory p = .error ⟨.nullByte, p.text⟩ := by
  have hno : t.isDirectory p = false := by
    unfold isDirectory look
    rw [locate_eq_null_iff.2 h]
  rw [ensureDirectory, makeDirectory_null h]
  simp [hno]

theorem hasNull_of_ensureDirectory (h : t.ensureDirectory p = .error e)
    (null : e.fault = .nullByte) : p.hasNull = true := by
  unfold ensureDirectory at h
  split at h
  · cases h
  · next e' hm =>
    split at h
    · cases h
    · obtain rfl := Except.error.inj h
      unfold makeDirectory at hm
      split at hm
      · next f hl =>
        obtain rfl := Except.error.inj hm
        obtain rfl : f = .nullByte := null
        exact locate_eq_null_iff.1 hl
      · split at hm
        · obtain rfl := Except.error.inj hm
          cases null
        · cases hm

theorem hasNull_of_ensureFrom {slashes : Nat} {parts : List String}
    (h : t.ensureFrom slashes parts = (u, some e)) (null : e.fault = .nullByte) :
    parts.any Path.hasNullChar = true := by
  have hpath : ∀ {v : FileTree} {parts : List String},
      v.ensureDirectory ⟨slashes, parts.reverse⟩ = .error e →
      parts.any Path.hasNullChar = true := by
    intro v parts hv
    have hp := hasNull_of_ensureDirectory hv null
    rwa [Path.hasNull, List.any_reverse] at hp
  induction parts generalizing u with
  | nil =>
    rw [ensureFrom] at h
    split at h
    · cases h
    · next e' he =>
      obtain ⟨-, ⟨⟩⟩ := Prod.mk.inj h
      exact hpath he
  | cons part above ih =>
    rw [ensureFrom] at h
    split at h
    · cases h
    · next e' he =>
      split at h
      · -- the directory above was missing, and so made first
        split at h
        · next v e'' hv =>
          obtain ⟨-, ⟨⟩⟩ := Prod.mk.inj h
          rw [List.any_cons, ih hv, Bool.or_true]
        · split at h
          · cases h
          · next e'' he' =>
            obtain ⟨-, ⟨⟩⟩ := Prod.mk.inj h
            exact hpath he'
      · obtain ⟨-, ⟨⟩⟩ := Prod.mk.inj h
        exact hpath he

theorem hasNull_of_ensureAll (h : t.ensureAll p = (u, some e)) (null : e.fault = .nullByte) :
    p.hasNull = true := by
  have hparts := hasNull_of_ensureFrom h null
  rwa [List.any_reverse] at hparts

/-- A directory whose path has a null character is not made, nor is any above it. -/
theorem ensureAll_null (h : p.hasNull = true) :
    t.ensureAll p = (t, some ⟨.nullByte, p.text⟩) := by
  obtain ⟨slashes, parts⟩ := p
  cases hp : parts.reverse with
  | nil =>
    rw [List.reverse_eq_nil_iff.1 hp] at h
    cases h
  | cons part above =>
    have hparts : (part :: above).reverse = parts := by rw [← hp, List.reverse_reverse]
    rw [ensureAll, hp, ensureFrom]
    simp only [hparts, ensureDirectory_null h]
    rfl

end FileTree

end Acceptance
