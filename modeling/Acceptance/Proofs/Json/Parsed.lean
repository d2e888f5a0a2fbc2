import Acceptance.Proofs.Json.Values

/-!
# Values that were read

Whatever text a value was read from, no object of it names a member twice: a name that comes again
sets the member that is there.  Its numbers are read as they are written, so the value is one that
is read back.

    RecordMembers members → v.Readable → RecordMembers (setMember members name v)       (setMember)
    readValue fuel cs = .ok (v, rest) → v.Readable                       (readable_of_readValue)
    read text = .ok v → v.Readable                                            (readable_of_read)
-/

namespace Acceptance.Json

/-! ## Algorithm -/

mutual

/-- A value whose numbers are integers. -/
def Exact : Json → Prop
  | .decimal _ => False
  | .arr items => ExactItems items
  | .obj members => ExactMembers members
  | _ => True

def ExactItems : List Json → Prop
  | [] => True
  | v :: items => Exact v ∧ ExactItems items

def ExactMembers : List (String × Json) → Prop
  | [] => True
  | (_, v) :: members => Exact v ∧ ExactMembers members

end

/-- Members that an object may have to be read back. -/
structure RecordMembers (members : List (String × Json)) : Prop where
  names : (members.map (·.1)).Nodup
  values : ∀ m ∈ members, m.2.Readable

/-! ## Items and members -/

theorem RecordMembers.readable {members : List (String × Json)} (h : RecordMembers members) :
    (Json.obj members).Readable := ⟨h.names, readableMembers_iff.2 h.values⟩

theorem RecordMembers.nil : RecordMembers [] := ⟨.nil, fun _ hm => absurd hm List.not_mem_nil⟩

/-- Setting a member keeps the names apart. -/
theorem RecordMembers.setMember {members : List (String × Json)} (h : RecordMembers members)
    (name : String) {v : Json} (hv : v.Readable) : RecordMembers (setMember members name v) := by
  by_cases hname : name ∈ members.map (·.1)
  · have hany : (members.any fun m => m.1 == name) = true := by
      obtain ⟨m, hm, he⟩ := List.mem_map.1 hname
      exact List.any_eq_true.2 ⟨m, hm, beq_iff_eq.2 he⟩
    rw [Json.setMember, if_pos hany]
    constructor
    · rw [List.map_map]
      have hsame : (members.map ((·.1) ∘ fun m => if (m.1 == name) = true then (m.1, v) else m)) =
          members.map (·.1) := by
        refine List.map_congr_left fun m _ => ?_
        show (if (m.1 == name) = true then (m.1, v) else m).1 = m.1
        split <;> rfl
      rw [hsame]
      exact h.names
    · intro m hm
      obtain ⟨old, hold, rfl⟩ := List.mem_map.1 hm
      show Readable (if (old.1 == name) = true then (old.1, v) else old).2
      split
      · exact hv
      · exact h.values old hold
  · rw [setMember_new hname]
    constructor
    · rw [List.map_append, List.nodup_append]
      refine ⟨h.names, List.nodup_singleton name, ?_⟩
      rintro a ha b hb rfl
      obtain rfl : a = name := List.mem_singleton.1 hb
      exact hname ha
    · intro m hm
      rcases List.mem_append.1 hm with hm | hm
      · exact h.values m hm
      · rw [List.mem_singleton.1 hm]
        exact hv

/-! ## Reading -/

theorem readable_of_readUnsigned? {negative : Bool} {cs rest : List Char} {v : Json}
    (h : readUnsigned? negative cs = some (v, rest)) : v.Readable := by
  obtain ⟨n, rfl, hvalid⟩ := exists_parts_of_readUnsigned? h
  cases hjson : n.json negative with
  | decimal text => exact hvalid.numberText hjson
  | int n => trivial
  | _ =>
    unfold NumberParts.json at hjson
    split at hjson <;> cases hjson

theorem readable_of_readScalar {cs rest : List Char} {v : Json}
    (h : readScalar cs = .ok (v, rest)) : v.Readable := by
  have hwords : ∀ w ∈ words, w.2.Readable := by
    simp [words, Readable, numberText_word]
  unfold readScalar at h
  split at h
  · next r hr =>
    obtain ⟨w, hw, hfound⟩ := List.exists_of_findSome?_eq_some hr
    obtain ⟨behind, -, he⟩ := Option.map_eq_some_iff.1 hfound
    obtain rfl := Except.ok.inj h
    obtain ⟨rfl, -⟩ := Prod.mk.inj he
    exact hwords w hw
  · simp only at h
    split at h
    · next r hr =>
      obtain rfl := Except.ok.inj h
      split at hr <;> exact readable_of_readUnsigned? hr
    · cases h

/-- What a reading comes to, behind a map on its value. -/
theorem exists_of_map_eq_ok {α β : Type} {r : Except Fault α} {f : α → β} {b : β}
    (h : r.map f = .ok b) : ∃ a, r = .ok a ∧ f a = b := by
  cases r with
  | error e => cases h
  | ok a => exact ⟨a, rfl, Except.ok.inj h⟩

mutual

theorem readable_of_readValue : ∀ (fuel : Nat) {cs rest : List Char} {v : Json},
    readValue fuel cs = .ok (v, rest) → v.Readable
  | 0, _, _, _, h => by cases h
  | fuel + 1, cs, rest, v, h => by
    unfold readValue at h
    split at h
    · obtain ⟨r, -, he⟩ := exists_of_map_eq_ok h
      obtain ⟨rfl, -⟩ := Prod.mk.inj he
      trivial
    · split at h
      · obtain ⟨rfl, -⟩ := Prod.mk.inj (Except.ok.inj h)
        trivial
      · obtain ⟨r, hr, he⟩ := exists_of_map_eq_ok h
        obtain ⟨rfl, -⟩ := Prod.mk.inj he
        exact readableItems_iff.2 (readable_of_readItems fuel hr)
    · split at h
      · obtain ⟨rfl, -⟩ := Prod.mk.inj (Except.ok.inj h)
        exact RecordMembers.nil.readable
      · obtain ⟨r, hr, he⟩ := exists_of_map_eq_ok h
        obtain ⟨rfl, -⟩ := Prod.mk.inj he
        exact (readable_of_readMembers fuel .nil hr).readable
    · exact readable_of_readScalar h

theorem readable_of_readItems : ∀ (fuel : Nat) {cs rest : List Char} {items : List Json},
    readItems fuel cs = .ok (items, rest) → ∀ item ∈ items, item.Readable
  | 0, _, _, _, h => by cases h
  | fuel + 1, cs, rest, items, h => by
    unfold readItems at h
    split at h
    · cases h
    · next v behind hv =>
      have hreadable := readable_of_readValue fuel hv
      split at h
      · obtain ⟨rfl, -⟩ := Prod.mk.inj (Except.ok.inj h)
        exact List.forall_mem_singleton.2 hreadable
      · obtain ⟨r, hr, he⟩ := exists_of_map_eq_ok h
        obtain ⟨rfl, -⟩ := Prod.mk.inj he
        exact List.forall_mem_cons.2 ⟨hreadable, readable_of_readItems fuel hr⟩
      · cases h

theorem readable_of_readMembers : ∀ (fuel : Nat) {seen members : List (String × Json)}
    {cs rest : List Char}, RecordMembers seen → readMembers fuel seen cs = .ok (members, rest) →
      RecordMembers members
  | 0, _, _, _, _, _, h => by cases h
  | fuel + 1, seen, members, cs, rest, hseen, h => by
    unfold readMembers at h
    split at h
    · split at h
      · cases h
      · next name behind _ =>
        split at h
        · split at h
          · cases h
          · next v behind hv =>
            have hset := hseen.setMember name (readable_of_readValue fuel hv)
            split at h
            · obtain ⟨rfl, -⟩ := Prod.mk.inj (Except.ok.inj h)
              exact hset
            · exact readable_of_readMembers fuel hset h
            · cases h
        · cases h
    · cases h

end

/-- **What was read is a value that is read back.** -/
theorem readable_of_read {text : String} {v : Json} (h : read text = .ok v) : v.Readable := by
  unfold read at h
  split at h
  · next hall =>
    obtain rfl := Except.ok.inj h
    unfold readAll at hall
    split at hall
    · cases hall
    · split at hall
      · cases hall
      · next hvalue =>
        split at hall
        · obtain rfl := Except.ok.inj hall
          exact readable_of_readValue _ hvalue
        · cases hall
  · cases h

end Acceptance.Json
