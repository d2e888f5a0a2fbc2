import Acceptance.Proofs.Json.Values

/-!
# Values of a shape, without their nulls

A shape says which members an object has, in which order, and which of them may be null.  Leaving
the nulls out of a value of a known shape loses nothing: a member that is missing was null, since
the names of a record differ.

    Prunes v (dropNulls v)                                                       (prunes_dropNulls)
    v.Readable → (dropNulls v).Readable                                        (readable_dropNulls)
    Fits s v → Fits s w → dropNulls v = dropNulls w → v = w                    (Fits.dropNulls_inj)
    Fits s v → nullNames v ⊆ s.optionalNames                                  (Fits.nullNames_subset)
-/

namespace Acceptance.Json

/-! ## Algorithm -/

mutual

/-- The second value is the first one without the members whose value is null, at every level. -/
inductive Prunes : Json → Json → Prop
  | null : Prunes .null .null
  | bool (b : Bool) : Prunes (.bool b) (.bool b)
  | int (n : Int) : Prunes (.int n) (.int n)
  | decimal (text : String) : Prunes (.decimal text) (.decimal text)
  | str (s : String) : Prunes (.str s) (.str s)
  | arr {items kept : List Json} : PrunesItems items kept → Prunes (.arr items) (.arr kept)
  | obj {members kept : List (String × Json)} :
      PrunesMembers members kept → Prunes (.obj members) (.obj kept)

/-- Every item stays, null or not. -/
inductive PrunesItems : List Json → List Json → Prop
  | nil : PrunesItems [] []
  | cons {v w : Json} {items kept : List Json} :
      Prunes v w → PrunesItems items kept → PrunesItems (v :: items) (w :: kept)

inductive PrunesMembers : List (String × Json) → List (String × Json) → Prop
  | nil : PrunesMembers [] []
  | drop {name : String} {members kept : List (String × Json)} :
      PrunesMembers members kept → PrunesMembers ((name, .null) :: members) kept
  | keep {name : String} {v w : Json} {members kept : List (String × Json)} : v ≠ .null →
      Prunes v w → PrunesMembers members kept →
        PrunesMembers ((name, v) :: members) ((name, w) :: kept)

end

mutual

/-- The names of the members that are null, at every level. -/
def nullNames : Json → List String
  | .arr items => nullNamesOfItems items
  | .obj members => nullNamesOfMembers members
  | _ => []

def nullNamesOfItems : List Json → List String
  | [] => []
  | v :: items => nullNames v ++ nullNamesOfItems items

def nullNamesOfMembers : List (String × Json) → List String
  | [] => []
  | (name, .null) :: members => name :: nullNamesOfMembers members
  | (_, v) :: members => nullNames v ++ nullNamesOfMembers members

end

/-- A format of values. -/
inductive Shape where
  | text
  | flag
  | optional (s : Shape)
  | list (s : Shape)
  | record (fields : List (String × Shape))

mutual

/-- A value has a shape; an object has the members of its record in their order. -/
def Fits : Shape → Json → Prop
  | .text, v => ∃ s, v = .str s
  | .flag, v => ∃ b, v = .bool b
  | .optional s, v => v = .null ∨ Fits s v
  | .list s, v => ∃ items, v = .arr items ∧ ∀ item ∈ items, Fits s item
  | .record fields, v => ∃ members, v = .obj members ∧ FitsMembers fields members

def FitsMembers : List (String × Shape) → List (String × Json) → Prop
  | [], members => members = []
  | (name, s) :: fields, members =>
    ∃ v rest, members = (name, v) :: rest ∧ Fits s v ∧ FitsMembers fields rest

end

namespace Shape

mutual

/-- The names of each record of a shape differ. -/
def Distinct : Shape → Bool
  | .optional s => s.Distinct
  | .list s => s.Distinct
  | .record fields => (fields.map (·.1)).Nodup && distinctFields fields
  | _ => true

def distinctFields : List (String × Shape) → Bool
  | [] => true
  | (_, s) :: fields => s.Distinct && distinctFields fields

end

mutual

/-- The names of the members that may be null. -/
def optionalNames : Shape → List String
  | .optional s => s.optionalNames
  | .list s => s.optionalNames
  | .record fields => optionalFields fields
  | _ => []

def optionalFields : List (String × Shape) → List String
  | [] => []
  | (name, .optional s) :: fields => name :: (s.optionalNames ++ optionalFields fields)
  | (_, s) :: fields => s.optionalNames ++ optionalFields fields

end

end Shape

/-! ## Values without their nulls -/

theorem dropNullMembers_of_ne_null {v : Json} (h : v ≠ .null) (name : String)
    (members : List (String × Json)) :
    dropNullMembers ((name, v) :: members) = (name, dropNulls v) :: dropNullMembers members := by
  rw [dropNullMembers]
  exact h

mutual

theorem prunes_dropNulls : ∀ v : Json, Prunes v (dropNulls v)
  | .null => .null
  | .bool b => .bool b
  | .int n => .int n
  | .decimal text => .decimal text
  | .str s => .str s
  | .arr items => .arr (prunes_dropNullItems items)
  | .obj members => .obj (prunes_dropNullMembers members)

theorem prunes_dropNullItems : ∀ items : List Json, PrunesItems items (dropNullItems items)
  | [] => .nil
  | v :: items => .cons (prunes_dropNulls v) (prunes_dropNullItems items)

theorem prunes_dropNullMembers : ∀ members : List (String × Json),
    PrunesMembers members (dropNullMembers members)
  | [] => .nil
  | (name, v) :: members => by
    have hmembers := prunes_dropNullMembers members
    have hv := prunes_dropNulls v
    by_cases hnull : v = .null
    · rw [hnull, dropNullMembers]
      exact .drop hmembers
    · rw [dropNullMembers_of_ne_null hnull]
      exact .keep hnull hv hmembers

end

theorem names_dropNullMembers (members : List (String × Json)) :
    List.Sublist ((dropNullMembers members).map (·.1)) (members.map (·.1)) := by
  induction members with
  | nil => exact .slnil
  | cons m members ih =>
    obtain ⟨name, v⟩ := m
    by_cases hnull : v = .null
    · rw [hnull, dropNullMembers]
      exact ih.cons name
    · rw [dropNullMembers_of_ne_null hnull]
      exact ih.cons_cons name

mutual

theorem readable_dropNulls : ∀ v : Json, v.Readable → (dropNulls v).Readable
  | .null, h => h
  | .bool _, h => h
  | .int _, h => h
  | .decimal _, h => h
  | .str _, h => h
  | .arr items, h => readable_dropNullItems items h
  | .obj members, h =>
    ⟨h.1.sublist (names_dropNullMembers members), readable_dropNullMembers members h.2⟩

theorem readable_dropNullItems : ∀ items : List Json, ReadableItems items →
    ReadableItems (dropNullItems items)
  | [], h => h
  | v :: items, h => ⟨readable_dropNulls v h.1, readable_dropNullItems items h.2⟩

theorem readable_dropNullMembers : ∀ members : List (String × Json), ReadableMembers members →
    ReadableMembers (dropNullMembers members)
  | [], h => h
  | (name, v) :: members, h => by
    have hmembers := readable_dropNullMembers members h.2
    have hv := readable_dropNulls v h.1
    by_cases hnull : v = .null
    · rw [hnull, dropNullMembers]
      exact hmembers
    · rw [dropNullMembers_of_ne_null hnull]
      exact ⟨hv, hmembers⟩

end

/-! ## Values of a shape -/

theorem FitsMembers.names {fields : List (String × Shape)} {members : List (String × Json)}
    (h : FitsMembers fields members) : members.map (·.1) = fields.map (·.1) := by
  induction fields generalizing members with
  | nil => rw [h]; rfl
  | cons f fields ih =>
    obtain ⟨name, s⟩ := f
    obtain ⟨v, rest, rfl, -, hrest⟩ := h
    rw [List.map_cons, List.map_cons, ih hrest]

theorem fits_str (s : String) : Fits .text (.str s) := ⟨s, rfl⟩

theorem fits_list {α : Type} {s : Shape} {f : α → Json} {as : List α}
    (h : ∀ a ∈ as, Fits s (f a)) : Fits (.list s) (.arr (as.map f)) := by
  refine ⟨_, rfl, fun item hi => ?_⟩
  obtain ⟨a, ha, rfl⟩ := List.mem_map.1 hi
  exact h a ha

theorem FitsMembers.append {fields others : List (String × Shape)}
    {members more : List (String × Json)} (h : FitsMembers fields members)
    (ho : FitsMembers others more) : FitsMembers (fields ++ others) (members ++ more) := by
  induction fields generalizing members with
  | nil =>
    obtain rfl := h
    exact ho
  | cons f fields ih =>
    obtain ⟨name, s⟩ := f
    obtain ⟨v, rest, rfl, hv, hrest⟩ := h
    exact ⟨v, rest ++ more, rfl, hv, ih hrest⟩

theorem Shape.distinct_record {fields : List (String × Shape)}
    (h : (Shape.record fields).Distinct = true) :
    (fields.map (·.1)).Nodup ∧ Shape.distinctFields fields = true := by
  simpa [Shape.Distinct] using h

theorem Shape.distinctFields_cons {name : String} {s : Shape} {fields : List (String × Shape)}
    (h : Shape.distinctFields ((name, s) :: fields) = true) :
    s.Distinct = true ∧ Shape.distinctFields fields = true := by
  simpa [Shape.distinctFields] using h

mutual

theorem Fits.readable : ∀ (s : Shape) (v : Json), s.Distinct = true → Fits s v → v.Readable
  | .text, _, _, ⟨_, rfl⟩ => trivial
  | .flag, _, _, ⟨_, rfl⟩ => trivial
  | .optional _, _, _, .inl rfl => trivial
  | .optional s, v, hs, .inr hv => Fits.readable s v hs hv
  | .list s, _, hs, ⟨items, rfl, hitems⟩ =>
    readableItems_iff.2 fun item hi => Fits.readable s item hs (hitems item hi)
  | .record fields, _, hs, ⟨members, rfl, hmembers⟩ =>
    ⟨hmembers.names ▸ (Shape.distinct_record hs).1,
      FitsMembers.readable fields members (Shape.distinct_record hs).2 hmembers⟩

theorem FitsMembers.readable : ∀ (fields : List (String × Shape)) (members : List (String × Json)),
    Shape.distinctFields fields = true → FitsMembers fields members → ReadableMembers members
  | [], _, _, rfl => trivial
  | (_, s) :: fields, _, hs, ⟨v, rest, rfl, hv, hrest⟩ =>
    ⟨Fits.readable s v (Shape.distinctFields_cons hs).1 hv,
      FitsMembers.readable fields rest (Shape.distinctFields_cons hs).2 hrest⟩

end

/-! ## No two values of a shape differ in their nulls alone -/

theorem dropNulls_eq_null {v : Json} (h : dropNulls v = .null) : v = .null := by
  cases v with
  | null => rfl
  | bool b => cases h
  | int n => cases h
  | decimal text => cases h
  | str s => cases h
  | arr items => cases h
  | obj members => cases h

/-- A member that has been left out was null. -/
theorem dropNullMembers_cons_inj {name : String} {v w : Json} {members others : List (String × Json)}
    (hm : name ∉ members.map (·.1)) (ho : name ∉ others.map (·.1))
    (h : dropNullMembers ((name, v) :: members) = dropNullMembers ((name, w) :: others)) :
    dropNulls v = dropNulls w ∧ dropNullMembers members = dropNullMembers others := by
  have hmissing : ∀ {x : Json} {l k : List (String × Json)}, name ∉ l.map (·.1) →
      dropNullMembers l ≠ (name, x) :: k := by
    intro x l k hl he
    exact hl ((names_dropNullMembers l).subset (by rw [he]; exact List.mem_cons_self))
  by_cases hv : v = .null
  · by_cases hw : w = .null
    · rw [hv, hw, dropNullMembers, dropNullMembers] at h
      exact ⟨by rw [hv, hw], h⟩
    · rw [hv, dropNullMembers, dropNullMembers_of_ne_null hw] at h
      exact absurd h (hmissing hm)
  · by_cases hw : w = .null
    · rw [hw, dropNullMembers, dropNullMembers_of_ne_null hv] at h
      exact absurd h.symm (hmissing ho)
    · rw [dropNullMembers_of_ne_null hv, dropNullMembers_of_ne_null hw] at h
      simpa using h

theorem dropNullItems_inj {s : Shape}
    (hs : ∀ v w, Fits s v → Fits s w → dropNulls v = dropNulls w → v = w) :
    ∀ {items others : List Json}, (∀ item ∈ items, Fits s item) → (∀ item ∈ others, Fits s item) →
      dropNullItems items = dropNullItems others → items = others
  | [], [], _, _, _ => rfl
  | [], _ :: _, _, _, h => by cases h
  | _ :: _, [], _, _, h => by cases h
  | v :: items, w :: others, hv, hw, h => by
    rw [List.forall_mem_cons] at hv hw
    rw [dropNullItems, dropNullItems, List.cons.injEq] at h
    rw [hs v w hv.1 hw.1 h.1, dropNullItems_inj hs hv.2 hw.2 h.2]

mutual

theorem Fits.dropNulls_inj : ∀ (s : Shape) (v w : Json), s.Distinct = true → Fits s v → Fits s w →
    dropNulls v = dropNulls w → v = w
  | .text, _, _, _, ⟨_, rfl⟩, ⟨_, rfl⟩, h => h
  | .flag, _, _, _, ⟨_, rfl⟩, ⟨_, rfl⟩, h => h
  | .optional _, _, _, _, .inl rfl, _, h => (dropNulls_eq_null h.symm).symm
  | .optional _, _, _, _, .inr _, .inl rfl, h => dropNulls_eq_null h
  | .optional s, v, w, hs, .inr hv, .inr hw, h => Fits.dropNulls_inj s v w hs hv hw h
  | .list s, _, _, hs, ⟨items, rfl, hv⟩, ⟨others, rfl, hw⟩, h =>
    congrArg Json.arr (dropNullItems_inj (fun x y => Fits.dropNulls_inj s x y hs) hv hw
      (Json.arr.inj h))
  | .record fields, _, _, hs, ⟨members, rfl, hv⟩, ⟨others, rfl, hw⟩, h =>
    congrArg Json.obj (FitsMembers.dropNulls_inj fields members others
      (Shape.distinct_record hs).1 (Shape.distinct_record hs).2 hv hw (Json.obj.inj h))

theorem FitsMembers.dropNulls_inj : ∀ (fields : List (String × Shape))
    (members others : List (String × Json)), (fields.map (·.1)).Nodup →
    Shape.distinctFields fields = true → FitsMembers fields members → FitsMembers fields others →
    dropNullMembers members = dropNullMembers others → members = others
  | [], _, _, _, _, rfl, rfl, _ => rfl
  | (name, s) :: fields, _, _, hnames, hs, ⟨v, members, rfl, hv, hmembers⟩,
      ⟨w, others, rfl, hw, hothers⟩, h => by
    rw [List.map_cons, List.nodup_cons] at hnames
    obtain ⟨hs, hfields⟩ := Shape.distinctFields_cons hs
    obtain ⟨hvalue, hrest⟩ := dropNullMembers_cons_inj (hmembers.names ▸ hnames.1)
      (hothers.names ▸ hnames.1) h
    rw [Fits.dropNulls_inj s v w hs hv hw hvalue,
      FitsMembers.dropNulls_inj fields members others hnames.2 hfields hmembers hothers hrest]

end

/-! ## Which members may be null -/

theorem Shape.mem_optionalFields_cons {name : String} {s : Shape} {fields : List (String × Shape)}
    {x : String} (h : x ∈ s.optionalNames ∨ x ∈ Shape.optionalFields fields) :
    x ∈ Shape.optionalFields ((name, s) :: fields) := by
  cases s <;> simp_all [Shape.optionalFields, Shape.optionalNames]

theorem exists_optional_of_fits_null {s : Shape} (h : Fits s .null) : ∃ t, s = .optional t := by
  cases s with
  | text => exact absurd h (by simp [Fits])
  | flag => exact absurd h (by simp [Fits])
  | optional t => exact ⟨t, rfl⟩
  | list s => exact absurd h (by simp [Fits])
  | record fields => exact absurd h (by simp [Fits])

theorem mem_nullNamesOfItems {items : List Json} {x : String} (h : x ∈ nullNamesOfItems items) :
    ∃ item ∈ items, x ∈ nullNames item := by
  induction items with
  | nil => cases h
  | cons v items ih =>
    rw [nullNamesOfItems, List.mem_append] at h
    rcases h with h | h
    · exact ⟨v, List.mem_cons_self, h⟩
    · obtain ⟨item, hi, hx⟩ := ih h
      exact ⟨item, List.mem_cons_of_mem v hi, hx⟩

mutual

theorem Fits.nullNames_subset : ∀ (s : Shape) (v : Json), Fits s v →
    ∀ x ∈ nullNames v, x ∈ s.optionalNames
  | .text, _, ⟨_, rfl⟩, _, hx => absurd hx List.not_mem_nil
  | .flag, _, ⟨_, rfl⟩, _, hx => absurd hx List.not_mem_nil
  | .optional _, _, .inl rfl, _, hx => absurd hx List.not_mem_nil
  | .optional s, v, .inr hv, x, hx => Fits.nullNames_subset s v hv x hx
  | .list s, _, ⟨items, rfl, hitems⟩, x, hx => by
    obtain ⟨item, hi, hx⟩ := mem_nullNamesOfItems hx
    exact Fits.nullNames_subset s item (hitems item hi) x hx
  | .record fields, _, ⟨members, rfl, hmembers⟩, x, hx =>
    FitsMembers.nullNames_subset fields members hmembers x hx

theorem FitsMembers.nullNames_subset : ∀ (fields : List (String × Shape))
    (members : List (String × Json)), FitsMembers fields members →
    ∀ x ∈ nullNamesOfMembers members, x ∈ Shape.optionalFields fields
  | [], _, rfl, _, hx => absurd hx List.not_mem_nil
  | (name, s) :: fields, _, ⟨v, rest, rfl, hv, hrest⟩, x, hx => by
    have hbehind := FitsMembers.nullNames_subset fields rest hrest x
    have hfront := Fits.nullNames_subset s v hv x
    by_cases hnull : v = .null
    · subst hnull
      obtain ⟨t, rfl⟩ := exists_optional_of_fits_null hv
      rw [nullNamesOfMembers, List.mem_cons] at hx
      rcases hx with rfl | hx
      · exact List.mem_cons_self
      · exact Shape.mem_optionalFields_cons (.inr (hbehind hx))
    · rw [nullNamesOfMembers, List.mem_append] at hx
      · exact Shape.mem_optionalFields_cons (hx.imp hfront hbehind)
      · exact hnull

end

end Acceptance.Json
