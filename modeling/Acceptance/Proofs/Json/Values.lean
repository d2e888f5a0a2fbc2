import Acceptance.Proofs.Json.Numbers
import Acceptance.Proofs.Json.Strings

/-!
# Values read back

The reader gives back the value that was written, in either quoting and at every indent, if the
texts of its numbers are read as themselves and no object names a member twice: of two members with
one name the reader keeps only the last value.  The induction is on the value; behind a value stands
what does not go on with a number, and the reader has at least as many steps left as the value
takes.

    v.Readable → readValue fuel (renderAt style level v ++ rest) = .ok (v, rest)
                                                                            (readValue_renderAt)
    v.Readable → read (render style v ++ "\n") = .ok v                             (read_render)
-/

namespace Acceptance.Json

open Acceptance.Text

/-! ## Algorithm -/

mutual

/-- A value whose numbers are read as they are written and whose objects name no member twice. -/
def Readable : Json → Prop
  | .decimal text => NumberText text
  | .arr items => ReadableItems items
  | .obj members => (members.map (·.1)).Nodup ∧ ReadableMembers members
  | _ => True

def ReadableItems : List Json → Prop
  | [] => True
  | v :: items => Readable v ∧ ReadableItems items

def ReadableMembers : List (String × Json) → Prop
  | [] => True
  | (_, v) :: members => Readable v ∧ ReadableMembers members

end

mutual

/-- The steps that reading a value takes. -/
def steps : Json → Nat
  | .arr items => 1 + stepsOfItems items
  | .obj members => 1 + stepsOfMembers members
  | _ => 1

def stepsOfItems : List Json → Nat
  | [] => 0
  | v :: items => 1 + steps v + stepsOfItems items

def stepsOfMembers : List (String × Json) → Nat
  | [] => 0
  | (_, v) :: members => 1 + steps v + stepsOfMembers members

end

theorem readableItems_iff {items : List Json} :
    ReadableItems items ↔ ∀ item ∈ items, item.Readable := by
  induction items with
  | nil => simp [ReadableItems]
  | cons v items ih => simp [ReadableItems, ih]

theorem readableMembers_iff {members : List (String × Json)} :
    ReadableMembers members ↔ ∀ m ∈ members, m.2.Readable := by
  induction members with
  | nil => simp [ReadableMembers]
  | cons m members ih => simp [ReadableMembers, ih]

/-! ## Blanks and breaks -/

theorem skipBlanks_cons {c : Char} (hc : isJsonBlank c = false) (cs : List Char) :
    skipBlanks (c :: cs) = c :: cs := by
  rw [skipBlanks, List.dropWhile_cons_of_neg (by simp [hc])]

theorem skipBlanks_blanks {cs : List Char} (h : ∀ c ∈ cs, isJsonBlank c = true)
    (rest : List Char) : skipBlanks (cs ++ rest) = skipBlanks rest :=
  List.dropWhile_append_of_pos h

theorem blank_of_mem_lineBreak {style : Style} {level : Nat} {c : Char}
    (h : c ∈ (style.lineBreak level).toList) : isJsonBlank c = true := by
  unfold Style.lineBreak at h
  cases hindent : style.indent with
  | none => simp [hindent] at h
  | some n =>
    simp only [hindent, String.toList_ofList, List.mem_cons, List.mem_replicate] at h
    rcases h with rfl | ⟨-, rfl⟩ <;> rfl

theorem skipBlanks_lineBreak (style : Style) (level : Nat) (rest : List Char) :
    skipBlanks ((style.lineBreak level).toList ++ rest) = skipBlanks rest :=
  skipBlanks_blanks (fun _ => blank_of_mem_lineBreak) rest

/-- Behind a comma there is a blank or a break. -/
theorem exists_comma (style : Style) (level : Nat) : ∃ gap, (style.comma level).toList = ',' :: gap ∧
    ∀ rest, skipBlanks (gap ++ rest) = skipBlanks rest := by
  unfold Style.comma
  cases style.indent with
  | none => exact ⟨[' '], by simp, fun _ => rfl⟩
  | some n => exact ⟨_, by simp, skipBlanks_lineBreak style level⟩

theorem endsValue_cons {c : Char} (hc : c ∈ [',', '\n', ']', '\x7d']) (cs : List Char) :
    EndsValue (c :: cs) := by
  have hall : ∀ c ∈ [',', '\n', ']', '\x7d'], c.isDigit = false ∧ c ∉ ['.', 'e', 'E'] := by simp
  rintro d hd
  rw [← Option.some.inj hd]
  exact hall c hc

theorem endsValue_lineBreak {rest : List Char} (h : EndsValue rest) (style : Style) (level : Nat) :
    EndsValue ((style.lineBreak level).toList ++ rest) := by
  unfold Style.lineBreak
  cases style.indent with
  | none => exact h
  | some n =>
    rw [String.toList_ofList]
    exact endsValue_cons (by simp) _

theorem endsValue_comma (style : Style) (level : Nat) (rest : List Char) :
    EndsValue ((style.comma level).toList ++ rest) := by
  obtain ⟨gap, hgap, -⟩ := exists_comma style level
  rw [hgap]
  exact endsValue_cons (by simp) _

/-! ## Words and numbers -/

theorem readValue_scalar {c : Char} (hc : c ∉ ['"', '[', '\x7b']) (fuel : Nat) (cs : List Char) :
    readValue (fuel + 1) (c :: cs) = readScalar (c :: cs) := by
  simp only [List.mem_cons, List.not_mem_nil, or_false, not_or] at hc
  rw [readValue]
  · exact fun _ he => hc.1 (List.cons.inj he).1
  · exact fun _ he => hc.2.1 (List.cons.inj he).1
  · exact fun _ he => hc.2.2 (List.cons.inj he).1

theorem readValue_int {rest : List Char} (ends : EndsValue rest) (n : Int) (fuel : Nat) :
    readValue (fuel + 1) (Decimal.intDigits n ++ rest) = .ok (.int n, rest) := by
  obtain ⟨c, cs, hcs, -, hc⟩ := intDigits_opens n
  have hread := readScalar_intDigits ends n
  rw [hcs, List.cons_append] at hread ⊢
  rw [readValue_scalar hc, hread]

/-! ## What a written value opens with -/

theorem Quoting.head? {quote : String → String} (hquote : Quoting quote) (s : String) :
    (quote s).toList.head? = some '"' := by
  obtain ⟨cs, hcs, -⟩ := hquote s []
  rw [List.append_nil] at hcs
  rw [hcs, List.head?_cons]

theorem renderAt_opens {style : Style} (hquote : Quoting style.quote) {v : Json} (h : v.Readable)
    (level : Nat) : ∃ c, (renderAt style level v).toList.head? = some c ∧ OpensValue c := by
  have hmark : ∀ c ∈ ['n', 't', 'f', 'N', 'I', '"', '[', '\x7b', '-'], OpensValue c :=
    fun c hc => .inr hc
  match v, h with
  | .null, _ => exact ⟨'n', by simp [renderAt], hmark _ (by simp)⟩
  | .bool true, _ => exact ⟨'t', by simp [renderAt], hmark _ (by simp)⟩
  | .bool false, _ => exact ⟨'f', by simp [renderAt], hmark _ (by simp)⟩
  | .int n, _ =>
    obtain ⟨c, cs, hcs, hopens, -⟩ := intDigits_opens n
    exact ⟨c, by rw [renderAt, String.toList_ofList, hcs, List.head?_cons], hopens⟩
  | .decimal text, h =>
    obtain ⟨c, cs, hcs, hopens, -⟩ := NumberText.opens h
    exact ⟨c, by rw [renderAt, hcs, List.head?_cons], hopens⟩
  | .str s, _ => exact ⟨'"', by rw [renderAt, hquote.head?], hmark _ (by simp)⟩
  | .arr [], _ => exact ⟨'[', by simp [renderAt], hmark _ (by simp)⟩
  | .arr (v :: items), _ => exact ⟨'[', by simp [renderAt], hmark _ (by simp)⟩
  | .obj [], _ => exact ⟨'\x7b', by simp [renderAt], hmark _ (by simp)⟩
  | .obj ((name, v) :: members), _ => exact ⟨'\x7b', by simp [renderAt], hmark _ (by simp)⟩

/-- A value opens with neither a blank, nor the end of a list, nor a byte order mark. -/
theorem OpensValue.spec {c : Char} (h : OpensValue c) :
    isJsonBlank c = false ∧ c ≠ ']' ∧ c ≠ '\ufeff' := by
  rcases h with h | h
  · refine ⟨?_, ?_, ?_⟩
    · simp only [isJsonBlank, Bool.or_eq_false_iff, beq_eq_false_iff_ne]
      refine ⟨⟨⟨?_, ?_⟩, ?_⟩, ?_⟩ <;> (rintro rfl; cases h)
    · rintro rfl
      cases h
    · rintro rfl
      cases h
  · have hall : ∀ c ∈ ['n', 't', 'f', 'N', 'I', '"', '[', '\x7b', '-'],
        isJsonBlank c = false ∧ c ≠ ']' ∧ c ≠ '\ufeff' := by simp [isJsonBlank]
    exact hall c h

/-! ## Lists of items and members -/

/-- The text of items without the brackets. -/
def itemsText (style : Style) (level : Nat) : List Json → List Char
  | [] => []
  | v :: items => (renderAt style level v).toList ++ (renderItems style level items).toList

/-- The text of members without the braces. -/
def membersText (style : Style) (level : Nat) : List (String × Json) → List Char
  | [] => []
  | (name, v) :: members => (style.quote name).toList ++ ':' :: ' ' ::
      ((renderAt style level v).toList ++ (renderMembers style level members).toList)

theorem toList_renderAt_arr (style : Style) (level : Nat) {items : List Json} (h : items ≠ []) :
    (renderAt style level (.arr items)).toList =
      '[' :: ((style.lineBreak (level + 1)).toList ++ (itemsText style (level + 1) items ++
        ((style.lineBreak level).toList ++ [']']))) := by
  cases items with
  | nil => exact absurd rfl h
  | cons v items => simp [renderAt, itemsText]

theorem toList_renderAt_obj (style : Style) (level : Nat) {members : List (String × Json)}
    (h : members ≠ []) : (renderAt style level (.obj members)).toList =
      '\x7b' :: ((style.lineBreak (level + 1)).toList ++ (membersText style (level + 1) members ++
        ((style.lineBreak level).toList ++ ['\x7d']))) := by
  match members, h with
  | (name, v) :: members, _ => simp [renderAt, membersText]

theorem toList_renderItems (style : Style) (level : Nat) {items : List Json} (h : items ≠ []) :
    (renderItems style level items).toList =
      (style.comma level).toList ++ itemsText style level items := by
  cases items with
  | nil => exact absurd rfl h
  | cons v items => simp [renderItems, itemsText]

theorem toList_renderMembers (style : Style) (level : Nat) {members : List (String × Json)}
    (h : members ≠ []) : (renderMembers style level members).toList =
      (style.comma level).toList ++ membersText style level members := by
  match members, h with
  | (name, v) :: members, _ => simp [renderMembers, membersText]

theorem setMember_new {members : List (String × Json)} {name : String}
    (h : name ∉ members.map (·.1)) (v : Json) :
    setMember members name v = members ++ [(name, v)] := by
  have hany : (members.any fun m => m.1 == name) = false := by
    rw [List.any_eq_false]
    intro m hm he
    exact h (List.mem_map.2 ⟨m, hm, eq_of_beq he⟩)
  rw [setMember, hany]
  rfl

theorem readValue_arr {rest cs : List Char} {c : Char} (h : skipBlanks rest = c :: cs)
    (hc : c ≠ ']') (fuel : Nat) : readValue (fuel + 1) ('[' :: rest) =
      (readItems fuel (c :: cs)).map fun r => (.arr r.1, r.2) := by
  rw [readValue, h]
  split
  · next he => exact absurd (List.cons.inj he).1 hc
  · rfl

theorem readValue_obj {rest cs : List Char} {c : Char} (h : skipBlanks rest = c :: cs)
    (hc : c ≠ '\x7d') (fuel : Nat) : readValue (fuel + 1) ('\x7b' :: rest) =
      (readMembers fuel [] (c :: cs)).map fun r => (.obj r.1, r.2) := by
  rw [readValue, h]
  split
  · next he => exact absurd (List.cons.inj he).1 hc
  · rfl

/-! ## Written values -/

theorem steps_pos (v : Json) : 0 < v.steps := by
  cases v <;> simp only [steps] <;> omega

mutual

/-- A value takes no more steps than its text has characters. -/
theorem steps_le_length {style : Style} (hquote : Quoting style.quote) : ∀ v : Json, v.Readable →
    ∀ level : Nat, v.steps ≤ (renderAt style level v).toList.length
  | .arr [], _, level => by simp [steps, stepsOfItems, renderAt]
  | .arr (v :: items), h, level => by
    have hv := steps_le_length hquote v h.1 (level + 1)
    have hitems := stepsOfItems_le_length hquote items h.2 (level + 1)
    rw [toList_renderAt_arr style level (by simp)]
    simp only [steps, stepsOfItems, itemsText, List.length_cons, List.length_append]
    omega
  | .obj [], _, level => by simp [steps, stepsOfMembers, renderAt]
  | .obj ((name, v) :: members), h, level => by
    have hv := steps_le_length hquote v h.2.1 (level + 1)
    have hmembers := stepsOfMembers_le_length hquote members h.2.2 (level + 1)
    rw [toList_renderAt_obj style level (by simp)]
    simp only [steps, stepsOfMembers, membersText, List.length_cons, List.length_append]
    omega
  | .null, h, level | .bool _, h, level | .int _, h, level | .decimal _, h, level
  | .str _, h, level => by
    obtain ⟨c, hc, -⟩ := renderAt_opens hquote h level
    obtain ⟨cs, hcs⟩ := List.head?_eq_some_iff.1 hc
    simp [hcs, steps]

theorem stepsOfItems_le_length {style : Style} (hquote : Quoting style.quote) :
    ∀ items : List Json, ReadableItems items → ∀ level : Nat,
      stepsOfItems items ≤ (renderItems style level items).toList.length
  | [], _, level => by simp [stepsOfItems]
  | v :: items, h, level => by
    obtain ⟨gap, hgap, -⟩ := exists_comma style level
    have hv := steps_le_length hquote v h.1 level
    have hitems := stepsOfItems_le_length hquote items h.2 level
    simp only [stepsOfItems, renderItems, String.toList_append, hgap, List.length_cons,
      List.length_append]
    omega

theorem stepsOfMembers_le_length {style : Style} (hquote : Quoting style.quote) :
    ∀ members : List (String × Json), ReadableMembers members → ∀ level : Nat,
      stepsOfMembers members ≤ (renderMembers style level members).toList.length
  | [], _, level => by simp [stepsOfMembers]
  | (name, v) :: members, h, level => by
    obtain ⟨gap, hgap, -⟩ := exists_comma style level
    have hv := steps_le_length hquote v h.1 level
    have hmembers := stepsOfMembers_le_length hquote members h.2 level
    simp only [stepsOfMembers, renderMembers, String.toList_append, hgap, List.length_cons,
      List.length_append]
    omega

end

theorem return_not_mem_breaks (style : Style) (level : Nat) :
    '\r' ∉ (style.lineBreak level).toList ∧ '\r' ∉ (style.comma level).toList := by
  unfold Style.comma Style.lineBreak
  cases style.indent <;> simp

mutual

/-- A carriage return stands in the text of a value in no other form than quoted. -/
theorem return_not_mem_renderAt {style : Style} (hquote : ∀ s, '\r' ∉ (style.quote s).toList) :
    ∀ v : Json, v.Readable → ∀ level : Nat, '\r' ∉ (renderAt style level v).toList
  | .null, _, level => by simp [renderAt]
  | .bool true, _, level => by simp [renderAt]
  | .bool false, _, level => by simp [renderAt]
  | .int n, _, level => by
    have hdigits : ∀ n, '\r' ∉ Decimal.digits n := fun n h => by cases digits_allDigits n _ h
    cases n with
    | ofNat n => simpa [renderAt, Decimal.intDigits] using hdigits n
    | negSucc n => simpa [renderAt, Decimal.intDigits] using hdigits (n + 1)
  | .decimal text, h, level => by
    rw [renderAt]
    exact NumberText.line h
  | .str s, _, level => by
    rw [renderAt]
    exact hquote s
  | .arr [], _, level => by simp [renderAt]
  | .arr (v :: items), h, level => by
    have hv := return_not_mem_renderAt hquote v h.1 (level + 1)
    have hitems := return_not_mem_renderItems hquote items h.2 (level + 1)
    simp [renderAt, return_not_mem_breaks, hv, hitems]
  | .obj [], _, level => by simp [renderAt]
  | .obj ((name, v) :: members), h, level => by
    have hv := return_not_mem_renderAt hquote v h.2.1 (level + 1)
    have hmembers := return_not_mem_renderMembers hquote members h.2.2 (level + 1)
    simp [renderAt, return_not_mem_breaks, hquote, hv, hmembers]

theorem return_not_mem_renderItems {style : Style} (hquote : ∀ s, '\r' ∉ (style.quote s).toList) :
    ∀ items : List Json, ReadableItems items → ∀ level : Nat,
      '\r' ∉ (renderItems style level items).toList
  | [], _, level => by simp [renderItems]
  | v :: items, h, level => by
    have hv := return_not_mem_renderAt hquote v h.1 level
    have hitems := return_not_mem_renderItems hquote items h.2 level
    simp [renderItems, return_not_mem_breaks, hv, hitems]

theorem return_not_mem_renderMembers {style : Style}
    (hquote : ∀ s, '\r' ∉ (style.quote s).toList) :
    ∀ members : List (String × Json), ReadableMembers members → ∀ level : Nat,
      '\r' ∉ (renderMembers style level members).toList
  | [], _, level => by simp [renderMembers]
  | (name, v) :: members, h, level => by
    have hv := return_not_mem_renderAt hquote v h.1 level
    have hmembers := return_not_mem_renderMembers hquote members h.2 level
    simp [renderMembers, return_not_mem_breaks, hquote, hv, hmembers]

end

section
variable {style : Style} (hquote : Quoting style.quote)

include hquote

theorem itemsText_opens {items : List Json} (h : ReadableItems items) (hne : items ≠ [])
    (level : Nat) (rest : List Char) : ∃ c cs, itemsText style level items ++ rest = c :: cs ∧
      OpensValue c := by
  cases items with
  | nil => exact absurd rfl hne
  | cons v items =>
    obtain ⟨c, hc, hopens⟩ := renderAt_opens hquote h.1 level
    obtain ⟨cs, hcs⟩ := List.head?_eq_some_iff.1 hc
    exact ⟨c, _, by rw [itemsText, hcs]; rfl, hopens⟩

theorem skipBlanks_membersText {members : List (String × Json)} (hne : members ≠ []) (level : Nat)
    (rest : List Char) :
    skipBlanks (membersText style level members ++ rest) = membersText style level members ++ rest := by
  match members, hne with
  | (name, v) :: members, _ =>
    obtain ⟨cs, hcs⟩ := List.head?_eq_some_iff.1 (hquote.head? name)
    rw [membersText, hcs]
    exact skipBlanks_cons rfl _

/-- One member, with the value that its text gives: the last one, or one in front of others. -/
theorem readMembers_member {name : String} {v : Json} {level fuel : Nat} {behind : List Char}
    (seen : List (String × Json)) (h : v.Readable)
    (hv : readValue fuel ((renderAt style level v).toList ++ behind) = .ok (v, behind)) :
    (∀ rest, skipBlanks behind = '\x7d' :: rest →
      readMembers (fuel + 1) seen ((style.quote name).toList ++ ':' :: ' ' ::
        ((renderAt style level v).toList ++ behind)) = .ok (setMember seen name v, rest)) ∧
    ∀ rest, skipBlanks behind = ',' :: rest →
      readMembers (fuel + 1) seen ((style.quote name).toList ++ ':' :: ' ' ::
        ((renderAt style level v).toList ++ behind)) =
          readMembers fuel (setMember seen name v) (skipBlanks rest) := by
  obtain ⟨cs, hcs, hread⟩ := hquote name (':' :: ' ' :: ((renderAt style level v).toList ++ behind))
  obtain ⟨c, hc, hopens⟩ := renderAt_opens hquote h level
  obtain ⟨ds, hds⟩ := List.head?_eq_some_iff.1 hc
  have hskip : skipBlanks (' ' :: ((renderAt style level v).toList ++ behind)) =
      (renderAt style level v).toList ++ behind := by
    rw [hds]
    exact skipBlanks_cons hopens.spec.1 _
  constructor
  · intro rest hrest
    rw [hcs, readMembers, hread]
    simp only [skipBlanks_cons (c := ':') rfl, hskip, hv, hrest]
  · intro rest hrest
    rw [hcs, readMembers, hread]
    simp only [skipBlanks_cons (c := ':') rfl, hskip, hv, hrest]

mutual

theorem readValue_renderAt : ∀ v : Json, v.Readable → ∀ (level fuel : Nat) (rest : List Char),
    v.steps ≤ fuel → EndsValue rest →
      readValue fuel ((renderAt style level v).toList ++ rest) = .ok (v, rest)
  | .null, _, level, fuel + 1, rest, _, _ => by
    simp [renderAt, readValue_scalar, readScalar, words, dropPrefix?]
  | .bool true, _, level, fuel + 1, rest, _, _ => by
    simp [renderAt, readValue_scalar, readScalar, words, dropPrefix?]
  | .bool false, _, level, fuel + 1, rest, _, _ => by
    simp [renderAt, readValue_scalar, readScalar, words, dropPrefix?]
  | .int n, _, level, fuel + 1, rest, _, hrest => by
    rw [renderAt, String.toList_ofList, readValue_int hrest]
  | .decimal text, h, level, fuel + 1, rest, _, hrest => by
    obtain ⟨c, cs, hcs, -, hmark⟩ := NumberText.opens h
    have hread := NumberText.reads h rest hrest
    rw [hcs] at hread
    rw [renderAt, hcs, List.cons_append, readValue_scalar hmark]
    exact hread
  | .str s, _, level, fuel + 1, rest, _, _ => by
    obtain ⟨cs, hcs, hread⟩ := hquote s rest
    rw [renderAt, hcs, readValue, hread]
    rfl
  | .arr items, h, level, fuel + 1, rest, hfuel, hrest => by
    by_cases hne : items = []
    · simp [hne, renderAt, readValue, skipBlanks, isJsonBlank]
    · have hitems := readItems_itemsText items h hne (level + 1) level fuel rest (by
        simp only [steps] at hfuel
        omega)
      obtain ⟨c, cs, hcs, hopens⟩ := itemsText_opens hquote h hne (level + 1)
        ((style.lineBreak level).toList ++ ']' :: rest)
      rw [hcs] at hitems
      have hskip : skipBlanks ((style.lineBreak (level + 1)).toList ++ (c :: cs)) = c :: cs := by
        rw [skipBlanks_lineBreak, skipBlanks_cons hopens.spec.1]
      rw [toList_renderAt_arr style level hne]
      simp only [List.cons_append, List.append_assoc, List.nil_append]
      rw [hcs, readValue_arr hskip hopens.spec.2.1, hitems]
      rfl
  | .obj members, h, level, fuel + 1, rest, hfuel, hrest => by
    by_cases hne : members = []
    · simp [hne, renderAt, readValue, skipBlanks, isJsonBlank]
    · have hmembers := readMembers_membersText members h.2 hne [] h.1 (level + 1) level fuel rest
        (by
          simp only [steps] at hfuel
          omega)
      have hopens : ∃ cs, membersText style (level + 1) members ++
          ((style.lineBreak level).toList ++ '\x7d' :: rest) = '"' :: cs := by
        match members, hne with
        | (name, v) :: members, _ =>
          obtain ⟨cs, hcs, -⟩ := hquote name (':' :: ' ' :: ((renderAt style (level + 1) v).toList ++
            ((renderMembers style (level + 1) members).toList ++
              ((style.lineBreak level).toList ++ '\x7d' :: rest))))
          exact ⟨cs, by rw [← hcs, membersText]; simp⟩
      obtain ⟨cs, hcs⟩ := hopens
      rw [hcs] at hmembers
      have hskip : skipBlanks ((style.lineBreak (level + 1)).toList ++ ('"' :: cs)) = '"' :: cs := by
        rw [skipBlanks_lineBreak, skipBlanks_cons rfl]
      rw [toList_renderAt_obj style level hne]
      simp only [List.cons_append, List.append_assoc, List.nil_append]
      rw [hcs, readValue_obj hskip (by decide), hmembers]
      rfl
  | v, _, _, 0, _, hfuel, _ => absurd hfuel (Nat.not_le.2 (steps_pos v))

theorem readItems_itemsText : ∀ items : List Json, ReadableItems items → items ≠ [] →
    ∀ (inner outer fuel : Nat) (rest : List Char), stepsOfItems items ≤ fuel →
      readItems fuel (itemsText style inner items ++
        ((style.lineBreak outer).toList ++ ']' :: rest)) = .ok (items, rest)
  | v :: items, h, _, inner, outer, fuel + 1, rest, hfuel => by
    simp only [stepsOfItems] at hfuel
    have hends : EndsValue ((style.lineBreak outer).toList ++ ']' :: rest) :=
      endsValue_lineBreak (endsValue_cons (by simp) _) style outer
    have hbehind := readItems_itemsText items h.2
    rw [itemsText, List.append_assoc, readItems]
    by_cases hne : items = []
    · have hv := readValue_renderAt v h.1 inner fuel _ (by omega) hends
      rw [hne, renderItems, String.toList_empty, List.nil_append, hv]
      simp only [skipBlanks_lineBreak, skipBlanks_cons (c := ']') rfl]
    · obtain ⟨gap, hgap, hskip⟩ := exists_comma style inner
      obtain ⟨c, cs, hcs, hopens⟩ := itemsText_opens hquote h.2 hne inner
        ((style.lineBreak outer).toList ++ ']' :: rest)
      have hv := readValue_renderAt v h.1 inner fuel ((style.comma inner).toList ++
        (itemsText style inner items ++ ((style.lineBreak outer).toList ++ ']' :: rest))) (by omega)
        (endsValue_comma style inner _)
      rw [toList_renderItems style inner hne, List.append_assoc, hv, hgap]
      simp only [List.cons_append, skipBlanks_cons (c := ',') rfl, hskip, hcs,
        skipBlanks_cons hopens.spec.1]
      rw [← hcs, hbehind hne inner outer fuel rest (by omega)]
      rfl
  | v :: items, _, _, _, _, 0, _, hfuel => by
    simp only [stepsOfItems] at hfuel
    omega

theorem readMembers_membersText : ∀ members : List (String × Json), ReadableMembers members →
    members ≠ [] → ∀ seen : List (String × Json), ((seen ++ members).map (·.1)).Nodup →
    ∀ (inner outer fuel : Nat) (rest : List Char), stepsOfMembers members ≤ fuel →
      readMembers fuel seen (membersText style inner members ++
        ((style.lineBreak outer).toList ++ '\x7d' :: rest)) = .ok (seen ++ members, rest)
  | (name, v) :: members, h, _, seen, hnodup, inner, outer, fuel + 1, rest, hfuel => by
    simp only [stepsOfMembers] at hfuel
    have hnew : name ∉ seen.map (·.1) := by
      rw [List.map_append, List.nodup_append] at hnodup
      exact fun hm => hnodup.2.2 name hm name List.mem_cons_self rfl
    have hmore : (((seen ++ [(name, v)]) ++ members).map (·.1)).Nodup := by
      rw [List.append_assoc]
      exact hnodup
    have hends : EndsValue ((style.lineBreak outer).toList ++ '\x7d' :: rest) :=
      endsValue_lineBreak (endsValue_cons (by simp) _) style outer
    have hbehind := readMembers_membersText members h.2
    rw [membersText, List.append_assoc]
    simp only [List.cons_append, List.append_assoc]
    by_cases hne : members = []
    · have hv := readValue_renderAt v h.1 inner fuel _ (by omega) hends
      have hlast : skipBlanks ((style.lineBreak outer).toList ++ '\x7d' :: rest) = '\x7d' :: rest := by
        rw [skipBlanks_lineBreak, skipBlanks_cons rfl]
      rw [hne, renderMembers, String.toList_empty, List.nil_append,
        (readMembers_member hquote seen h.1 hv).1 rest hlast, setMember_new hnew]
    · obtain ⟨gap, hgap, hskip⟩ := exists_comma style inner
      have hv := readValue_renderAt v h.1 inner fuel ((style.comma inner).toList ++
        (membersText style inner members ++ ((style.lineBreak outer).toList ++ '\x7d' :: rest)))
        (by omega) (endsValue_comma style inner _)
      have hnext := hbehind hne (seen ++ [(name, v)]) hmore inner outer fuel rest (by omega)
      rw [hgap, List.cons_append] at hv
      rw [toList_renderMembers style inner hne, List.append_assoc, hgap, List.cons_append,
        (readMembers_member hquote seen h.1 hv).2 _ (skipBlanks_cons rfl _), setMember_new hnew,
        hskip, skipBlanks_membersText hquote hne, hnext, List.append_assoc]
      rfl
  | (name, v) :: members, _, _, _, _, _, _, 0, _, hfuel => by
    simp only [stepsOfMembers] at hfuel
    omega

end

/-- **What was written is read back**, whatever blanks follow. -/
theorem read_render_of_blank {v : Json} (h : v.Readable) {rest : String}
    (ends : EndsValue rest.toList) (blank : skipBlanks rest.toList = []) :
    read (render style v ++ rest) = .ok v := by
  obtain ⟨c, hc, hopens⟩ := renderAt_opens hquote h 0
  obtain ⟨cs, hcs⟩ := List.head?_eq_some_iff.1 hc
  have hsteps := steps_le_length hquote v h 0
  have hv := readValue_renderAt hquote v h 0
    (2 * ((renderAt style 0 v).toList ++ rest.toList).length + 2) rest.toList
    (by rw [List.length_append]; omega) ends
  have hskip : skipBlanks ((renderAt style 0 v).toList ++ rest.toList) =
      (renderAt style 0 v).toList ++ rest.toList := by
    rw [hcs]
    exact skipBlanks_cons hopens.spec.1 _
  have hmark : ((renderAt style 0 v).toList ++ rest.toList).head? ≠ some '\ufeff' := by
    rw [hcs]
    exact fun he => hopens.spec.2.2 (Option.some.inj he)
  have hall : readAll ((renderAt style 0 v).toList ++ rest.toList) = .ok v := by
    rw [readAll, if_neg hmark, hskip, hv]
    simp only [blank]
  rw [read, render, String.toList_append, hall]

/-- What was written is read back from lines of its own. -/
theorem read_render {v : Json} (h : v.Readable) : read (render style v ++ "\n") = .ok v := by
  have hlast : "\n".toList = ['\n'] := by simp
  refine read_render_of_blank hquote h ?_ ?_
  · rw [hlast]
    exact endsValue_cons (by simp) _
  · rw [hlast]
    rfl

end

theorem read_pretty {v : Json} (h : v.Readable) (indent : Nat) :
    read (pretty indent v ++ "\n") = .ok v :=
  @read_render ⟨quote, some indent⟩ quoting_quote v h

theorem read_prettyAscii {v : Json} (h : v.Readable) (indent : Nat) :
    read (prettyAscii indent v ++ "\n") = .ok v :=
  @read_render ⟨quoteAscii, some indent⟩ quoting_quoteAscii v h

theorem read_compact {v : Json} (h : v.Readable) : read (compact v) = .ok v := by
  have hread := @read_render_of_blank ⟨quote, none⟩ quoting_quote v h "" (by rintro c ⟨⟩) rfl
  rwa [String.append_empty] at hread

theorem return_not_mem_quoteAscii (s : String) : '\r' ∉ (quoteAscii s).toList := by
  have hline := (Source.contained_flatMap Source.contained_escapeAscii s.toList).line
  simpa [quoteAscii] using fun c hc he => (hline '\r' (List.mem_flatMap.2 ⟨c, hc, he⟩)).2 rfl

theorem return_not_mem_prettyAscii {v : Json} (h : v.Readable) (indent : Nat) :
    '\r' ∉ (prettyAscii indent v ++ "\n").toList := by
  rw [String.toList_append, List.mem_append, not_or]
  exact ⟨@return_not_mem_renderAt ⟨quoteAscii, some indent⟩ return_not_mem_quoteAscii v h 0,
    by simp⟩

end Acceptance.Json
