import Acceptance.Proofs.Source.Scanning

/-!
# Names as words

An identifier that is no reserved word is scanned as one name, up to a character that no name has.
Spelled in a second way it is the same name, so the word is the normal form.

    isIdentifierPart c → isNamePart c                                     (isNamePart_of_identifier)
    Scans (line bs) (name ++ rest) [.name (normalForm name)] (line bs) rest             (scans_name)
-/

namespace Acceptance.Source

open Acceptance.Text

/-- A character of a kind is none of some that are not of that kind. -/
theorem not_mem_of_any {p : Char → Bool} {cs : List Char} {c : Char} (hcs : cs.any p = false)
    (hc : p c = true) : c ∉ cs :=
  fun h => List.any_eq_false.1 hcs c h hc

/-- A text that opens with no character of a name and with no quote. -/
def EndsName (cs : List Char) : Prop :=
  ∀ c ∈ cs.head?, isNamePart c = false ∧ c ≠ '"' ∧ c ≠ '\x27'

theorem endsName_cons {c : Char} (cs : List Char) (h : isNamePart c = false ∧ c ≠ '"' ∧ c ≠ '\x27') :
    EndsName (c :: cs) := by
  intro d hd
  obtain rfl := Option.some.inj hd
  exact h

theorem isNamePart_of_identifier {c : Char} (h : isIdentifierPart c = true) :
    isNamePart c = true ∧ (isIdentifierStart c = true → isNameStart c = true) := by
  have hplain : ∀ n, n < 128 → isIdentifierPart (Char.ofNat n) = true →
      isNamePart (Char.ofNat n) = true ∧
        (isIdentifierStart (Char.ofNat n) = true → isNameStart (Char.ofNat n) = true) := by
    decide +kernel
  by_cases hc : c.toNat < 128
  · rw [← Char.ofNat_toNat c] at h ⊢
    exact hplain c.toNat hc h
  · simp [isNamePart, isNameStart, Nat.not_lt.1 hc]

theorem not_quote_of_namePart {c : Char} (h : isNamePart c = true) : c ≠ '"' ∧ c ≠ '\x27' := by
  constructor <;> (rintro rfl; revert h; decide)

theorem isNamePart_of_toLower {c : Char} (h : c.toLower.isAlphanum = true) :
    isNamePart c = true := by
  unfold Char.toLower at h
  split at h
  · next hupper =>
    have hc : c.isUpper = true := decide_eq_true hupper
    have halpha : c.isAlpha = true := Bool.or_eq_true_iff.2 (.inl hc)
    simp [isNamePart, Char.isAlphanum, halpha]
  · simp [isNamePart, h]

/-- A name that no quote follows opens no literal. -/
theorem literalStart?_name {cs rest : List Char}
    (hcs : ∀ c ∈ cs, isNamePart c = true) (hrest : EndsName rest) :
    literalStart? (cs ++ rest) = none := by
  have hmarks : ∀ m ∈ literalMarks, m.1.toList.length = m.1.length ∧
      m.1.toList.all Char.isAlphanum = true := by decide
  rw [literalStart?, List.findSome?_eq_none_iff]
  rintro ⟨mark, flags⟩ hm
  obtain ⟨hlen, hletters⟩ := hmarks _ hm
  dsimp only
  split
  · next q behind hq =>
    rw [if_neg]
    rintro ⟨hquote, htake⟩
    -- the quote is a character of the name, or the one behind it, or there is one in the mark
    have hat : (cs ++ rest)[mark.length]? = some q := by
      rw [← List.head?_drop, hq]
      rfl
    rcases Nat.lt_trichotomy mark.length cs.length with hlt | heq | hgt
    · rw [List.getElem?_append_left hlt] at hat
      have hpart := not_quote_of_namePart (hcs q (List.mem_of_getElem? hat))
      exact hquote.elim hpart.1 hpart.2
    · rw [heq, List.getElem?_append_right (Nat.le_refl _), Nat.sub_self, ← List.head?_eq_getElem?]
        at hat
      exact hquote.elim (hrest q hat).2.1 (hrest q hat).2.2
    · rw [List.getElem?_append_right (Nat.le_of_lt hgt)] at hat
      cases rest with
      | nil => simp at hat
      | cons c rest =>
        have hc : c.toLower ∈ mark.toList := by
          rw [← htake, List.take_append, List.take_of_length_le (Nat.le_of_lt hgt)]
          obtain ⟨k, hk⟩ : ∃ k, mark.length - cs.length = k + 1 := ⟨_, (Nat.sub_add_cancel (by omega)).symm⟩
          simp [hk]
        have hpart := (hrest c rfl).1
        rw [isNamePart_of_toLower (List.all_eq_true.1 hletters _ hc)] at hpart
        cases hpart
  · rfl

/-- A word that opens with none of the characters which part words, and is no literal. -/
theorem scanWord_plain {c : Char} {cs : List Char} (s : Lexing)
    (hc : c ∉ ['\n', '#', '\\', ' ', '\t', '\x0c']) (hliteral : literalStart? (c :: cs) = none) :
    scanWord s (c :: cs) =
      if isNameStart c then (scanName (c :: cs)).map fun (t, behind) => ([t], s, behind)
      else if c.isDigit || (c == '.' && (cs.head?.map Char.isDigit).getD false) then
        (scanNumber (c :: cs)).map fun (n, behind) => ([.number n], s, behind)
      else scanWord s (c :: cs) := by
  simp only [List.mem_cons, List.not_mem_nil, or_false, not_or] at hc
  obtain ⟨hfeed, hmark, hback, hblank, htab, hpage⟩ := hc
  have hspace : isSpace c = false := by simp [isSpace, hblank, htab, hpage]
  rw [scanWord]
  · simp only [hspace, hliteral, Bool.false_eq_true, if_false]
    split
    · rfl
    · split <;> rfl
  all_goals simp_all

theorem nameParts_of_identifier {cs : List Char} (h : isIdentifierList cs = true) :
    ∀ c ∈ cs, isNamePart c = true := by
  cases cs with
  | nil => exact nofun
  | cons c cs =>
    simp only [isIdentifierList, Bool.and_eq_true, List.all_eq_true] at h
    exact List.forall_mem_cons.2 ⟨(isNamePart_of_identifier (isIdentifierPart_of_start h.1)).1,
      fun d hd => (isNamePart_of_identifier (h.2 d hd)).1⟩

/-- **An identifier is scanned as a name.** -/
theorem scans_name {cs rest : List Char} (hid : isIdentifierList cs = true)
    (hfree : isReserved (.ofList cs) = false) (hrest : EndsName rest) (brackets : List String) :
    Scans (line brackets) (cs ++ rest) [.name (normalForm (.ofList cs))] (line brackets) rest := by
  have hparts := nameParts_of_identifier hid
  obtain ⟨htake, hdrop⟩ := takeWhile_stop hparts fun c hc => (hrest c hc).1
  have hname : scanName (cs ++ rest) = some (.name (normalForm (.ofList cs)), rest) := by
    rw [scanName, htake, hdrop, hfree, hid, Bool.or_true]
    rfl
  have hliteral : literalStart? (cs ++ rest) = none := literalStart?_name hparts hrest
  cases cs with
  | nil => cases hid
  | cons c cs =>
    simp only [isIdentifierList, Bool.and_eq_true] at hid
    have hstart := (isNamePart_of_identifier (isIdentifierPart_of_start hid.1)).2 hid.1
    have hspecial : c ∉ ['\n', '#', '\\', ' ', '\t', '\x0c'] :=
      not_mem_of_any (by decide) hstart
    rw [List.cons_append] at hname hliteral ⊢
    refine .one rfl ?_ (by simp only [List.length_cons, List.length_append]; omega)
    rw [scanWord_plain _ hspecial hliteral, if_pos hstart, hname]
    rfl

end Acceptance.Source
