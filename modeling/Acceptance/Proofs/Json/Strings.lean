import Acceptance.Json.Reader
import Acceptance.Proofs.Source.Literals

/-!
# Quoted texts read back

A quoted text is read one character at a time: what a character is escaped to is read as that
character, whatever follows.  A character beyond sixteen bits is escaped in two units, the second
of which is read along with the first; no other character is escaped to half of such a pair.

    readStringFrom start read (escape c ++ rest) = readStringFrom start (c :: read) rest   (ReadsAs)
    Quoting quote → readString behind the opening quote of quote s = .ok (s, rest)
                                                             (quoting_quote, quoting_quoteAscii)
-/

namespace Acceptance.Json

open Acceptance.Text

/-! ## One step of the reader -/

theorem readStringFrom_quote (start : Nat) (read rest : List Char) :
    readStringFrom start read ('"' :: rest) = .ok (.ofList read.reverse, rest) := by
  rw [readStringFrom]

theorem readStringFrom_plain {c : Char} (hq : c ≠ '"') (hb : c ≠ '\\') (hc : ¬ c.toNat < 0x20)
    (start : Nat) (read rest : List Char) :
    readStringFrom start read (c :: rest) = readStringFrom start (c :: read) rest := by
  rw [readStringFrom, if_neg hc]
  · exact fun he => hq he
  · exact fun he => hb he

theorem readStringFrom_short {x c : Char} (hx : shortEscape? x = some c) (start : Nat)
    (read rest : List Char) :
    readStringFrom start read ('\\' :: x :: rest) = readStringFrom start (c :: read) rest := by
  have hu : x ≠ 'u' := by
    rintro rfl
    cases hx
  rw [readStringFrom, hx]
  · exact fun _ _ _ _ _ he => absurd he hu
  · exact fun he => hu he

theorem readStringFrom_unicode {a b c d x : Char} {behind rest : List Char} (hne : behind ≠ [])
    (hx : unicodeEscape a b c d behind = .ok (x, rest)) (start : Nat) (read : List Char) :
    readStringFrom start read ('\\' :: 'u' :: a :: b :: c :: d :: behind) =
      readStringFrom start (x :: read) rest := by
  have hnonempty : behind.isEmpty = false := List.isEmpty_eq_false_iff.2 hne
  rw [readStringFrom]
  simp only [hnonempty, Bool.false_eq_true, if_false]
  split
  · next f he => rw [hx] at he; cases he
  · next y ys he =>
    rw [hx] at he
    cases he
    rfl

/-! ## Sixteen-bit escapes -/

theorem hex4?_hexDigits {n : Nat} (hn : n < 0x10000) :
    ∃ a b c d, hexDigits 4 n = [a, b, c, d] ∧ hex4? a b c d = some n := by
  obtain ⟨a, b, c, d, hd⟩ : ∃ a b c d, hexDigits 4 n = [a, b, c, d] := ⟨_, _, _, _, rfl⟩
  refine ⟨a, b, c, d, hd, ?_⟩
  rw [hex4?, ← hd, if_pos (Source.hexDigits_isHex 4 n), Source.hexDigits_value]
  exact congrArg some (Nat.mod_eq_of_lt hn)

/-- Characters are no halves of pairs. -/
theorem toNat_not_half (c : Char) : c.toNat < 0xD800 ∨ 0xE000 ≤ c.toNat := by
  have hvalid : c.toNat < 0xD800 ∨ 0xDFFF < c.toNat ∧ c.toNat < 0x110000 := c.valid
  omega

theorem unitChar_toNat (c : Char) : unitChar c.toNat = c := by
  have hhalf := toNat_not_half c
  rw [unitChar, if_neg (by omega), Char.ofNat_toNat]

/-- The two units of a character beyond sixteen bits. -/
theorem ofNat_units {c : Char} (hc : ¬ c.toNat < 0x10000) :
    Char.ofNat (0x10000 + (0xD800 + (c.toNat - 0x10000) / 0x400 - 0xD800) * 0x400 +
      (0xDC00 + (c.toNat - 0x10000) % 0x400 - 0xDC00)) = c := by
  have hsum : 0x10000 + (0xD800 + (c.toNat - 0x10000) / 0x400 - 0xD800) * 0x400 +
      (0xDC00 + (c.toNat - 0x10000) % 0x400 - 0xDC00) = c.toNat := by omega
  rw [hsum, Char.ofNat_toNat]

/-- The text of one character is read as that character, if the string goes on behind it. -/
def ReadsAs (c : Char) (text : List Char) : Prop :=
  ∀ start read rest, rest ≠ [] →
    readStringFrom start read (text ++ rest) = readStringFrom start (c :: read) rest

/-- A unit that is no first half of a pair is read on its own. -/
theorem readsAs_escapeUnit {c : Char} (hc : c.toNat < 0x10000) :
    ReadsAs c (escapeUnit c.toNat) := by
  intro start read rest hrest
  obtain ⟨p, q, r, s, hdigits, hvalue⟩ := hex4?_hexDigits hc
  have hhalf := toNat_not_half c
  have hx : unicodeEscape p q r s rest = .ok (c, rest) := by
    unfold unicodeEscape
    simp only [hvalue]
    split
    · rw [if_neg (by omega), unitChar_toNat]
    · rw [unitChar_toNat]
  rw [escapeUnit, hdigits]
  exact readStringFrom_unicode hrest hx start read

/-- The second unit of a pair is read along with the first. -/
theorem readsAs_escapeUnits (c : Char) : ReadsAs c (escapeUnits c.toNat) := by
  by_cases hc : c.toNat < 0x10000
  · rw [escapeUnits, if_pos hc]
    exact readsAs_escapeUnit hc
  · intro start read rest hrest
    have hmax : c.toNat < 0x110000 := by
      have hvalid : c.toNat < 0xD800 ∨ 0xDFFF < c.toNat ∧ c.toNat < 0x110000 := c.valid
      omega
    obtain ⟨p, q, r, s, hfirst, hhigh⟩ :=
      hex4?_hexDigits (n := 0xD800 + (c.toNat - 0x10000) / 0x400) (by omega)
    obtain ⟨t, u, v, w, hsecond, hlow⟩ :=
      hex4?_hexDigits (n := 0xDC00 + (c.toNat - 0x10000) % 0x400) (by omega)
    have hx : unicodeEscape p q r s ('\\' :: 'u' :: t :: u :: v :: w :: rest) = .ok (c, rest) := by
      simp only [unicodeEscape, hhigh, hlow]
      rw [if_pos ⟨by omega, by omega, hrest⟩, if_pos (by omega), ofNat_units hc]
    rw [escapeUnits, if_neg hc, escapeUnit, escapeUnit, hfirst, hsecond]
    exact readStringFrom_unicode (by simp) hx start read

/-! ## Characters -/

theorem readsAs_escapeControl {c : Char} {e : List Char} (h : escapeControl? c = some e) :
    ReadsAs c e := by
  have hshort : ∀ d x : Char, c = d → some ['\\', x] = some e → shortEscape? x = some d →
      ReadsAs c e := by
    rintro d x rfl he hx start read rest -
    rw [← Option.some.inj he]
    exact readStringFrom_short hx start read rest
  unfold escapeControl? at h
  split at h
  · next hc => exact hshort _ _ hc h rfl
  split at h
  · next hc => exact hshort _ _ hc h rfl
  split at h
  · next hc => exact hshort _ _ hc h rfl
  split at h
  · next hc => exact hshort _ _ hc h rfl
  split at h
  · next hc => exact hshort _ _ hc h rfl
  split at h
  · next hc => exact hshort _ _ hc h rfl
  split at h
  · next hc => exact hshort _ _ hc h rfl
  split at h
  · next hc => exact Option.some.inj h ▸ readsAs_escapeUnit (by omega)
  · cases h

theorem readsAs_plain {c : Char} (h : escapeControl? c = none) : ReadsAs c [c] := by
  intro start read rest _
  have hlarge : ¬ c.toNat < 0x20 := by
    intro hc
    unfold escapeControl? at h
    rw [if_pos hc] at h
    repeat' split at h
    all_goals cases h
  obtain ⟨hq, hb, -, -⟩ := Source.of_escapeControl?_eq_none h
  exact readStringFrom_plain hq hb hlarge start read rest

theorem readsAs_escapeChar (c : Char) : ReadsAs c (escapeChar c) := by
  cases he : escapeControl? c with
  | none => rw [escapeChar, he]; exact readsAs_plain he
  | some e => rw [escapeChar, he]; exact readsAs_escapeControl he

theorem readsAs_escapeAscii (c : Char) : ReadsAs c (escapeAscii c) := by
  cases he : escapeControl? c with
  | some e => rw [escapeAscii, he]; exact readsAs_escapeControl he
  | none =>
    rw [escapeAscii, he, Option.getD_none]
    by_cases hc : c.toNat < 0x7F
    · rw [if_pos hc]
      exact readsAs_plain he
    · rw [if_neg hc]
      exact readsAs_escapeUnits c

/-! ## Whole texts -/

theorem readStringFrom_flatMap {escape : Char → List Char} (h : ∀ c, ReadsAs c (escape c))
    (start : Nat) (read cs rest : List Char) :
    readStringFrom start read (cs.flatMap escape ++ '"' :: rest) =
      .ok (.ofList (read.reverse ++ cs), rest) := by
  induction cs generalizing read with
  | nil => simpa using readStringFrom_quote start read rest
  | cons c cs ih =>
    rw [List.flatMap_cons, List.append_assoc, h c start read _ (by simp), ih, List.reverse_cons,
      List.append_assoc]
    rfl

/-- A quoting whose texts are read as what they quote. -/
def Quoting (quote : String → String) : Prop :=
  ∀ s rest, ∃ cs, (quote s).toList ++ rest = '"' :: cs ∧ readString cs = .ok (s, rest)

theorem quoting_of_readsAs {quote : String → String} {escape : Char → List Char}
    (hquote : ∀ s, (quote s).toList = '"' :: (s.toList.flatMap escape ++ ['"']))
    (h : ∀ c, ReadsAs c (escape c)) : Quoting quote := by
  intro s rest
  refine ⟨s.toList.flatMap escape ++ '"' :: rest, by simp [hquote], ?_⟩
  rw [readString, readStringFrom_flatMap h, List.reverse_nil, List.nil_append, String.ofList_toList]

theorem quoting_quote : Quoting quote := quoting_of_readsAs toList_quote readsAs_escapeChar

theorem quoting_quoteAscii : Quoting quoteAscii :=
  quoting_of_readsAs (fun s => by simp [quoteAscii]) readsAs_escapeAscii

end Acceptance.Json
