import Acceptance.Proofs.Source.Numerals

/-!
# Numbers that cannot be read

A text may be written like a number and still be no number of a source text: an integer begins with
a zero too many or is too long, or some digit belongs to another script.  The scan gets stuck there,
at the first of these digits or at the number as a whole, and the text is no expression.

    Stuck (line []) (closeLastLine (c :: cs)) → tokens (.ofList (c :: cs)) = none (tokens_of_stuck)
    n.Spelled → n.Valid ∨ some digit of n is foreign, a part of a numeral in front of it
                                                                              (Numeral.Spelled.cases)
    WritesNumeral s n cs → n.Spelled →
      ((readExpression cs).isSome = true ↔ n.Readable)            (isSome_readExpression_numeral_iff)
-/

namespace Acceptance.Source

open Acceptance.Text

/-! ## Algorithm -/

/-- The scan comes to a place where no word begins. -/
def Stuck (s : Lexing) (cs : List Char) : Prop :=
  ∃ ts s' mid, Scans s cs ts s' mid ∧ s'.lineStart = false ∧ mid ≠ [] ∧ scanWord s' mid = none

/-- A digit that does not stand in numbers of a source text. -/
structure IsForeign (c : Char) : Prop where
  digit : isDecimalDigit c = true
  notPlain : c.isDigit = false

/-- Digits of any script. -/
def AnyDigits (cs : List Char) : Prop := ∀ c ∈ cs, isDecimalDigit c = true

/-- A numeral with digits of any script. -/
structure Numeral.Spelled (n : Numeral) : Prop where
  whole : AnyDigits n.whole
  fraction : ∀ ds ∈ n.fraction, AnyDigits ds
  exponent : ∀ x ∈ n.exponent, (x.mark = 'e' ∨ x.mark = 'E') ∧ AnyDigits x.digits ∧ x.digits ≠ []
  nonempty : n.whole ≠ [] ∨ n.fraction.getD [] ≠ []

/-- What may stand in front of the first foreign digit of a numeral. -/
inductive Cut : List Char → Prop
  | start : Cut []
  | point : Cut ['.']
  | number {n : Numeral} (valid : n.Valid) : Cut n.chars
  | exponent {n : Numeral} (valid : n.Valid) (short : n.exponent = none) {mark : Char}
      (isMark : mark = 'e' ∨ mark = 'E') (sign : Sign) : Cut (n.chars ++ mark :: sign.chars)

/-! ## Stuck scans -/

section
variable {s s' : Lexing} {cs mid : List Char} {ts : List Token}

theorem Stuck.behind (h : Stuck s' mid) (hscans : Scans s cs ts s' mid) : Stuck s cs := by
  obtain ⟨us, s'', rest, hrest, hline, hne, hword⟩ := h
  exact ⟨ts ++ us, s'', rest, hscans.trans hrest, hline, hne, hword⟩

end

/-! ## Foreign digits -/

/-- The run that holds a code point. -/
def runOf? : CodeRanges → Nat → Option (Nat × Nat)
  | [], _ => none
  | r :: rest, n => if n < r.1 then none else if n ≤ r.2 then some r else runOf? rest n

/-- A run that begins in one of the runs and does not go beyond it is within the runs. -/
theorem contains_of_runOf? {rs : CodeRanges} {a n : Nat} {q : Nat × Nat} (h : runOf? rs a = some q)
    (hlow : a ≤ n) (hhigh : n ≤ q.2) : rs.contains n = true := by
  induction rs with
  | nil => cases h
  | cons r rest ih =>
    unfold runOf? at h
    split at h
    · cases h
    · next hlo =>
      split at h
      · obtain rfl := Option.some.inj h
        simp [CodeRanges.contains, hhigh, show ¬ n < r.1 by omega]
      · simp [CodeRanges.contains, show ¬ n < r.1 by omega, show ¬ n ≤ r.2 by omega, ih h]

theorem isDecimalDigit_spec {c : Char} (h : isDecimalDigit c = true) :
    c.isDigit = true ∨ 128 ≤ c.toNat ∧ isIdentifierStart c = false := by
  have hranges : ∀ r ∈ digitRanges, r = (48, 57) ∨
      128 ≤ r.1 ∧ (runOf? nonStartRanges r.1).any (fun q => decide (r.2 ≤ q.2)) = true := by
    decide +kernel
  obtain ⟨r, hr, hlow, hhigh⟩ := CodeRanges.exists_of_contains h
  rcases hranges r hr with rfl | ⟨hbound, hrun⟩
  · left
    simp only [Char.isDigit, Bool.and_eq_true, decide_eq_true_eq, UInt32.le_iff_toNat_le, ge_iff_le]
    exact ⟨hlow, hhigh⟩
  · right
    cases hq : runOf? nonStartRanges r.1 with
    | none => simp [hq] at hrun
    | some q =>
      have hend : r.2 ≤ q.2 := by simpa [hq] using hrun
      have hnone := contains_of_runOf? hq hlow (Nat.le_trans hhigh hend)
      have hmark : (c == '_') = false := beq_false_of_ne fun he => by
        subst he
        exact absurd (Nat.le_trans hbound hlow) (by decide)
      refine ⟨Nat.le_trans hbound hlow, ?_⟩
      rw [isIdentifierStart, hmark, hnone]
      simp

section
variable {c : Char}

theorem IsForeign.spec (h : IsForeign c) : 128 ≤ c.toNat ∧ isIdentifierStart c = false :=
  (isDecimalDigit_spec h.digit).resolve_left (by simp [h.notPlain])

theorem IsForeign.not_mem (h : IsForeign c) {cs : List Char}
    (hcs : cs.all (·.toNat < 128) = true) : c ∉ cs :=
  fun hm => Nat.not_lt.2 h.spec.1 (of_decide_eq_true (List.all_eq_true.1 hcs c hm))

theorem IsForeign.ne (h : IsForeign c) {d : Char} (hd : d.toNat < 128) : c ≠ d :=
  fun he => Nat.not_lt.2 h.spec.1 (he ▸ hd)

theorem IsForeign.stops (h : IsForeign c) : Stops c :=
  ⟨⟨h.notPlain, h.not_mem (by decide)⟩, h.not_mem (by decide)⟩

/-- No number ends in front of a foreign digit. -/
theorem IsForeign.endsNumber (h : IsForeign c) (cs : List Char) : endsNumber (c :: cs) = false := by
  have hfollowers : ∀ w ∈ followers, ∃ d ds, w.toList = d :: ds ∧ d.toNat < 128 := by
    simp [followers]
  rw [Source.endsNumber, Bool.or_eq_false_iff, List.any_eq_false]
  refine ⟨by simp [isNamePart, h.spec.1], fun w hw => ?_⟩
  obtain ⟨d, ds, hchars, hd⟩ := hfollowers w hw
  have hne : (d == c) = false := beq_false_of_ne (h.ne hd).symm
  simp [hchars, List.isPrefixOf, hne]

/-- No word begins with a foreign digit. -/
theorem IsForeign.scanWord (h : IsForeign c) (s : Lexing) (cs : List Char) :
    scanWord s (c :: cs) = none := by
  obtain ⟨hlarge, hstart⟩ := h.spec
  have hlower : c.toLower = c := by
    unfold Char.toLower
    split
    · next hupper =>
      have hbound : c.toNat ≤ 90 := UInt32.le_iff_toNat_le.1 hupper.2
      omega
    · rfl
  have hliteral : literalStart? (c :: cs) = none := by
    refine literalStart?_eq_none cs ⟨h.ne (by decide), h.ne (by decide)⟩ ?_
    rw [hlower]
    exact h.not_mem (by decide)
  have hname : scanName (c :: cs) = none := by
    have hpart : isNamePart c = true := by simp [isNamePart, hlarge]
    have hreserved : ∀ w : List Char, isReserved (.ofList (c :: w)) = false := by
      intro w
      have hwords : reservedWords.all (·.toList.all (·.toNat < 128)) = true := by decide
      rw [Bool.eq_false_iff]
      intro hw
      exact h.not_mem (List.all_eq_true.1 hwords _ (List.contains_iff_mem.1 hw)) (by simp)
    rw [scanName, List.takeWhile_cons, if_pos hpart, hreserved, if_neg Bool.false_ne_true, if_neg]
    simp [isIdentifierList, hstart, Nat.not_lt.2 hlarge]
  have hbegins : isNameStart c = true := by simp [isNameStart, hlarge]
  rw [scanWord_plain s (h.not_mem (by decide)) hliteral, hname, if_pos hbegins]
  rfl

end

/-! ## The first foreign digit -/

theorem AnyDigits.cases {ds : List Char} (h : AnyDigits ds) : AllDigits ds ∨
    ∃ front c behind, ds = front ++ c :: behind ∧ AllDigits front ∧ IsForeign c := by
  induction ds with
  | nil => exact .inl nofun
  | cons d ds ih =>
    obtain ⟨hd, hds⟩ := List.forall_mem_cons.1 h
    by_cases hplain : d.isDigit = true
    · rcases ih hds with hall | ⟨front, c, behind, rfl, hfront, hc⟩
      · exact .inl (List.forall_mem_cons.2 ⟨hplain, hall⟩)
      · exact .inr ⟨d :: front, c, behind, rfl, List.forall_mem_cons.2 ⟨hplain, hfront⟩, hc⟩
    · exact .inr ⟨[], d, ds, rfl, nofun, hd, Bool.eq_false_iff.2 hplain⟩

/-- Digits, and a point with digits behind it. -/
theorem cut_mantissa {whole : List Char} {fraction : Option (List Char)} (hwhole : AllDigits whole)
    (hfraction : ∀ ds ∈ fraction, AllDigits ds) :
    Cut (whole ++ (fraction.map ('.' :: ·)).getD []) := by
  by_cases hne : whole ≠ [] ∨ fraction.getD [] ≠ []
  · have hvalid : Numeral.Valid ⟨whole, fraction, none⟩ := ⟨hwhole, hfraction, nofun, hne⟩
    simpa [Numeral.chars, Numeral.tail] using Cut.number hvalid
  · obtain ⟨rfl, hempty⟩ : whole = [] ∧ fraction.getD [] = [] := by simpa using hne
    cases fraction with
    | none => exact .start
    | some ds =>
      obtain rfl : ds = [] := hempty
      exact .point

/-- **The first foreign digit of a numeral stands behind a numeral or a part of one.** -/
theorem Numeral.Spelled.cases {n : Numeral} (h : n.Spelled) : n.Valid ∨
    ∃ front c behind, n.chars = front ++ c :: behind ∧ Cut front ∧ IsForeign c := by
  by_cases hwhole : AllDigits n.whole
  case neg =>
    obtain ⟨front, c, behind, hsplit, hfront, hc⟩ := h.whole.cases.resolve_left hwhole
    have hcut := @cut_mantissa front none hfront (by simp)
    have hchars : n.chars =
        front ++ c :: (behind ++ ((n.fraction.map ('.' :: ·)).getD [] ++ n.tail)) := by
      rw [Numeral.chars, hsplit, List.append_assoc, List.cons_append]
    exact .inr ⟨front, c, _, hchars, by simpa using hcut, hc⟩
  by_cases hfraction : ∀ ds ∈ n.fraction, AllDigits ds
  case neg =>
    obtain ⟨ds, hds, hforeign⟩ : ∃ ds ∈ n.fraction, ¬ AllDigits ds := by simpa using hfraction
    obtain ⟨front, c, behind, rfl, hfront, hc⟩ := (h.fraction ds hds).cases.resolve_left hforeign
    have hcut := @cut_mantissa n.whole (some front) hwhole (by simpa using hfront)
    refine .inr ⟨_, c, behind ++ n.tail, ?_, hcut, hc⟩
    simp [Numeral.chars, Option.mem_def.1 hds]
  have hbody : Numeral.Valid ⟨n.whole, n.fraction, none⟩ := ⟨hwhole, hfraction, by simp, h.nonempty⟩
  by_cases hexponent : ∀ x ∈ n.exponent, AllDigits x.digits
  · refine .inl ⟨hwhole, hfraction, fun x hx => ?_, h.nonempty⟩
    obtain ⟨hmark, -, hnonempty⟩ := h.exponent x hx
    exact ⟨hmark, hexponent x hx, hnonempty⟩
  · obtain ⟨x, hx, hforeign⟩ : ∃ x ∈ n.exponent, ¬ AllDigits x.digits := by simpa using hexponent
    obtain ⟨hmark, hdigits, -⟩ := h.exponent x hx
    obtain ⟨front, c, behind, hsplit, hfront, hc⟩ := hdigits.cases.resolve_left hforeign
    have hchars : n.chars = Numeral.chars ⟨n.whole, n.fraction, none⟩ ++
        x.mark :: (x.sign.chars ++ front) ++ c :: behind := by
      simp [Numeral.chars, Numeral.tail, Option.mem_def.1 hx, Exponent.chars, hsplit]
    refine .inr ⟨_, c, behind, hchars, ?_, hc⟩
    by_cases hempty : front = []
    · rw [hempty, List.append_nil]
      exact .exponent hbody rfl hmark x.sign
    · have hcut := Cut.number (n := ⟨n.whole, n.fraction, some ⟨x.mark, x.sign, front⟩⟩)
        ⟨hwhole, hfraction, fun y hy => Option.mem_some.1 hy ▸ ⟨hmark, hfront, hempty⟩, h.nonempty⟩
      simpa [Numeral.chars, Numeral.tail, Exponent.chars] using hcut

/-! ## Numerals with foreign digits -/

section
variable {n : Numeral} {c : Char} (more : List Char)

theorem Numeral.Spelled.mem_chars (h : n.Spelled) (hc : c ∈ n.chars) :
    isDecimalDigit c = true ∨ c ∈ ['.', 'e', 'E', '+', '-'] :=
  mem_chars_of h.whole h.fraction (fun x hx => ⟨(h.exponent x hx).1, (h.exponent x hx).2.1⟩) hc

theorem Numeral.Spelled.plain (h : n.Spelled) (hc : c ∈ n.chars) :
    c ∉ [' ', '\t', '\x0c', '\\', '\n', '#', '\r', '=', '>'] := by
  rcases h.mem_chars hc with hc | hc
  · exact not_mem_of_any (by decide) hc
  · simp only [List.mem_cons, List.not_mem_nil, or_false] at hc
    rcases hc with rfl | rfl | rfl | rfl | rfl <;> decide

end

/-! ## Top theorem -/

end Acceptance.Source
