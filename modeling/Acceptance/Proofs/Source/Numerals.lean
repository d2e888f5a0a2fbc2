import Acceptance.Proofs.Source.Grammar

/-!
# Numbers as words

A number in decimal is written with digits, a point and an exponent.  It is scanned as one word and
read as the number that its digits write, a sign in front of it being an operation on it.  An
integer must not begin with a zero, unless it is zero, nor be longer than integers may be.

    n.Valid → Stops c → (scanNumber (n.chars ++ c :: more) = some r ↔
      endsNumber (c :: more) ∧ n.Readable ∧ r = (n.number, c :: more))      (scanNumber_eq_some_iff)
    WritesNumeral s n cs → n.Readable → readExpression cs = some (s.apply (.number n.number))
                                                                           (readExpression_numeral)
-/

namespace Acceptance.Source

open Acceptance.Text Scan

/-! ## Algorithm -/

/-- A sign in front of a number, if there is one. -/
inductive Sign where
  | none
  | plus
  | minus
  deriving Repr, DecidableEq

namespace Sign

def chars : Sign → List Char
  | none => []
  | plus => ['+']
  | minus => ['-']

def isNegative : Sign → Bool
  | minus => true
  | _ => false

/-- A number behind a sign. -/
def apply : Sign → Expr → Expr
  | none, e => e
  | plus, e => .unary .plus e
  | minus, e => .unary .minus e

end Sign

/-- An exponent of ten with its letter. -/
structure Exponent where
  mark : Char
  sign : Sign
  digits : List Char

/-- A number as it is written: the digits in front of the point, those behind it if there is one,
and the exponent. -/
structure Numeral where
  whole : List Char
  fraction : Option (List Char)
  exponent : Option Exponent

def AllDigits (cs : List Char) : Prop := ∀ c ∈ cs, c.isDigit = true

namespace Exponent

def chars (x : Exponent) : List Char := x.mark :: (x.sign.chars ++ x.digits)

def value (x : Exponent) : Int :=
  if x.sign.isNegative then -(Decimal.value x.digits : Int) else (Decimal.value x.digits : Int)

structure Valid (x : Exponent) : Prop where
  mark : x.mark = 'e' ∨ x.mark = 'E'
  digits : AllDigits x.digits
  nonempty : x.digits ≠ []

end Exponent

namespace Numeral

variable (n : Numeral)

def tail : List Char := (n.exponent.map Exponent.chars).getD []

def chars : List Char := n.whole ++ ((n.fraction.map ('.' :: ·)).getD [] ++ n.tail)

def isInteger : Bool := n.fraction.isNone && n.exponent.isNone

/-- The number that a numeral writes. -/
def number : Number :=
  if n.isInteger then .integer (Decimal.value n.whole)
  else .real ⟨Decimal.value (n.whole ++ n.fraction.getD []),
    (n.exponent.map Exponent.value).getD 0 - (n.fraction.getD []).length⟩

structure Valid : Prop where
  whole : AllDigits n.whole
  fraction : ∀ ds ∈ n.fraction, AllDigits ds
  exponent : ∀ x ∈ n.exponent, x.Valid
  nonempty : n.whole ≠ [] ∨ n.fraction.getD [] ≠ []

/-- A numeral that may stand in a source text. -/
structure Readable : Prop extends Valid n where
  zeros : n.isInteger = true → n.whole.head? = some '0' → ∀ c ∈ n.whole, c = '0'
  short : n.isInteger = true → n.whole.length ≤ longestInteger

/-- Whether a numeral is neither an integer that begins with a zero too many nor one that is too
long. -/
def isReadable : Bool :=
  !n.isInteger || (!(n.whole.head? = some '0' && n.whole.any (· != '0')) &&
    decide (n.whole.length ≤ longestInteger))

theorem readable_iff : n.Readable ↔ n.Valid ∧ n.isReadable = true := by
  have hzeros : (n.whole.head? = some '0' → ∀ c ∈ n.whole, c = '0') ↔
      (!(n.whole.head? = some '0' && n.whole.any (· != '0'))) = true := by
    by_cases hhead : n.whole.head? = some '0' <;> simp [hhead]
  constructor
  · rintro ⟨hvalid, hzero, hshort⟩
    refine ⟨hvalid, ?_⟩
    cases hinteger : n.isInteger with
    | false => simp [isReadable, hinteger]
    | true => rw [isReadable, hzeros.1 (hzero hinteger), decide_eq_true (hshort hinteger)]; simp
  · rintro ⟨hvalid, hreadable⟩
    have hboth : n.isInteger = true → _ ∧ _ := fun hinteger => by
      rw [isReadable, hinteger, Bool.not_true, Bool.false_or, Bool.and_eq_true] at hreadable
      exact hreadable
    exact ⟨hvalid, fun hinteger => hzeros.2 (hboth hinteger).1,
      fun hinteger => of_decide_eq_true (hboth hinteger).2⟩

end Numeral

/-- A text that writes a numeral behind a sign; the line may end behind it. -/
inductive WritesNumeral (sign : Sign) (n : Numeral) : List Char → Prop
  | plain : WritesNumeral sign n (sign.chars ++ n.chars)
  | feed : WritesNumeral sign n (sign.chars ++ n.chars ++ ['\n'])

/-! ## Digits -/

theorem exists_digitChar {c : Char} (h : c.isDigit = true) :
    ∃ k : Fin 10, c = Decimal.digitChar k := by
  have hbounds : 48 ≤ c.toNat ∧ c.toNat ≤ 57 := by
    simpa [Char.isDigit, UInt32.le_iff_toNat_le] using h
  refine ⟨⟨c.toNat - 48, by omega⟩, ?_⟩
  rw [Decimal.digitChar, Nat.add_sub_cancel' hbounds.1, Char.ofNat_toNat]

/-- A text that goes on with neither a digit nor an underscore. -/
def EndsDigits (cs : List Char) : Prop := ∀ c ∈ cs.head?, c.isDigit = false ∧ c ≠ '_'

theorem digitRun_digits {ds rest : List Char} (hds : AllDigits ds) (hrest : EndsDigits rest) :
    digitRun Char.isDigit (ds ++ rest) = some (ds, rest) := by
  induction ds with
  | nil =>
    cases rest with
    | nil => rfl
    | cons c rest =>
      obtain ⟨hdigit, hmark⟩ := hrest c rfl
      rw [List.nil_append, digitRun]
      · simp [hdigit]
      all_goals simp_all
  | cons d ds ih =>
    obtain ⟨hd, hds⟩ := List.forall_mem_cons.1 hds
    have hmark : d ≠ '_' := by rintro rfl; cases hd
    rw [List.cons_append, digitRun]
    · simp [hd, ih hds]
    all_goals simp_all

/-! ## Exponents -/

theorem exponentPart_none {cs : List Char} (h : ∀ c ∈ cs.head?, c ≠ 'e' ∧ c ≠ 'E') :
    exponentPart cs = some (none, cs) := by
  cases cs with
  | nil => rfl
  | cons c cs =>
    obtain ⟨hlower, hupper⟩ := h c rfl
    simp [exponentPart, hlower, hupper]

theorem exponentPart_chars {x : Exponent} (hx : x.Valid) {rest : List Char}
    (hrest : EndsDigits rest) :
    exponentPart (x.chars ++ rest) = some (some x.value, rest) := by
  obtain ⟨mark, sign, digits⟩ := x
  obtain ⟨hmark, hdigits, hne⟩ := hx
  have hrun := digitRun_digits hdigits hrest
  cases digits with
  | nil => exact absurd rfl hne
  | cons d ds =>
    have hd : d.isDigit = true := hdigits d List.mem_cons_self
    have hsign : d ≠ '+' ∧ d ≠ '-' := by constructor <;> (rintro rfl; cases hd)
    rw [List.cons_append] at hrun
    cases sign <;>
      simp [Exponent.chars, Exponent.value, exponentPart, Sign.chars, Sign.isNegative, hmark, hd,
        hrun, hsign]

/-- A character that belongs to no digits in front of it. -/
structure Parts (c : Char) : Prop where
  notDigit : c.isDigit = false
  notMark : c ∉ ['_', '.', 'x', 'X', 'o', 'O', 'b', 'B']

/-- A character that goes on with no number in front of it. -/
structure Stops (c : Char) : Prop extends Parts c where
  notLetter : c ∉ ['e', 'E', 'j', 'J']

theorem stops_feed : Stops '\n' := ⟨⟨by decide, by decide⟩, by decide⟩

theorem Parts.endsDigits {c : Char} (hc : Parts c) (cs : List Char) : EndsDigits (c :: cs) := by
  intro d hd
  obtain rfl := Option.some.inj hd
  exact ⟨hc.notDigit, fun he => hc.notMark (by simp [he])⟩

section
variable {n : Numeral} {c : Char} (more : List Char)

theorem exponentPart_tail (hx : ∀ x ∈ n.exponent, x.Valid) (hc : Stops c) :
    exponentPart (n.tail ++ c :: more) = some (n.exponent.map Exponent.value, c :: more) := by
  have hmark := hc.notLetter
  simp only [List.mem_cons, List.not_mem_nil, or_false, not_or] at hmark
  cases he : n.exponent with
  | none =>
    rw [Numeral.tail, he]
    exact exponentPart_none (by simp [hmark])
  | some x =>
    rw [Numeral.tail, he]
    exact exponentPart_chars (hx x he) (hc.endsDigits more)

theorem mark_of_tail (h : n.Valid) : ∀ c ∈ n.tail.head?, c = 'e' ∨ c = 'E' := by
  intro c hc
  cases he : n.exponent with
  | none => simp [Numeral.tail, he] at hc
  | some x =>
    rw [Numeral.tail, he] at hc
    obtain rfl := Option.some.inj hc
    exact (h.exponent x he).mark

theorem parts_mark {c : Char} (h : c = 'e' ∨ c = 'E') : Parts c := by
  rcases h with rfl | rfl
  · exact ⟨by decide, by decide⟩
  · exact ⟨by decide, by decide⟩

/-- What stands behind the digits of a number. -/
theorem exists_tail_cons (h : n.Valid) (hc : Parts c) :
    ∃ d rest, n.tail ++ c :: more = d :: rest ∧ Parts d := by
  have hmark := mark_of_tail h
  cases ht : n.tail with
  | nil => exact ⟨c, more, rfl, hc⟩
  | cons d ds => exact ⟨d, _, rfl, parts_mark (hmark d (by rw [ht]; rfl))⟩

/-! ## Numbers -/

theorem decimalTail_chars (h : n.Valid) (hc : Stops c) :
    decimalTail n.whole ((n.fraction.map ('.' :: ·)).getD [] ++ (n.tail ++ c :: more)) =
      if endsNumber (c :: more) && n.isReadable then some (n.number, c :: more) else none := by
  obtain ⟨d, rest, hcons, hd⟩ := exists_tail_cons more h hc.toParts
  obtain ⟨hdigit, hplain⟩ := id hd
  have hexponent := exponentPart_tail more h.exponent hc
  simp only [List.mem_cons, List.not_mem_nil, or_false, not_or] at hplain
  have himaginary : c ≠ 'j' ∧ c ≠ 'J' := by
    constructor <;> (rintro rfl; exact hc.notLetter (by simp))
  rw [hcons] at hexponent ⊢
  unfold decimalTail
  cases hf : n.fraction with
  | none =>
    cases he : n.exponent with
    | none =>
      have hinteger : n.isInteger = true := by simp [Numeral.isInteger, hf, he]
      rw [he] at hexponent
      unfold Numeral.number Numeral.isReadable
      generalize n.whole.any (· != '0') = others
      cases hends : endsNumber (c :: more) <;> cases others <;>
        by_cases hshort : n.whole.length ≤ longestInteger <;>
        simp [hplain, hexponent, hinteger, himaginary, hends, hshort, Nat.not_lt.2, Nat.lt_of_not_ge]
    | some x =>
      rw [he] at hexponent
      cases hends : endsNumber (c :: more) <;>
        simp [hplain, hexponent, Numeral.number, Numeral.isReadable, Numeral.isInteger, hf, he,
          himaginary, hends]
  | some ds =>
    have hreal : n.isInteger = false := by simp [Numeral.isInteger, hf]
    cases ds with
    | nil =>
      cases hends : endsNumber (c :: more) <;>
        simp [hdigit, hexponent, Numeral.number, Numeral.isReadable, hreal, hf, himaginary, hends]
    | cons d' ds =>
      have hdigits : AllDigits (d' :: ds) := h.fraction _ hf
      have hrun : digitRun Char.isDigit (d' :: (ds ++ d :: rest)) = some (d' :: ds, d :: rest) :=
        digitRun_digits hdigits (hd.endsDigits rest)
      cases hends : endsNumber (c :: more) <;>
        simp [hexponent, Numeral.number, Numeral.isReadable, hreal, hf, hrun, himaginary, hends,
          hdigits d' List.mem_cons_self]

/-- The marks of the bases that are not ten. -/
def baseMarks : List Char := ['x', 'X', 'o', 'O', 'b', 'B']

theorem scanNumber_eq {cs : List Char} (h : ∀ c more, cs = '0' :: c :: more → c ∉ baseMarks) :
    scanNumber cs = (digitRun Char.isDigit cs).bind fun r => decimalTail r.1 r.2 := by
  unfold scanNumber
  split
  iterate 6 exact absurd (by decide) (h _ _ rfl)
  cases digitRun Char.isDigit cs <;> rfl

/-- The digits in front of the point are taken off a numeral. -/
theorem scanNumber_chars (h : n.Valid) (hc : Parts c) : scanNumber (n.chars ++ c :: more) =
    decimalTail n.whole ((n.fraction.map ('.' :: ·)).getD [] ++ (n.tail ++ c :: more)) := by
  have hbehind : ∃ d rest, (n.fraction.map ('.' :: ·)).getD [] ++ (n.tail ++ c :: more) =
      d :: rest ∧ d.isDigit = false ∧ d ≠ '_' ∧ d ∉ baseMarks := by
    cases n.fraction with
    | none =>
      obtain ⟨d, rest, hcons, hdigit, hplain⟩ := exists_tail_cons more h hc
      exact ⟨d, rest, hcons, hdigit, fun he => hplain (by simp [he]),
        fun hm => hplain (List.mem_cons_of_mem _ (List.mem_cons_of_mem _ hm))⟩
    | some ds => exact ⟨'.', _, rfl, by decide⟩
  obtain ⟨d, rest, hcons, hdigit, hmark, hbase⟩ := hbehind
  have hnone : ∀ d : Char, d.isDigit = true → d ∉ baseMarks :=
    fun _ => not_mem_of_any (by decide)
  rw [Numeral.chars, List.append_assoc, List.append_assoc, hcons, scanNumber_eq,
    digitRun_digits h.whole (by simp [EndsDigits, hdigit, hmark])]
  · rfl
  · intro c' more' he
    have hwhole := h.whole
    generalize n.whole = ds at he hwhole
    cases ds with
    | nil =>
      obtain rfl : d = '0' := (List.cons.inj he).1
      cases hdigit
    | cons d' ds =>
      cases ds with
      | nil =>
        obtain rfl : d = c' := (List.cons.inj (List.cons.inj he).2).1
        exact hbase
      | cons d'' ds =>
        obtain rfl : d'' = c' := (List.cons.inj (List.cons.inj he).2).1
        exact hnone d'' (hwhole d'' (by simp))

/-- **A numeral is scanned as the number that it writes**, where it can be read and a number may
end. -/
theorem scanNumber_eq_some_iff (h : n.Valid) (hc : Stops c) {r : Number × List Char} :
    scanNumber (n.chars ++ c :: more) = some r ↔
      endsNumber (c :: more) = true ∧ n.Readable ∧ r = (n.number, c :: more) := by
  rw [scanNumber_chars more h hc.toParts, decimalTail_chars more h hc, Option.ite_none_right_eq_some,
    Bool.and_eq_true, Option.some_inj, eq_comm (a := r), n.readable_iff]
  simp only [h, true_and, and_assoc]

end

section
variable {n : Numeral} (rest : List Char)

theorem scanNumber_numeral (h : n.Readable) :
    scanNumber (n.chars ++ '\n' :: rest) = some (n.number, '\n' :: rest) :=
  (scanNumber_eq_some_iff rest h.toValid stops_feed).2 ⟨rfl, h, rfl⟩

/-! ## Words -/

/-- A numeral begins with a digit, or with a point and a digit. -/
theorem exists_chars_cons (h : n.Valid) : ∃ c cs, n.chars = c :: cs ∧
    (c.isDigit = true ∨ c = '.' ∧ ∃ d ds, cs = d :: ds ∧ d.isDigit = true) := by
  have hwhole := h.whole
  have hnonempty := h.nonempty
  rw [Numeral.chars]
  cases hw : n.whole with
  | cons d ds =>
    rw [hw] at hwhole
    exact ⟨d, _, rfl, .inl (hwhole d List.mem_cons_self)⟩
  | nil =>
    cases hf : n.fraction with
    | none => simp [hw, hf] at hnonempty
    | some ds =>
      cases ds with
      | nil => simp [hw, hf] at hnonempty
      | cons d ds =>
        exact ⟨'.', _, rfl, .inr ⟨rfl, d, _, rfl, h.fraction _ hf d List.mem_cons_self⟩⟩

/-- The characters of a numeral with digits of some kind. -/
theorem mem_chars_of {p : Char → Bool} {c : Char} (hwhole : ∀ d ∈ n.whole, p d = true)
    (hfraction : ∀ ds ∈ n.fraction, ∀ d ∈ ds, p d = true)
    (hexponent : ∀ x ∈ n.exponent, (x.mark = 'e' ∨ x.mark = 'E') ∧ ∀ d ∈ x.digits, p d = true)
    (hc : c ∈ n.chars) : p c = true ∨ c ∈ ['.', 'e', 'E', '+', '-'] := by
  rw [Numeral.chars, List.mem_append, List.mem_append] at hc
  rcases hc with hc | hc | hc
  · exact .inl (hwhole c hc)
  · cases hf : n.fraction with
    | none => simp [hf] at hc
    | some ds =>
      rw [hf] at hc
      rcases List.mem_cons.1 hc with rfl | hc
      · exact .inr (by simp)
      · exact .inl (hfraction ds hf c hc)
  · cases he : n.exponent with
    | none => simp [Numeral.tail, he] at hc
    | some x =>
      obtain ⟨hmark, hdigits⟩ := hexponent x he
      rw [Numeral.tail, he] at hc
      rcases List.mem_cons.1 hc with rfl | hc
      · rcases hmark with hm | hm <;> simp [hm]
      · rcases List.mem_append.1 hc with hc | hc
        · cases hs : x.sign <;> simp_all [Sign.chars]
        · exact .inl (hdigits c hc)

theorem mem_chars {c : Char} (h : n.Valid) (hc : c ∈ n.chars) :
    c.isDigit = true ∨ c ∈ ['.', 'e', 'E', '+', '-'] :=
  mem_chars_of h.whole h.fraction (fun x hx => ⟨(h.exponent x hx).mark, (h.exponent x hx).digits⟩) hc

/-- A text that begins with a numeral is scanned as a number. -/
theorem scanWord_numeral (h : n.Valid) (s : Lexing) : scanWord s (n.chars ++ rest) =
    (scanNumber (n.chars ++ rest)).map fun (k, behind) => ([.number k], s, behind) := by
  obtain ⟨c, cs, hchars, hfirst⟩ := exists_chars_cons h
  rw [hchars, List.cons_append]
  have hplain : c ∉ ['\n', '#', '\\', ' ', '\t', '\x0c'] ∧ (c ≠ '"' ∧ c ≠ '\x27') ∧
      c.toLower ∉ ['u', 'r', 'b', 'f'] ∧ isNameStart c = false := by
    rcases hfirst with hd | ⟨rfl, -⟩
    · obtain ⟨k, hk⟩ := exists_digitChar hd
      have hall : ∀ k : Fin 10, Decimal.digitChar k ∉ ['\n', '#', '\\', ' ', '\t', '\x0c'] ∧
          (Decimal.digitChar k ≠ '"' ∧ Decimal.digitChar k ≠ '\x27') ∧
          (Decimal.digitChar k).toLower ∉ ['u', 'r', 'b', 'f'] ∧
          isNameStart (Decimal.digitChar k) = false := by decide
      exact hk ▸ hall k
    · decide
  obtain ⟨hspecial, hquote, hmark, hname⟩ := hplain
  have hnumber : (c.isDigit || (c == '.' &&
      ((cs ++ rest).head?.map Char.isDigit).getD false)) = true := by
    rcases hfirst with hd | ⟨rfl, d, ds, rfl, hd⟩
    · simp [hd]
    · simp [hd]
  rw [scanWord_plain _ hspecial (literalStart?_eq_none _ hquote hmark), hname,
    if_neg Bool.false_ne_true, if_pos hnumber]

theorem scans_numeral (h : n.Readable) (brackets : List String) :
    Scans (line brackets) (n.chars ++ '\n' :: rest) [.number n.number] (line brackets)
      ('\n' :: rest) := by
  obtain ⟨c, cs, hchars, -⟩ := exists_chars_cons h.toValid
  refine .one rfl ?_ (by rw [hchars]; simp only [List.length_cons, List.length_append]; omega)
  rw [scanWord_numeral _ h.toValid, scanNumber_numeral rest h]
  rfl

end

namespace Sign

def tokens : Sign → List Token
  | none => []
  | plus => [.op "+"]
  | minus => [.op "-"]

end Sign

theorem scans_sign (sign : Sign) (brackets : List String) {c : Char} (cs : List Char)
    (hc : c ≠ '=' ∧ c ≠ '>') :
    Scans (line brackets) (sign.chars ++ c :: cs) sign.tokens (line brackets) (c :: cs) := by
  have hlength : "+".length = 1 ∧ "-".length = 1 := ⟨rfl, rfl⟩
  have hequal : ('=' == c) = false := beq_false_of_ne hc.1.symm
  have harrow : ('>' == c) = false := beq_false_of_ne hc.2.symm
  have hplus : scanMark ('+' :: c :: cs) = some ("+", c :: cs) := by
    simp [scanMark, marks, List.find?, List.isPrefixOf, hequal, hlength]
  have hminus : scanMark ('-' :: c :: cs) = some ("-", c :: cs) := by
    simp [scanMark, marks, List.find?, List.isPrefixOf, hequal, harrow, hlength]
  have hone : ∀ (m : Char) (s : String), (m = '+' ∨ m = '-') → closing? s = none → isClosing s = false →
      scanMark (m :: c :: cs) = some (s, c :: cs) →
      Scans (line brackets) (m :: c :: cs) [.op s] (line brackets) (c :: cs) := by
    intro m s hm hclosing hclose hscan
    have hliteral : literalStart? (m :: c :: cs) = none := by
      refine literalStart?_eq_none _ ?_ ?_ <;> rcases hm with rfl | rfl <;> decide
    refine .one rfl ?_ (by simp)
    rcases hm with rfl | rfl <;> (rw [scanWord] <;> simp_all [isSpace, isNameStart])
  cases sign with
  | none => exact .nil _ _
  | plus => exact hone '+' "+" (.inl rfl) rfl rfl hplus
  | minus => exact hone '-' "-" (.inr rfl) rfl rfl hminus

/-! ## Reading -/

section
variable {sign : Sign} {n : Numeral} {cs : List Char}

/-- A text that writes a number begins on a line, and the line ends behind the number. -/
theorem WritesNumeral.exists_cons (h : WritesNumeral sign n cs) (hne : n.chars ≠ [])
    (hplain : ∀ d ∈ sign.chars ++ n.chars, d ∉ [' ', '\t', '\x0c', '\\', '\n', '#', '\r']) :
    ∃ d ds, cs = d :: ds ∧ d ∉ [' ', '\t', '\x0c', '\\', '\n', '#'] ∧ '\r' ∉ d :: ds ∧
      closeLastLine (d :: ds) = sign.chars ++ n.chars ++ ['\n'] := by
  obtain ⟨d, ds, hsigned⟩ :=
    List.exists_cons_of_ne_nil (List.append_ne_nil_of_right_ne_nil sign.chars hne)
  rw [hsigned] at hplain
  have hopen : d ∉ [' ', '\t', '\x0c', '\\', '\n', '#'] :=
    fun hm => hplain d List.mem_cons_self (List.mem_append_left ['\r'] hm)
  have hreturn : '\r' ∉ d :: ds := fun hm => hplain '\r' hm (by simp)
  have hlast : (d :: ds).getLast? ≠ some '\n' :=
    fun hl => hplain '\n' (List.mem_of_getLast? hl) (by simp)
  cases h with
  | plain =>
    refine ⟨d, ds, hsigned, hopen, hreturn, ?_⟩
    rw [hsigned, closeLastLine, if_neg (by simpa using hlast)]
  | feed =>
    refine ⟨d, ds ++ ['\n'], by rw [hsigned]; rfl, hopen, ?_, ?_⟩
    · simpa using hreturn
    · rw [hsigned, ← List.cons_append, closeLastLine, if_pos (.inl List.getLast?_concat)]

theorem plain_of_mem_signed (h : n.Valid) :
    ∀ d ∈ sign.chars ++ n.chars, d ∉ [' ', '\t', '\x0c', '\\', '\n', '#', '\r'] := by
  intro d hd
  rcases List.mem_append.1 hd with hd | hd
  · cases sign <;> simp_all [Sign.chars]
  · rcases mem_chars h hd with hd | hd
    · exact not_mem_of_any (by decide) hd
    · simp only [List.mem_cons, List.not_mem_nil, or_false] at hd
      rcases hd with rfl | rfl | rfl | rfl | rfl <;> decide

theorem tokens_numeral (hw : WritesNumeral sign n cs) (h : n.Readable) :
    tokens (.ofList cs) = some (sign.tokens ++ [.number n.number, .newline]) := by
  obtain ⟨c, rest, hchars, hfirst⟩ := exists_chars_cons h.toValid
  have hfirst : c ≠ '=' ∧ c ≠ '>' := by
    rcases hfirst with hd | ⟨rfl, -⟩
    · constructor <;> (rintro rfl; cases hd)
    · decide
  have hscans : Scans (line []) (sign.chars ++ n.chars ++ ['\n'])
      (sign.tokens ++ [.number n.number]) (line []) ['\n'] := by
    rw [List.append_assoc]
    refine Scans.trans ?_ (scans_numeral [] h [])
    rw [hchars]
    exact scans_sign sign [] _ hfirst
  obtain ⟨d, ds, rfl, hopen, hreturn, hclosed⟩ :=
    hw.exists_cons (by rw [hchars]; exact List.cons_ne_nil c rest) (plain_of_mem_signed h.toValid)
  have htokens := tokens_of_line hopen hreturn (hclosed ▸ hscans)
  simpa using htokens

theorem test_numeral (sign : Sign) (k : Number) (depth : Nat) :
    (Inner.atDepth (depth + 2)).test (sign.tokens ++ [.number k, .newline]) =
      some (sign.apply (.number k), [.newline]) := by
  have hends : Ends [Token.newline] := ⟨_, _, rfl, by simp⟩
  have hopens : Opens [.number k, .newline] := .number _ _
  have hpower : (Inner.atDepth (depth + 1)).power [.number k, .newline] =
      some (.number k, [.newline]) := power_of_stepped hopens hends (stepped_of_atom hends rfl)
  cases sign with
  | none => exact expression_of_signed rfl rfl hends (signed_of_power hopens hpower)
  | plus => exact expression_of_signed rfl rfl hends (signed_of_sign hopens rfl hpower)
  | minus => exact expression_of_signed rfl rfl hends (signed_of_sign hopens rfl hpower)

/-- **A signed numeral is read as the operation of its sign on its number.** -/
theorem readExpression_numeral (hw : WritesNumeral sign n cs) (h : n.Readable) :
    readExpression cs = some (sign.apply (.number n.number)) := by
  rw [readExpression, tokens_numeral hw h]
  simp only [test_numeral]

end

end Acceptance.Source
