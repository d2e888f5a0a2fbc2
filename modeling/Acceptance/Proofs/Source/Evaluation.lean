import Acceptance.Proofs.Source.Numerals
import Acceptance.Text.Blank
import Mathlib.Algebra.Field.Rat

/-!
# Values of expressions

What the text of an expression stands for where some names have values: a name for its value, a
literal for its text or number, a sign or a call of `int` or `float` for what it makes of its
operand.  A name that has a value hides the function of that name.  Numbers with a point are kept
as they are written, so the rounding of both literals and texts is left out.

    evaluate ρ name = ρ (normalForm name)                                         (evaluate_name)
    WritesNumeral s n text → n.isInteger →
      evaluate ρ text = some (.integer (s.on (Decimal.value n.whole))) ∧          (evaluate_numeral)
      intOf? text = some (s.on (Decimal.value n.whole))                            (intOf?_numeral)
    WritesNumeral s n text → floatOf? text = some (.finite (s.on n.rational))     (floatOf?_numeral)
-/

namespace Acceptance.Source

open Acceptance.Text

/-! ## Algorithm -/

/-- A number with a point or an exponent. -/
inductive RealNumber where
  | finite (q : ℚ)
  | infinite (isNegative : Bool)
  | notANumber
  deriving DecidableEq

inductive Value where
  | text (s : String)
  | integer (n : Int)
  | real (x : RealNumber)
  deriving DecidableEq

/-- A number behind a sign. -/
def Sign.on {α : Type} [Neg α] (s : Sign) (a : α) : α := if s.isNegative then -a else a

/-! ### Texts as numbers -/

/-- The sign in front of a text. -/
def splitSign : List Char → Sign × List Char
  | '+' :: rest => (.plus, rest)
  | '-' :: rest => (.minus, rest)
  | cs => (.none, cs)

/-- The digits of a text, of any script; an underscore stands between two of them. -/
def digitsFrom (behindDigit : Bool) : List Char → Option (List Nat)
  | [] => if behindDigit then some [] else none
  | c :: rest =>
    if c = '_' then if behindDigit then digitsFrom false rest else none
    else (digitValue? c).bind fun d => (digitsFrom true rest).map (d :: ·)

def digitsOf? (cs : List Char) : Option (List Nat) := digitsFrom false cs

def ofDigits (ds : List Nat) : Nat := ds.foldl (fun n d => n * 10 + d) 0

/-- The integer that a text writes, blanks around it aside. -/
def intOf? (s : String) : Option Int :=
  let (sign, body) := splitSign (trim s.toList)
  (digitsOf? body).bind fun ds =>
    if ds.length ≤ longestInteger then some (sign.on (ofDigits ds : Int)) else none

def isExponentMark (c : Char) : Bool := c == 'e' || c == 'E'

/-- The exponent behind its letter. -/
def exponentOf? : List Char → Option Int
  | [] => some 0
  | _ :: rest =>
    let (sign, body) := splitSign rest
    (digitsOf? body).map fun ds => sign.on (ofDigits ds : Int)

/-- Some digits, or none. -/
def optionalDigits? (cs : List Char) : Option (List Nat) :=
  if cs.isEmpty then some [] else digitsOf? cs

/-- The number that a text without a sign writes. -/
def decimalOf? (cs : List Char) : Option ℚ :=
  let mantissa := cs.takeWhile (!isExponentMark ·)
  let whole := mantissa.takeWhile (· != '.')
  let fraction := (mantissa.dropWhile (· != '.')).drop 1
  if whole.isEmpty && fraction.isEmpty then none
  else
    (optionalDigits? whole).bind fun ws => (optionalDigits? fraction).bind fun fs =>
      (exponentOf? (cs.dropWhile (!isExponentMark ·))).map fun e =>
        (ofDigits (ws ++ fs) : ℚ) * 10 ^ (e - (fs.length : Int))

/-- The number with a point that a text writes, blanks around it aside. -/
def floatOf? (s : String) : Option RealNumber :=
  let (sign, body) := splitSign (trim s.toList)
  let word := String.ofList (body.map Char.toLower)
  if word = "inf" ∨ word = "infinity" then some (.infinite sign.isNegative)
  else if word = "nan" then some .notANumber
  else (decimalOf? body).map fun q => .finite (sign.on q)

/-! ### Functions -/

/-- The integer next to a number towards zero. -/
def towardsZero (q : ℚ) : Int := q.num.tdiv q.den

namespace Value

def int? : Value → Option Value
  | text s => (intOf? s).map integer
  | integer n => some (integer n)
  | real (.finite q) => some (integer (towardsZero q))
  | real _ => none

def float? : Value → Option Value
  | text s => (floatOf? s).map real
  | integer n => some (real (.finite n))
  | real x => some (real x)

def minus? : Value → Option Value
  | text _ => none
  | integer n => some (integer (-n))
  | real (.finite q) => some (real (.finite (-q)))
  | real (.infinite isNegative) => some (real (.infinite !isNegative))
  | real .notANumber => some (real .notANumber)

def plus? : Value → Option Value
  | text _ => none
  | v => some v

/-- The number that a value is. -/
def number? : Value → Option RealNumber
  | text _ => none
  | integer n => some (.finite n)
  | real x => some x

end Value

/-- The functions that a module finds without importing them. -/
def builtin? (name : String) : Option (Value → Option Value) :=
  if name = "int" then some Value.int?
  else if name = "float" then some Value.float?
  else none

/-! ### Expressions -/

/-- The names that have a value. -/
abbrev Names : Type := String → Option Value

/-- The value of an expression made of names, literals, signs and calls. -/
def Expr.value? (ρ : Names) : Expr → Option Value
  | .name n => ρ n
  | .text s _ => some (.text s)
  | .number (.integer n) => some (.integer n)
  | .number (.real f) => some (.real (.finite ((f.digits : ℚ) * 10 ^ f.exponent)))
  | .unary .plus e => (Expr.value? ρ e).bind Value.plus?
  | .unary .minus e => (Expr.value? ρ e).bind Value.minus?
  | .call (.name f) [e] [] =>
    if (ρ f).isSome then none
    else (builtin? f).bind fun g => (Expr.value? ρ e).bind g
  | _ => none

/-- The value that a text stands for as an expression. -/
def evaluate (ρ : Names) (source : String) : Option Value :=
  (readExpression source.toList).bind (Expr.value? ρ)

/-! ## Literals -/

theorem readExpression_inQuotes {body : List Char} {s : String} (hbody : Contained body)
    (hdecode : decodeText false body = some s) :
    readExpression (inQuotes body) = some (.text s false) := by
  have hends : Ends [Token.newline] := ⟨_, _, rfl, by simp⟩
  have htokens : tokens (.ofList (inQuotes body)) = some [plainText body, .newline] := by
    have hscans := scans_inQuotes [] ['\n'] hbody (by simp)
    refine tokens_of_scans (by decide) (fun hm => ?_) (fun hl => ?_) hscans
    · simp only [List.mem_cons, List.mem_append, List.not_mem_nil, or_false] at hm
      rcases hm with hm | hm | hm
      · cases hm
      · exact (hbody.line _ hm).2 rfl
      · cases hm
    · rw [List.getLast?_cons, List.getLast?_append] at hl
      cases hl
  have htest := fun k => (Reads.literal (k + 1) hdecode).test [.newline] hends
  rw [readExpression, htokens]
  simp only [List.singleton_append] at htest
  simp only [htest]

/-- A quoted text is read as one literal. -/
theorem readExpression_quote (s : String) :
    readExpression (quote s).toList = some (.text s false) := by
  rw [toList_quote, ← inQuotes]
  exact readExpression_inQuotes (contained_flatMap contained_escapeChar s.toList)
    (decodeText_denotes (denotes_quote s))

/-- **A quoted text stands for itself.** -/
theorem evaluate_quote (ρ : Names) (s : String) : evaluate ρ (quote s) = some (.text s) := by
  rw [evaluate, readExpression_quote]
  rfl

/-! ## Names -/

theorem not_special_of_namePart {c : Char} (h : isNamePart c = true) :
    c ∉ [' ', '\t', '\x0c', '\\', '\n', '#', '\r'] :=
  not_mem_of_any (by decide) h

/-- A text that begins with a name and goes on with some marks. -/
theorem tokens_of_name {cs marks : List Char} {ts : List Token} (hid : isIdentifierList cs = true)
    (hmarks : ∀ c ∈ marks, c ≠ '\n' ∧ c ≠ '\r')
    (h : Scans (line []) (cs ++ marks ++ ['\n']) ts (line []) ['\n']) :
    tokens (.ofList (cs ++ marks)) = some (ts ++ [.newline]) := by
  have hplain := fun c hc => not_special_of_namePart (nameParts_of_identifier hid c hc)
  have hline : ∀ c ∈ cs ++ marks, c ≠ '\n' ∧ c ≠ '\r' := by
    intro c hc
    rcases List.mem_append.1 hc with hc | hc
    · constructor <;> (rintro rfl; exact hplain _ hc (by simp))
    · exact hmarks c hc
  cases cs with
  | nil => cases hid
  | cons c cs =>
    rw [List.cons_append] at h hline ⊢
    refine tokens_of_scans (fun hm => ?_) (fun hm => (hline _ hm).2 rfl)
      (fun hl => (hline _ (List.mem_of_getLast? hl)).1 rfl) h
    exact hplain c List.mem_cons_self (List.mem_append_left ['\r'] hm)

section
variable {cs : List Char} (hid : isIdentifierList cs = true) (hfree : isReserved (.ofList cs) = false)

include hid hfree

theorem readExpression_name :
    readExpression cs = some (.name (normalForm (.ofList cs))) := by
  have hends : Ends [Token.newline] := ⟨_, _, rfl, by simp⟩
  have hscans := scans_name hid hfree (endsName_cons [] (by decide : isNamePart '\n' = false ∧ _)) []
  have htokens := @tokens_of_name cs [] _ hid nofun (by simpa using hscans)
  have htest := fun k => (Reads.name (k + 1) (normalForm (.ofList cs))).test [.newline] hends
  rw [List.append_nil] at htokens
  rw [readExpression, htokens]
  simp only [htest]

/-- A call with one name in it. -/
theorem readExpression_call {function : List Char} (hfunction : isIdentifierList function = true)
    (hplain : isReserved (.ofList function) = false) :
    readExpression (function ++ '(' :: (cs ++ [')'])) = some
      (.call (.name (normalForm (.ofList function))) [.name (normalForm (.ofList cs))] []) := by
  have hends : Ends [Token.newline] := ⟨_, _, rfl, by simp⟩
  have hopen := fun rest => (scans_name hfunction hplain
    (endsName_cons rest (by decide : isNamePart '(' = false ∧ _)) []).trans
      (scans_mark (.round [] (by simp)) rest)
  have hclose := (scans_name hid hfree (endsName_cons ['\n'] (by decide : isNamePart ')' = false ∧ _))
    [")"]).trans (scans_mark (.endRound []) ['\n'])
  have hmarks : ∀ c ∈ '(' :: (cs ++ [')']), c ≠ '\n' ∧ c ≠ '\r' := by
    intro c hc
    simp only [List.mem_cons, List.mem_append, List.not_mem_nil, or_false] at hc
    rcases hc with rfl | hc | rfl
    · decide
    · have := not_special_of_namePart (nameParts_of_identifier hid c hc)
      constructor <;> (rintro rfl; exact this (by simp))
    · decide
  have htokens := tokens_of_name hfunction hmarks (by simpa using (hopen _).trans hclose)
  have htest := fun k => @test_call String k [.newline] (fun s => [.name s]) .name []
    (normalForm (.ofList function)) (normalForm (.ofList cs)) false hends fun s _ => Reads.name k s
  rw [readExpression, htokens]
  simp only [List.flatMap_nil, callEnd, Bool.false_eq_true, if_false, List.nil_append,
    List.singleton_append, List.map_nil] at htest
  simp only [List.cons_append, List.nil_append, htest]

end

section
variable (ρ : Names) {name : String} (hid : isIdentifier name = true)
  (hfree : isReserved name = false)

include hid hfree

/-- **A name stands for its value under any spelling.** -/
theorem evaluate_name : evaluate ρ name = ρ (normalForm name) := by
  have hread := readExpression_name hid (by rwa [String.ofList_toList])
  rw [String.ofList_toList] at hread
  rw [evaluate, hread]
  rfl

/-- A call of a function: a value with the function's name hides it. -/
theorem evaluate_call {function : String} {g : Value → Option Value}
    (hg : builtin? function = some g) : evaluate ρ (function ++ "(" ++ name ++ ")") =
      if (ρ function).isSome then none else (ρ (normalForm name)).bind g := by
  have hfunction : isIdentifier function = true ∧ isReserved function = false ∧
      normalForm function = function := by
    unfold builtin? at hg
    split at hg
    · next h => exact h ▸ ⟨by decide, by decide, rfl⟩
    · split at hg
      · next h => exact h ▸ ⟨by decide, by decide, rfl⟩
      · cases hg
  obtain ⟨hfid, hffree, hnormal⟩ := hfunction
  have hread := readExpression_call hid (by rwa [String.ofList_toList]) hfid
    (by rwa [String.ofList_toList])
  rw [String.ofList_toList, String.ofList_toList, hnormal] at hread
  have hchars : (function ++ "(" ++ name ++ ")").toList =
      function.toList ++ '(' :: (name.toList ++ [')']) := by simp
  rw [evaluate, hchars, hread, Option.bind_some, Expr.value?, hg]
  rfl

end

/-! ## Numerals -/

/-- The digits of a numeral with the point in it. -/
def Numeral.mantissa (n : Numeral) : List Char := n.whole ++ (n.fraction.map ('.' :: ·)).getD []

/-- The number that a numeral writes. -/
def Numeral.rational (n : Numeral) : ℚ :=
  (Decimal.value (n.whole ++ n.fraction.getD []) : ℚ) *
    10 ^ ((n.exponent.map Exponent.value).getD 0 - ((n.fraction.getD []).length : Int))

section
variable (ρ : Names) (sign : Sign) {n : Numeral}

theorem value?_apply_integer (k : Nat) : (sign.apply (.number (.integer k))).value? ρ =
    some (.integer (sign.on (k : Int))) := by
  cases sign <;> rfl

theorem value?_apply_real (f : Fraction) : (sign.apply (.number (.real f))).value? ρ =
    some (.real (.finite (sign.on ((f.digits : ℚ) * 10 ^ f.exponent)))) := by
  cases sign <;> rfl

/-- **A numeral stands for the number that it writes.** -/
theorem evaluate_numeral {text : String} (hw : WritesNumeral sign n text.toList) (h : n.Readable) :
    evaluate ρ text = some
      (if n.isInteger then .integer (sign.on (Decimal.value n.whole : Int))
      else .real (.finite (sign.on n.rational))) := by
  rw [evaluate, readExpression_numeral hw h, Option.bind_some, Numeral.number]
  split
  · exact value?_apply_integer ρ sign _
  · exact value?_apply_real ρ sign _

end

/-! ## Texts as numbers -/

theorem trim_of_not_blank {cs : List Char} (h : ∀ c ∈ cs, isBlank c = false) : trim cs = cs := by
  have hdrop : ∀ ds : List Char, (∀ c ∈ ds, isBlank c = false) → ds.dropWhile isBlank = ds := by
    intro ds hds
    cases ds with
    | nil => rfl
    | cons d ds => rw [List.dropWhile_cons, hds d List.mem_cons_self, if_neg Bool.false_ne_true]
  rw [trim, trimWhile, dropEndWhile, hdrop cs h, hdrop _ (by simpa using h), List.reverse_reverse]

theorem splitSign_chars (sign : Sign) {cs : List Char} (h : ∀ c ∈ cs.head?, c ≠ '+' ∧ c ≠ '-') :
    splitSign (sign.chars ++ cs) = (sign, cs) := by
  cases sign with
  | none =>
    cases cs with
    | nil => rfl
    | cons c cs =>
      obtain ⟨hplus, hminus⟩ := h c rfl
      rw [Sign.chars, List.nil_append, splitSign] <;> simp_all
  | plus => rfl
  | minus => rfl

theorem digitValue?_digitChar : ∀ d : Fin 10, digitValue? (Decimal.digitChar d) = some d.val ∧
    (Decimal.digitChar d).toNat - 48 = d.val ∧ Decimal.digitChar d ≠ '_' := by
  decide

theorem digitsFrom_digits {cs : List Char} (h : AllDigits cs) :
    digitsFrom true cs = some (cs.map fun c => c.toNat - 48) := by
  induction cs with
  | nil => rfl
  | cons c cs ih =>
    obtain ⟨hc, hcs⟩ := List.forall_mem_cons.1 h
    obtain ⟨d, rfl⟩ := exists_digitChar hc
    obtain ⟨hvalue, hcode, hmark⟩ := digitValue?_digitChar d
    rw [digitsFrom, if_neg hmark, hvalue, Option.bind_some, ih hcs, List.map_cons, hcode]
    rfl

theorem digitsOf?_digits {cs : List Char} (h : AllDigits cs) (hne : cs ≠ []) :
    digitsOf? cs = some (cs.map fun c => c.toNat - 48) := by
  cases cs with
  | nil => exact absurd rfl hne
  | cons c cs =>
    -- only an underscore asks for a digit in front of it
    have hmark : c ≠ '_' := by
      obtain ⟨d, rfl⟩ := exists_digitChar (h c List.mem_cons_self)
      exact (digitValue?_digitChar d).2.2
    rw [← digitsFrom_digits h, digitsOf?, digitsFrom, digitsFrom, if_neg hmark, if_neg hmark]

theorem optionalDigits?_digits {cs : List Char} (h : AllDigits cs) :
    optionalDigits? cs = some (cs.map fun c => c.toNat - 48) := by
  cases cs with
  | nil => rfl
  | cons c cs => exact digitsOf?_digits h (List.cons_ne_nil _ _)

theorem ofDigits_map (cs : List Char) :
    ofDigits (cs.map fun c => c.toNat - 48) = Decimal.value cs := by
  rw [ofDigits, Decimal.value, List.foldl_map]

theorem splitSign_exponent {x : Exponent} (hx : x.Valid) :
    splitSign (x.sign.chars ++ x.digits) = (x.sign, x.digits) := by
  refine splitSign_chars x.sign fun c hc => ?_
  have hd := hx.digits c (List.mem_of_mem_head? hc)
  constructor <;> (rintro rfl; cases hd)

theorem plain_of_isDigit {c : Char} (hc : c.isDigit = true) : isExponentMark c = false ∧ c ≠ '.' := by
  have hall : ∀ d : Fin 10, isExponentMark (Decimal.digitChar d) = false ∧
      Decimal.digitChar d ≠ '.' := by decide
  obtain ⟨d, rfl⟩ := exists_digitChar hc
  exact hall d

/-- A line end behind a text is trimmed off. -/
theorem trim_feed {cs : List Char} (h : ∀ c ∈ cs, isBlank c = false) : trim (cs ++ ['\n']) = cs := by
  have hself := trim_of_not_blank h
  cases cs with
  | nil => rfl
  | cons c cs =>
    rw [trim, trimWhile, List.dropWhile_cons, h c List.mem_cons_self, if_neg Bool.false_ne_true]
      at hself
    rw [trim, trimWhile, List.cons_append, List.dropWhile_cons, h c List.mem_cons_self,
      if_neg Bool.false_ne_true, dropEndWhile, ← List.cons_append, List.reverse_concat,
      List.dropWhile_cons, if_pos (by decide)]
    exact hself

section
variable {n : Numeral} (h : n.Valid)

include h

theorem not_blank_of_mem_chars (sign : Sign) : ∀ c ∈ sign.chars ++ n.chars, isBlank c = false := by
  have hdigit : ∀ d : Fin 10, isBlank (Decimal.digitChar d) = false := by decide
  have hmarks : ∀ c ∈ ['.', 'e', 'E', '+', '-'], isBlank c = false :=
    fun c hc => Bool.eq_false_iff.2 (List.any_eq_false.1 (by decide) c hc)
  intro c hc
  rcases List.mem_append.1 hc with hc | hc
  · refine hmarks c ?_
    cases sign <;> simp_all [Sign.chars]
  · rcases mem_chars h hc with hd | hm
    · obtain ⟨d, rfl⟩ := exists_digitChar hd
      exact hdigit d
    · exact hmarks c hm

theorem splitSign_signed (sign : Sign) : splitSign (sign.chars ++ n.chars) = (sign, n.chars) := by
  refine splitSign_chars sign fun c hc => ?_
  obtain ⟨d, cs, hchars, hfirst⟩ := exists_chars_cons h
  rw [hchars] at hc
  obtain rfl := Option.some.inj hc
  rcases hfirst with hd | ⟨rfl, -⟩
  · constructor <;> (rintro rfl; cases hd)
  · decide

theorem splitSign_numeral {sign : Sign} {cs : List Char} (hw : WritesNumeral sign n cs) :
    splitSign (trim cs) = (sign, n.chars) := by
  have hsigned := not_blank_of_mem_chars h sign
  cases hw with
  | plain => rw [trim_of_not_blank hsigned, splitSign_signed h]
  | feed => rw [trim_feed hsigned, splitSign_signed h]

theorem chars_of_isInteger (hinteger : n.isInteger = true) : n.chars = n.whole ∧ n.whole ≠ [] := by
  simp only [Numeral.isInteger, Bool.and_eq_true, Option.isNone_iff_eq_none] at hinteger
  obtain ⟨hfraction, hexponent⟩ := hinteger
  refine ⟨by simp [Numeral.chars, Numeral.tail, hfraction, hexponent], ?_⟩
  simpa [hfraction] using h.nonempty

/-- **`int` of an integer as it is written.** -/
theorem intOf?_numeral {sign : Sign} {text : String} (hw : WritesNumeral sign n text.toList)
    (hinteger : n.isInteger = true) (hshort : n.whole.length ≤ longestInteger) :
    intOf? text = some (sign.on (Decimal.value n.whole : Int)) := by
  obtain ⟨hchars, hne⟩ := chars_of_isInteger h hinteger
  rw [intOf?, splitSign_numeral h hw, hchars]
  simp only [digitsOf?_digits h.whole hne, Option.bind_some, List.length_map, if_pos hshort,
    ofDigits_map]

theorem exponentOf?_tail : exponentOf? n.tail = some ((n.exponent.map Exponent.value).getD 0) := by
  cases he : n.exponent with
  | none => simp [Numeral.tail, he, exponentOf?]
  | some x =>
    obtain ⟨-, hdigits, hne⟩ := h.exponent x he
    have hsplit := splitSign_exponent (h.exponent x he)
    simp only [Numeral.tail, he, Option.map_some, Option.getD_some, Exponent.chars, exponentOf?,
      hsplit, digitsOf?_digits hdigits hne, ofDigits_map, Exponent.value, Sign.on]

/-- The digits of a numeral end where its exponent begins. -/
theorem span_mantissa : n.chars.takeWhile (!isExponentMark ·) = n.mantissa ∧
    n.chars.dropWhile (!isExponentMark ·) = n.tail := by
  have hmantissa : ∀ c ∈ n.mantissa, (!isExponentMark c) = true := by
    intro c hc
    rcases List.mem_append.1 hc with hc | hc
    · simp [plain_of_isDigit (h.whole c hc)]
    · cases hf : n.fraction with
      | none => simp [hf] at hc
      | some ds =>
        rw [hf] at hc
        rcases List.mem_cons.1 hc with rfl | hc
        · decide
        · simp [plain_of_isDigit (h.fraction ds hf c hc)]
  have htail : ∀ c ∈ n.tail.head?, (!isExponentMark c) = false := by
    intro c hc
    rcases mark_of_tail h c hc with rfl | rfl <;> rfl
  rw [Numeral.chars, ← List.append_assoc]
  exact takeWhile_stop hmantissa htail

/-- The digits in front of the point, and those behind it. -/
theorem span_whole : n.mantissa.takeWhile (· != '.') = n.whole ∧
    (n.mantissa.dropWhile (· != '.')).drop 1 = n.fraction.getD [] := by
  have hwhole : ∀ c ∈ n.whole, (c != '.') = true :=
    fun c hc => bne_iff_ne.2 (plain_of_isDigit (h.whole c hc)).2
  have hpoint : ∀ c ∈ ((n.fraction.map ('.' :: ·)).getD []).head?, (c != '.') = false := by
    cases n.fraction <;> simp
  obtain ⟨htake, hdrop⟩ := takeWhile_stop hwhole hpoint
  rw [Numeral.mantissa, htake, hdrop]
  cases n.fraction <;> simp

theorem decimalOf?_numeral : decimalOf? n.chars = some n.rational := by
  obtain ⟨hmantissa, htail⟩ := span_mantissa h
  obtain ⟨hwhole, hfraction⟩ := span_whole h
  have hdigits : AllDigits (n.fraction.getD []) := by
    cases hf : n.fraction with
    | none => exact nofun
    | some ds => exact h.fraction ds hf
  have hnonempty : (n.whole.isEmpty && (n.fraction.getD []).isEmpty) = false := by
    rw [Bool.eq_false_iff]
    intro hall
    simp only [Bool.and_eq_true, List.isEmpty_iff] at hall
    exact h.nonempty.elim (· hall.1) (· hall.2)
  rw [decimalOf?, hmantissa, htail, hwhole, hfraction, hnonempty, optionalDigits?_digits h.whole,
    optionalDigits?_digits hdigits, exponentOf?_tail h]
  simp only [Bool.false_eq_true, if_false, Option.bind_some, Option.map_some, ← List.map_append,
    ofDigits_map, List.length_map, Numeral.rational]

/-- **`float` of a number as it is written.** -/
theorem floatOf?_numeral {sign : Sign} {text : String} (hw : WritesNumeral sign n text.toList) :
    floatOf? text = some (.finite (sign.on n.rational)) := by
  obtain ⟨c, cs, hchars, hfirst⟩ := exists_chars_cons h
  have hletter : c.toLower ≠ 'i' ∧ c.toLower ≠ 'n' := by
    rcases hfirst with hd | ⟨rfl, -⟩
    · obtain ⟨d, rfl⟩ := exists_digitChar hd
      have hall : ∀ d : Fin 10, (Decimal.digitChar d).toLower ≠ 'i' ∧
          (Decimal.digitChar d).toLower ≠ 'n' := by decide
      exact hall d
    · decide
  have hword : ∀ w : String, (w = "inf" ∨ w = "infinity" ∨ w = "nan") →
      String.ofList (n.chars.map Char.toLower) ≠ w := by
    intro w hw he
    have hhead := congrArg (fun s => s.toList.head?) he
    simp only [String.toList_ofList, hchars, List.map_cons, List.head?_cons] at hhead
    rcases hw with rfl | rfl | rfl
    · exact hletter.1 (Option.some.inj hhead)
    · exact hletter.1 (Option.some.inj hhead)
    · exact hletter.2 (Option.some.inj hhead)
  rw [floatOf?, splitSign_numeral h hw]
  simp only [hword _ (.inl rfl), hword _ (.inr (.inl rfl)), hword _ (.inr (.inr rfl)), or_self,
    if_false, decimalOf?_numeral h, Option.map_some]

end

end Acceptance.Source
