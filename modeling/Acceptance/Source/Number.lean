import Acceptance.Text.Shortest

/-!
# Numbers of a source text

A number is an integer, a decimal fraction or an imaginary fraction.  Integers are written in
decimal.  A fraction is written with the fewest digits that read back, in positional notation
while its first digit stands between the fourth place behind the point and the sixteenth in front
of it; one that is too large to be represented is written as a number that is too large as well.
-/

namespace Acceptance.Source

open Acceptance.Text

/-- The number `digits · 10^exponent`. -/
structure Fraction where
  digits : Nat
  exponent : Int
  deriving Repr, DecidableEq

inductive Number where
  | integer (n : Nat)
  | real (f : Fraction)
  | imaginary (f : Fraction)
  deriving Repr, DecidableEq

namespace Fraction

/-- The shortest decimal of the represented number; none beyond the largest one. -/
def shortest? (f : Fraction) : Option (Nat × Int) :=
  let magnitude : Int := (Decimal.digits f.digits).length + f.exponent
  if f.digits = 0 ∨ magnitude < -400 then some (0, 0)
  else if magnitude > 400 then none
  else
    let (num, den) := Shortest.power f.digits f.exponent
    (Shortest.nearest num den).map fun (m, q) => if m = 0 then (0, 0) else Shortest.shortest m q

/-- Puts a point between the digits, `point` of them in front of it. -/
def positional (whole : Bool) (ds : List Char) (point : Int) : List Char :=
  if point ≤ 0 then '0' :: '.' :: (List.replicate (-point).toNat '0' ++ ds)
  else if point ≥ ds.length then
    ds ++ List.replicate (point.toNat - ds.length) '0' ++ (if whole then ['.', '0'] else [])
  else ds.take point.toNat ++ '.' :: ds.drop point.toNat

/-- The digits with an exponent of at least two digits. -/
def scientific (ds : List Char) (exponent : Int) : List Char :=
  let head := match ds with
    | [d] => [d]
    | d :: rest => d :: '.' :: rest
    | [] => []
  let e := Decimal.digits exponent.natAbs
  head ++ 'e' :: (if exponent < 0 then '-' else '+') :: (if e.length < 2 then '0' :: e else e)

/-- The text of a fraction; `whole` adds a zero behind the point of a whole number. -/
def text (whole : Bool) (f : Fraction) : String :=
  match f.shortest? with
  | none => "1e309"
  | some (0, _) => if whole then "0.0" else "0"
  | some (n, k) =>
    let ds := Decimal.digits n
    let exponent := (ds.length : Int) + k - 1
    .ofList (if -4 ≤ exponent ∧ exponent < 16 then positional whole ds (exponent + 1)
      else scientific ds exponent)

end Fraction

/-- The text of a number. -/
def Number.text : Number → String
  | .integer n => .ofList (Decimal.digits n)
  | .real f => f.text true
  | .imaginary f => f.text false ++ "j"

end Acceptance.Source
