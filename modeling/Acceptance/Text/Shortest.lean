import Acceptance.Text.Decimal

/-!
# Shortest decimals of binary fractions

A number is first rounded to the nearest `m · 2^q` with at most 53 binary digits, a tie going to
the even `m`.  Of the decimals that round back to it the shortest is taken, and of several of that
length the nearest.

    nearest num den        the rounded number, none beyond the largest one
    shortest m q           its digits and the power of ten in front of which they stand
-/

namespace Acceptance.Text.Shortest

/-! ## Rounding to binary -/

/-- The quotient rounded to nearest, a tie to the even neighbour. -/
def roundDiv (num den : Nat) : Nat :=
  let q := num / den
  let r := num % den
  if 2 * r > den ∨ (2 * r = den ∧ q % 2 = 1) then q + 1 else q

/-- `num / den` divided by `2^q`, as a numerator and a denominator. -/
def scaleBinary (num den : Nat) (q : Int) : Nat × Nat :=
  if q ≥ 0 then (num, den * Nat.pow 2 q.toNat) else (num * Nat.pow 2 (-q).toNat, den)

/-- The number nearest to `num / den`, as `m · 2^q`. -/
def nearest (num den : Nat) : Option (Nat × Int) :=
  let guess : Int := (Nat.log2 num : Int) - (Nat.log2 den : Int) - 53
  let (a, b) := scaleBinary num den guess
  let guess := if a / b ≥ Nat.pow 2 53 then guess + 1 else guess
  let q := max guess (-1074)
  let (a, b) := scaleBinary num den q
  let m := roundDiv a b
  let (m, q) := if m = Nat.pow 2 53 then (Nat.pow 2 52, q + 1) else (m, q)
  if q > 971 then none else some (m, q)

/-! ## Shortest digits -/

/-- The interval of the numbers that round to `m · 2^q`, its ends in units of `2^(q-2)`. -/
def bounds (m : Nat) (q : Int) : Nat × Nat :=
  (if m = Nat.pow 2 52 ∧ q > -1074 then 4 * m - 1 else 4 * m - 2, 4 * m + 2)

/-- `n · 2^q` as a numerator and a denominator. -/
def binary (n : Nat) (q : Int) : Nat × Nat :=
  if q ≥ 0 then (n * Nat.pow 2 q.toNat, 1) else (n, Nat.pow 2 (-q).toNat)

/-- `n · 10^k` as a numerator and a denominator. -/
def power (n : Nat) (k : Int) : Nat × Nat :=
  if k ≥ 0 then (n * Nat.pow 10 k.toNat, 1) else (n, Nat.pow 10 (-k).toNat)

/-- Whether the fraction `a` is below the fraction `b`. -/
def below (a b : Nat × Nat) : Bool := a.1 * b.2 < b.1 * a.2

/-- Whether `n · 10^k` rounds to `m · 2^q`. -/
def roundsTo (m : Nat) (q : Int) (n : Nat) (k : Int) : Bool :=
  let (lo, hi) := bounds m q
  let x := power n k
  let (lo, hi) := (binary lo (q - 2), binary hi (q - 2))
  (below lo x && below x hi) || (m % 2 = 0 && !(below x lo) && !(below hi x))

/-- The distance of two fractions. -/
def distance (a b : Nat × Nat) : Nat × Nat :=
  (max (a.1 * b.2) (b.1 * a.2) - min (a.1 * b.2) (b.1 * a.2), a.2 * b.2)

/-- The greatest `k` with `10^k` not above a fraction. -/
def magnitude (x : Nat × Nat) : Int :=
  if x.1 ≥ x.2 then ((Decimal.digits (x.1 / x.2)).length : Int) - 1
  else
    let k := (Decimal.digits (x.2 / x.1)).length
    if x.1 * Nat.pow 10 (k - 1) ≥ x.2 then -((k : Int) - 1) else -(k : Int)

/-- The neighbour of `m · 2^q` on the grid of `10^k` that rounds to it, the nearer of two; of two
that are as near, the even one. -/
def onGrid (m : Nat) (q : Int) (k : Int) : Option Nat :=
  let x := binary m q
  let (a, b) := if k ≥ 0 then (x.1, x.2 * Nat.pow 10 k.toNat) else (x.1 * Nat.pow 10 (-k).toNat, x.2)
  let n := a / b
  match roundsTo m q n k && n > 0, roundsTo m q (n + 1) k with
  | true, true =>
    let up := distance (power (n + 1) k) x
    let down := distance (power n k) x
    if below up down || (!below down up && n % 2 = 1) then some (n + 1) else some n
  | true, false => some n
  | false, true => some (n + 1)
  | false, false => none

/-- The first of the grids with 1, 2, … 17 digits that has a number to offer. -/
def onGrids (m : Nat) (q : Int) (k : Int) : Nat → Nat × Int
  | 0 => (m, q)
  | fuel + 1 =>
    match onGrid m q k with
    | some n => (n, k)
    | none => onGrids m q (k - 1) fuel

/-- Takes the zeros off the end of a number. -/
def dropZeros : Nat → Nat → Int → Nat × Int
  | 0, n, k => (n, k)
  | fuel + 1, n, k => if n % 10 = 0 ∧ n > 0 then dropZeros fuel (n / 10) (k + 1) else (n, k)

/-- The shortest decimal `n · 10^k` that rounds to `m · 2^q`. -/
def shortest (m : Nat) (q : Int) : Nat × Int :=
  let (n, k) := onGrids m q (magnitude (binary m q)) 18
  dropZeros 20 n k

end Acceptance.Text.Shortest
