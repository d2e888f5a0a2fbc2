/-!
# Taking from the front of a list

A scan takes items from the front of a list; it fails, or gives a value and the items behind it.
A choice gives all items back to its second half.
-/

namespace Acceptance.Text

/-- A scan for values of a type over items of a type. -/
abbrev Scan (ι : Type) : Type → Type := StateT (List ι) Option

namespace Scan

variable {ι α : Type}

/-- Takes the first item. -/
def next : Scan ι ι := do
  match ← get with
  | t :: ts => set ts; pure t
  | [] => failure

/-- The first item, which stays. -/
def peek : Scan ι (Option ι) := do return (← get).head?

/-- Takes one given item. -/
def item [DecidableEq ι] (t : ι) : Scan ι Unit := do
  if (← next) = t then pure () else failure

/-- Takes a given item if it comes first, and tells whether it did. -/
def tryItem [DecidableEq ι] (t : ι) : Scan ι Bool := do
  match ← get with
  | u :: ts => if u = t then set ts; pure true else pure false
  | [] => pure false

/-- Whether one of some items comes first. -/
def sees [DecidableEq ι] (ts : List ι) : Scan ι Bool := do
  return (← peek).any fun t => ts.any (t = ·)

/-- A value, or nothing where it cannot be taken. -/
def option (p : Scan ι α) : Scan ι (Option α) := (some <$> p) <|> pure none

/-- As many values as can be taken, at most `n`. -/
def atMost : Nat → Scan ι α → Scan ι (List α)
  | 0, _ => pure []
  | n + 1, p => do
    match ← option p with
    | some a => return a :: (← atMost n p)
    | none => pure []

/-- As many values as can be taken.  A value takes an item at least. -/
def many (p : Scan ι α) : Scan ι (List α) := do
  atMost (← get).length p

/-- One value at least. -/
def several (p : Scan ι α) : Scan ι (List α) := do
  let a ← p
  return a :: (← many p)

/-- Fails unless a condition holds. -/
def ensure (b : Bool) : Scan ι Unit := if b then pure () else failure

/-- The value of an option. -/
def ofOption : Option α → Scan ι α
  | some a => pure a
  | none => failure

end Scan

end Acceptance.Text
