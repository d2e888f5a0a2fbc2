/-!
# Decimal numbers

    value (digits n) = n        (value_digits)
-/

namespace Acceptance.Text.Decimal

/-! ## Algorithm -/

def digitChar (d : Nat) : Char := Char.ofNat (48 + d)

/-- The decimal digits of a number. -/
def digits (n : Nat) : List Char :=
  if n < 10 then [digitChar n] else digits (n / 10) ++ [digitChar (n % 10)]
termination_by n
decreasing_by omega

/-- A number in decimal. -/
def text (n : Nat) : String := .ofList (digits n)

/-- The number that a row of digits writes. -/
def value (cs : List Char) : Nat := cs.foldl (fun n c => n * 10 + (c.toNat - 48)) 0

/-- The digits of an integer, with a minus sign below zero. -/
def intDigits : Int → List Char
  | .ofNat n => digits n
  | .negSucc n => '-' :: digits (n + 1)

/-! ## Lemmas -/

theorem toNat_digitChar {d : Nat} (h : d < 10) : (digitChar d).toNat = 48 + d := by
  have : ∀ d, d < 10 → (digitChar d).toNat = 48 + d := by decide
  exact this d h

theorem value_digits (n : Nat) : value (digits n) = n := by
  rw [digits]
  split
  · rename_i h
    simp [value, toNat_digitChar h]
  · have ih := value_digits (n / 10)
    simp only [value, List.foldl_append, List.foldl_cons, List.foldl_nil] at ih ⊢
    rw [ih, toNat_digitChar (Nat.mod_lt n (by omega))]
    omega
termination_by n
decreasing_by omega

theorem digits_ne_nil (n : Nat) : digits n ≠ [] := by
  rw [digits]
  split <;> simp

theorem text_injective {m n : Nat} (h : text m = text n) : m = n := by
  have hd : digits m = digits n := by
    simpa [text] using congrArg String.toList h
  rw [← value_digits m, hd, value_digits]

end Acceptance.Text.Decimal
