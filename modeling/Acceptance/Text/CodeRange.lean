/-!
# Sets of code points

A set of characters is written as its maximal runs `(first, last)` in ascending order.
For such runs

    contains rs n = true ↔ ∃ r ∈ rs, r.1 ≤ n ∧ n ≤ r.2        (contains_eq_true_iff)

A case mapping is written as runs `(first, last, step, image)`.
-/

namespace Acceptance.Text

/-! ## Algorithm -/

/-- Runs of code points, ends included, in ascending order. -/
abbrev CodeRanges := List (Nat × Nat)

/-- Membership; the scan stops at the first run that begins beyond the code point. -/
def CodeRanges.contains : CodeRanges → Nat → Bool
  | [], _ => false
  | (lo, hi) :: rest, n => if n < lo then false else if n ≤ hi then true else contains rest n

/-- Runs of mapped code points: every `step`-th one from `first` to `last`, the first of them sent
to `image` and the others by the same distance. -/
abbrev CaseRuns := List (Nat × Nat × Nat × Nat)

/-- The image of a code point; one that no run lists is its own image. -/
def CaseRuns.image : CaseRuns → Nat → Nat
  | [], n => n
  | (lo, hi, step, target) :: rest, n =>
    if n < lo then n
    else if n ≤ hi then (if (n - lo) % step = 0 then target + (n - lo) else image rest n)
    else image rest n

/-- The entry of an association list. -/
def expansion? (table : List (Nat × List Nat)) (n : Nat) : Option (List Nat) :=
  (table.find? fun entry => entry.1 == n).map (·.2)

/-! ## Lemmas -/

/-- Ascending and disjoint runs, none of them empty. -/
def CodeRanges.Ascending (rs : CodeRanges) : Prop :=
  (∀ r ∈ rs, r.1 ≤ r.2) ∧ rs.Pairwise fun r s => r.2 < s.1

theorem CodeRanges.exists_of_contains {rs : CodeRanges} {n : Nat} (h : rs.contains n = true) :
    ∃ r ∈ rs, r.1 ≤ n ∧ n ≤ r.2 := by
  induction rs with
  | nil => simp [contains] at h
  | cons r rest ih =>
    obtain ⟨lo, hi⟩ := r
    by_cases h₁ : n < lo
    · simp [contains, h₁] at h
    · by_cases h₂ : n ≤ hi
      · exact ⟨(lo, hi), by simp, by simpa using h₁, h₂⟩
      · simp only [contains, if_neg h₁, if_neg h₂] at h
        obtain ⟨r, hr, hb⟩ := ih h
        exact ⟨r, by simp [hr], hb⟩

/-- In ascending runs, stopping early passes over no run that holds the code point. -/
theorem CodeRanges.contains_eq_true_iff {rs : CodeRanges} (ascending : rs.Ascending) {n : Nat} :
    rs.contains n = true ↔ ∃ r ∈ rs, r.1 ≤ n ∧ n ≤ r.2 := by
  refine ⟨exists_of_contains, ?_⟩
  rintro ⟨r, hr, hlo, hhi⟩
  induction rs with
  | nil => simp at hr
  | cons first rest ih =>
    obtain ⟨lo, hi⟩ := first
    obtain ⟨filled, ordered⟩ := ascending
    rw [List.pairwise_cons] at ordered
    rcases List.mem_cons.1 hr with rfl | hr
    · simp [contains, Nat.not_lt.2 hlo, hhi]
    · have hfilled : lo ≤ hi := filled (lo, hi) (by simp)
      have hbefore : hi < r.1 := ordered.1 r hr
      have hrest := ih ⟨fun s hs => filled s (by simp [hs]), ordered.2⟩ hr
      simp [contains, show ¬ n < lo by omega, show ¬ n ≤ hi by omega, hrest]

end Acceptance.Text
