import Acceptance.Proofs.Text.LowerCase
import Mathlib.Data.List.Basic

/-!
# Case mappings beside each other

A mapping is compared with another one along the runs of the other.  It has the same codes at both
ends of a run where the run is its own, or one of its own turned around, and where nothing else
moves what the run leads to; the few runs left are gone through point by point.

    agreesAlong runs expansions p others = true →
      (caseCodes runs expansions m = caseCodes runs expansions n → R m n) →
      (p m n = true → R m n) →
        R n (others.image n)                                              (rel_image_of_agreesAlong)

Sets of code points are the bits of a number: one conjunction tells whether two of them meet.
-/

namespace Acceptance.Text

/-! ## Algorithm -/

/-- The codes of a character under a case mapping. -/
def caseCodes (runs : CaseRuns) (expansions : List (Nat × List Nat)) (n : Nat) : List Nat :=
  (expansion? expansions n).getD [runs.image n]

/-- The first `count` multiples of `step`, as the bits of a number. -/
def multiples (step : Nat) : Nat → Nat
  | 0 => 0
  | count + 1 => multiples step count <<< step ||| 1

/-- The set of the code points of a run. -/
def sources (r : Nat × Nat × Nat × Nat) : Nat :=
  multiples r.2.2.1 ((r.2.1 - r.1) / r.2.2.1 + 1) <<< r.1

/-- The run back from what a run leads to. -/
def turned (r : Nat × Nat × Nat × Nat) : Nat × Nat × Nat × Nat :=
  (r.2.2.2, r.2.2.2 + (r.2.1 - r.1), r.2.2.1, r.1)

/-- The set of the code points that have a run. -/
def CaseRuns.points (runs : CaseRuns) : Nat := runs.foldr (fun r set => sources r ||| set) 0

/-- The set of the code points that have an entry. -/
def keys (table : List (Nat × List Nat)) : Nat := table.foldr (fun e set => 1 <<< e.1 ||| set) 0

/-- Whether two sets have nothing in common. -/
def apart (s t : Nat) : Bool := Nat.beq (s &&& t) 0

/-- `caseCodes`, the tables searched only where the sets do not settle it. -/
def quickCodes (runs : CaseRuns) (expansions : List (Nat × List Nat)) (n : Nat) : List Nat :=
  bif apart (keys expansions) (1 <<< n) then
    bif apart runs.points (1 <<< n) then [n] else [runs.image n]
  else caseCodes runs expansions n

/-- Whether runs follow each other from `first` on without overlapping. -/
def CaseRuns.inOrder (first : Nat) : CaseRuns → Bool
  | [] => true
  | r :: rest => if first ≤ r.1 ∧ r.1 ≤ r.2.1 then inOrder (r.2.1 + 1) rest else false

/-- Whether a run can be one of a mapping's own that stands alone: its code points have runs and no
entries, and what it leads to has neither. -/
def standsAlone (runs : CaseRuns) (expansions : List (Nat × List Nat))
    (r : Nat × Nat × Nat × Nat) : Bool :=
  !apart runs.points (sources r) && (apart (keys expansions) (sources r) &&
    apart (keys expansions) (sources (turned r)) && apart runs.points (sources (turned r)))

/-- Whether `p` holds of every code point of a run and the one that the run sends it to. -/
def holdsAlong (p : Nat → Nat → Bool) (r : Nat × Nat × Nat × Nat) : Bool :=
  match r with
  | (lo, hi, step, target) =>
    (List.range (hi - lo + 1)).all fun k => !Nat.beq (k % step) 0 || p (lo + k) (target + k)

/-- Whether each of the other runs is the mapping's own, its own turned around, or one along which
`p` holds.  The shared runs are found in one pass, since both lists are in order. -/
def agreesAlong (runs : CaseRuns) (expansions : List (Nat × List Nat)) (p : Nat → Nat → Bool)
    (others : CaseRuns) : Bool :=
  runs.inOrder 0 && ((others.filter (standsAlone runs expansions)).isSublist runs &&
    (others.filter fun r => !standsAlone runs expansions r).all fun r =>
      standsAlone runs expansions (turned r) && runs.contains (turned r) || holdsAlong p r)

/-! ## Sets -/

section
variable {s t step count k n : Nat}

theorem testBit_multiples {i : Nat} (h : i < count) :
    (multiples step count).testBit (i * step) = true := by
  induction count generalizing i with
  | zero => exact absurd h (Nat.not_lt_zero i)
  | succ count ih =>
    rw [multiples, Nat.testBit_or, Nat.testBit_shiftLeft]
    -- zero is the bit added last; the other multiples are those of before, one step on
    cases i with
    | zero => rw [Nat.zero_mul, Nat.testBit_one_zero, Bool.or_true]
    | succ i =>
      rw [Nat.succ_mul, Nat.add_sub_cancel, ih (Nat.lt_of_succ_lt_succ h),
        decide_eq_true (Nat.le_add_left step _), Bool.and_self, Bool.true_or]

theorem testBit_sources {lo hi target : Nat} (hk : k ≤ hi - lo) (hstep : k % step = 0) :
    (sources (lo, hi, step, target)).testBit (lo + k) = true := by
  have hmultiple : k / step * step = k := Nat.div_mul_cancel (Nat.dvd_of_mod_eq_zero hstep)
  have hcount : k / step < (hi - lo) / step + 1 := Nat.lt_succ_of_le (Nat.div_le_div_right hk)
  have hbit : (multiples step ((hi - lo) / step + 1)).testBit (k / step * step) = true :=
    testBit_multiples hcount
  rw [hmultiple] at hbit
  rw [sources, Nat.testBit_shiftLeft, Nat.add_sub_cancel_left, hbit,
    decide_eq_true (Nat.le_add_right lo k), Bool.and_self]

theorem testBit_foldr_or {α : Type} {f : α → Nat} {l : List α} {a : α} (ha : a ∈ l)
    (h : (f a).testBit n = true) : (l.foldr (fun a set => f a ||| set) 0).testBit n = true := by
  induction l with
  | nil => cases ha
  | cons b l ih =>
    rw [List.foldr_cons, Nat.testBit_or, Bool.or_eq_true]
    rcases List.mem_cons.1 ha with rfl | ha
    · exact .inl h
    · exact .inr (ih ha)

theorem testBit_one_shiftLeft : (1 <<< n).testBit n = true := by
  rw [Nat.one_shiftLeft, Nat.testBit_two_pow_self]

theorem testBit_of_apart (h : apart s t = true) (hn : t.testBit n = true) :
    s.testBit n = false := by
  rw [apart, Nat.beq_eq] at h
  have hbit := Nat.testBit_and s t n
  rwa [h, Nat.zero_testBit, hn, Bool.and_true, eq_comm] at hbit

end

/-! ## One mapping -/

theorem mem_of_expansion? {table : List (Nat × List Nat)} {n : Nat} {codes : List Nat}
    (h : expansion? table n = some codes) : (n, codes) ∈ table := by
  obtain ⟨e, he, rfl⟩ := Option.map_eq_some_iff.1 h
  have hn := List.find?_some he
  rw [beq_iff_eq] at hn
  rw [← hn]
  exact List.mem_of_find?_eq_some he

theorem expansion?_eq_none {table : List (Nat × List Nat)} {n : Nat}
    (h : (keys table).testBit n = false) : expansion? table n = none := by
  cases hn : expansion? table n with
  | none => rfl
  | some codes =>
    have hbit : (keys table).testBit n = true :=
      testBit_foldr_or (mem_of_expansion? hn) testBit_one_shiftLeft
    rw [h] at hbit
    cases hbit

section
variable {runs : CaseRuns} {expansions : List (Nat × List Nat)} {lo hi step target k n : Nat}

theorem caseCodes_ne_nil (filled : ∀ e ∈ expansions, e.2 ≠ []) (n : Nat) :
    caseCodes runs expansions n ≠ [] := by
  unfold caseCodes
  cases hn : expansion? expansions n with
  | none => exact List.cons_ne_nil _ _
  | some codes => exact filled _ (mem_of_expansion? hn)

theorem image_eq_self (h : runs.points.testBit n = false) : runs.image n = n := by
  rcases CaseRuns.image_cases runs n with himage | ⟨r, hr, k, hk, hstep, rfl, -⟩
  · exact himage
  · have hbit : runs.points.testBit (r.1 + k) = true :=
      testBit_foldr_or hr (testBit_sources hk hstep)
    rw [h] at hbit
    cases hbit

theorem quickCodes_eq (n : Nat) : quickCodes runs expansions n = caseCodes runs expansions n := by
  unfold quickCodes
  cases hkey : apart (keys expansions) (1 <<< n) with
  | false => rfl
  | true =>
    have hnone := expansion?_eq_none (testBit_of_apart hkey testBit_one_shiftLeft)
    rw [cond_true, caseCodes, hnone, Option.getD_none]
    cases hpoint : apart runs.points (1 <<< n) with
    | false => rfl
    | true => rw [cond_true, image_eq_self (testBit_of_apart hpoint testBit_one_shiftLeft)]

theorem le_of_inOrder {first : Nat} {r : Nat × Nat × Nat × Nat}
    (ordered : runs.inOrder first = true) (hr : r ∈ runs) : first ≤ r.1 := by
  induction runs generalizing first with
  | nil => cases hr
  | cons s rest ih =>
    rw [CaseRuns.inOrder] at ordered
    split at ordered
    · next hs =>
      rcases List.mem_cons.1 hr with rfl | hr
      · exact hs.1
      · exact Nat.le_trans (Nat.le_succ_of_le (Nat.le_trans hs.1 hs.2)) (ih ordered hr)
    · cases ordered

/-- Runs in order all come to bear. -/
theorem image_of_mem {first : Nat} (ordered : runs.inOrder first = true)
    (hr : (lo, hi, step, target) ∈ runs) (hk : k ≤ hi - lo) (hstep : k % step = 0) :
    runs.image (lo + k) = target + k := by
  induction runs generalizing first with
  | nil => cases hr
  | cons s rest ih =>
    rw [CaseRuns.inOrder] at ordered
    split at ordered
    · next hs =>
      rcases List.mem_cons.1 hr with rfl | hrest
      · have hfilled : lo ≤ hi := hs.2
        rw [CaseRuns.image, if_neg (by omega), if_pos (by omega), Nat.add_sub_cancel_left,
          if_pos hstep]
      · have hbehind : s.2.1 + 1 ≤ lo := le_of_inOrder ordered hrest
        obtain ⟨lo', hi', step', target'⟩ := s
        simp only at hs hbehind
        rw [CaseRuns.image, if_neg (by omega), if_neg (by omega)]
        exact ih ordered hrest
    · cases ordered

/-- A mapping has the same codes at both ends of a run of its own that stands alone. -/
theorem caseCodes_of_standsAlone (ordered : runs.inOrder 0 = true)
    (hr : (lo, hi, step, target) ∈ runs)
    (alone : standsAlone runs expansions (lo, hi, step, target) = true) (hk : k ≤ hi - lo)
    (hstep : k % step = 0) :
    caseCodes runs expansions (lo + k) = caseCodes runs expansions (target + k) := by
  rw [standsAlone, Bool.and_eq_true, Bool.and_eq_true, Bool.and_eq_true] at alone
  obtain ⟨-, ⟨hsource, htarget⟩, hfixed⟩ := alone
  have hfrom : (sources (lo, hi, step, target)).testBit (lo + k) = true :=
    testBit_sources hk hstep
  have hback : k ≤ target + (hi - lo) - target := by omega
  have hto : (sources (turned (lo, hi, step, target))).testBit (target + k) = true :=
    testBit_sources hback hstep
  rw [caseCodes, caseCodes, expansion?_eq_none (testBit_of_apart hsource hfrom),
    expansion?_eq_none (testBit_of_apart htarget hto), image_of_mem ordered hr hk hstep,
    image_eq_self (testBit_of_apart hfixed hto)]

end

/-! ## Two mappings -/

section
variable {runs : CaseRuns} {R : Nat → Nat → Prop}

theorem of_holdsAlong {p : Nat → Nat → Bool} {lo hi step target k : Nat}
    (h : holdsAlong p (lo, hi, step, target) = true) (hk : k ≤ hi - lo) (hstep : k % step = 0) :
    p (lo + k) (target + k) = true := by
  have hall := List.all_eq_true.1 h k (List.mem_range.2 (Nat.lt_succ_of_le hk))
  rw [hstep] at hall
  exact hall

/-- What holds of a code point and itself, and along every run, holds of each and its image. -/
theorem rel_image (refl : ∀ n, R n n)
    (along : ∀ r ∈ runs, ∀ k, k ≤ r.2.1 - r.1 → k % r.2.2.1 = 0 → R (r.1 + k) (r.2.2.2 + k))
    (n : Nat) : R n (runs.image n) := by
  rcases CaseRuns.image_cases runs n with himage | ⟨r, hr, k, hk, hstep, hn, himage⟩
  · rw [himage]
    exact refl n
  · rw [himage, hn]
    exact along r hr k hk hstep

/-- **One mapping along another.**  A relation that holds where the mapping has the same codes, and
wherever `p` does, holds of each code point and its image under the other runs. -/
theorem rel_image_of_agreesAlong {expansions : List (Nat × List Nat)} {p : Nat → Nat → Bool}
    {others : CaseRuns} (h : agreesAlong runs expansions p others = true)
    (same : ∀ m n, caseCodes runs expansions m = caseCodes runs expansions n → R m n)
    (checked : ∀ m n, p m n = true → R m n) (n : Nat) : R n (others.image n) := by
  rw [agreesAlong, Bool.and_eq_true, Bool.and_eq_true, List.isSublist_iff_sublist,
    List.all_eq_true] at h
  obtain ⟨ordered, hshared, hrest⟩ := h
  refine rel_image (fun n => same n n rfl) ?_ n
  rintro ⟨lo, hi, step, target⟩ hr k (hk : k ≤ hi - lo) hstep
  cases hown : standsAlone runs expansions (lo, hi, step, target) with
  | true =>
    have hmem := hshared.subset (List.mem_filter.2 ⟨hr, hown⟩)
    exact same _ _ (caseCodes_of_standsAlone ordered hmem hown hk hstep)
  | false =>
    have hother := hrest _ (List.mem_filter.2 ⟨hr, by rw [hown]; rfl⟩)
    rw [Bool.or_eq_true, Bool.and_eq_true, List.contains_iff_mem] at hother
    rcases hother with ⟨alone, hmem⟩ | hholds
    · -- the mapping leads the other way, from what the run leads to back to its code points
      have hback : k ≤ target + (hi - lo) - target := by omega
      exact same _ _ (caseCodes_of_standsAlone ordered hmem alone hback hstep).symm
    · exact checked _ _ (of_holdsAlong hholds hk hstep)

end

end Acceptance.Text
