import Acceptance.Proofs.Gherkin.Regular
import Acceptance.Proofs.Plan.OutputPath
import Acceptance.Proofs.Text.Lowered

/-!
# Snake case

Each pass over a name keeps what the passes before it brought about: underscores that stand for
other characters and those between words are squeezed to one, trimming takes a middle part, and
lower case moves no underscore.  What has all of it is left as it is by each of the passes.

    SnakeCase (snakeList cs)                                                   (snakeCase_snakeList)
    SnakeCase cs, all of cs in lower case → snakeList cs = cs                   (snakeList_eq_self)
-/

namespace Acceptance.Plan

open Acceptance.Text

/-- A text in snake case: of small letters, digits and other characters of identifiers, with single
underscores between its words. -/
structure SnakeCase (cs : List Char) : Prop where
  parts : ∀ c ∈ cs, isIdentifierPart c = true
  small : ∀ c ∈ cs, c.isUpper = false
  head : cs.head? ≠ some '_'
  last : cs.getLast? ≠ some '_'
  single : ¬ doubled <:+: cs

/-! ## Squeezing -/

theorem head?_squeeze (cs : List Char) : (squeeze cs).head? = cs.head? := by
  fun_induction squeeze cs with
  | case1 rest ih => exact ih
  | case2 c rest _ _ => rfl
  | case3 => rfl

theorem single_squeeze (cs : List Char) : ¬ doubled <:+: squeeze cs := by
  fun_induction squeeze cs with
  | case1 rest ih => exact ih
  | case2 c rest hnot ih =>
    rw [List.infix_cons_iff, not_or]
    refine ⟨?_, ih⟩
    rintro ⟨behind, hbehind⟩
    obtain ⟨rfl, htail⟩ := List.cons.inj hbehind
    have hhead : rest.head? = some '_' := by
      rw [← head?_squeeze, ← htail]
      rfl
    obtain ⟨tail, rfl⟩ := List.head?_eq_some_iff.1 hhead
    exact hnot tail rfl rfl
  | case3 => decide

theorem squeeze_eq_self {cs : List Char} (h : ¬ doubled <:+: cs) : squeeze cs = cs := by
  fun_induction squeeze cs with
  | case1 rest ih => exact absurd ⟨[], rest, rfl⟩ h
  | case2 c rest _ ih =>
    rw [ih]
    intro hinfix
    exact h (List.infix_cons hinfix)
  | case3 => rfl

/-! ## Trimming -/

section
variable {p : Char → Bool} {cs : List Char} {c : Char}

theorem trimWhile_isInfix (p : Char → Bool) (cs : List Char) : trimWhile p cs <:+: cs :=
  (Gherkin.dropEndWhile_isPrefix p _).isInfix.trans (List.dropWhile_suffix p).isInfix

theorem head?_dropWhile_ne (h : (cs.dropWhile p).head? = some c) : p c = false := by
  have hhead := List.head?_dropWhile_not p cs
  rw [h] at hhead
  simpa using hhead

theorem head?_trimWhile (h : (trimWhile p cs).head? = some c) : p c = false := by
  obtain ⟨tail, htail⟩ := List.head?_eq_some_iff.1 h
  obtain ⟨behind, hbehind⟩ := Gherkin.dropEndWhile_isPrefix p (cs.dropWhile p)
  have hhead : (cs.dropWhile p).head? = some c := by
    rw [← hbehind]
    show (trimWhile p cs ++ behind).head? = some c
    rw [htail]
    rfl
  exact head?_dropWhile_ne hhead

theorem getLast?_trimWhile (h : (trimWhile p cs).getLast? = some c) : p c = false := by
  rw [trimWhile, dropEndWhile, List.getLast?_reverse] at h
  exact head?_dropWhile_ne h

theorem dropWhile_eq_self (h : ∀ c, cs.head? = some c → p c = false) : cs.dropWhile p = cs := by
  cases cs with
  | nil => rfl
  | cons c cs =>
    have hc : p c = false := h c rfl
    rw [List.dropWhile_cons_of_neg]
    rw [hc]
    exact Bool.false_ne_true

theorem trimWhile_eq_self (hhead : ∀ c, cs.head? = some c → p c = false)
    (hlast : ∀ c, cs.getLast? = some c → p c = false) : trimWhile p cs = cs := by
  rw [trimWhile, dropWhile_eq_self hhead, dropEndWhile, dropWhile_eq_self, List.reverse_reverse]
  intro c hc
  rw [List.head?_reverse] at hc
  exact hlast c hc

end

/-! ## Names in snake case -/

theorem partCapitals_eq_self {cs : List Char} (h : ∀ c ∈ cs, c.isUpper = false) :
    partCapitals cs = cs := by
  fun_induction partCapitals cs with
  | case1 c d rest hcond _ =>
    have hd : d.isUpper = false := h d (List.mem_cons_of_mem _ List.mem_cons_self)
    rw [hd, Bool.and_false] at hcond
    cases hcond
  | case2 c d rest _ ih => rw [ih fun e he => h e (List.mem_cons_of_mem _ he)]
  | case3 => rfl

theorem maskOthers_eq_self {cs : List Char} (h : ∀ c ∈ cs, isIdentifierPart c = true) :
    maskOthers cs = cs := by
  rw [maskOthers, List.map_congr_left fun c hc => if_pos (h c hc)]
  exact List.map_id cs

/-- **Each pass leaves a text in snake case as it is.** -/
theorem snakeList_eq_self {cs : List Char} (h : SnakeCase cs)
    (hlowered : ∀ c ∈ cs, lowerChar c = [c]) : snakeList cs = cs := by
  have htrim : trimWhile (· == '_') cs = cs := by
    apply trimWhile_eq_self
    · intro c hc
      rw [beq_eq_false_iff_ne]
      rintro rfl
      exact h.head hc
    · intro c hc
      rw [beq_eq_false_iff_ne]
      rintro rfl
      exact h.last hc
  rw [snakeList, partCapitals_eq_self h.small, maskOthers_eq_self h.parts, squeeze_eq_self h.single,
    htrim, lowerList, lowerFrom_eq_self hlowered]

/-- **The passes bring about snake case.** -/
theorem snakeCase_snakeList (cs : List Char) : SnakeCase (snakeList cs) := by
  unfold snakeList
  generalize hmasked : maskOthers (partCapitals cs) = masked
  have hparts : ∀ c ∈ trimWhile (· == '_') (squeeze masked), isIdentifierPart c = true := by
    intro c hc
    have hmem : c ∈ masked := squeeze_subset _ (trimWhile_subset _ _ hc)
    rw [← hmasked] at hmem
    exact isIdentifierPart_of_mem_maskOthers hmem
  refine ⟨?_, ?_, ?_, ?_, ?_⟩
  · intro d hd
    exact isIdentifierPart_of_mem_lowerList hd hparts
  · intro d hd
    exact isUpper_of_lowerChar (lowerChar_of_mem_lowerList hd)
  · intro h
    exact absurd (head?_trimWhile (head?_lowerFrom h)) (by decide)
  · intro h
    exact absurd (getLast?_trimWhile (getLast?_lowerFrom h)) (by decide)
  · intro h
    have hsqueezed := (doubled_of_lowerList h).trans (trimWhile_isInfix _ (squeeze masked))
    exact single_squeeze masked hsqueezed

/-- **Snake case once and for all.**  The name in snake case consists of characters of identifiers
without capitals, has underscores neither at its ends nor two in a row, and is its own name in
snake case. -/
theorem snakeCase_snakeName (name : String) :
    SnakeCase (snakeName name).toList ∧ snakeName (snakeName name) = snakeName name := by
  have hsnake := snakeCase_snakeList name.toList
  have hagain : snakeList (snakeList name.toList) = snakeList name.toList :=
    snakeList_eq_self hsnake fun _ => lowerChar_of_mem_lowerList
  unfold snakeName
  rw [String.toList_ofList]
  exact ⟨hsnake, congrArg String.ofList hagain⟩

example : snakeName "HTTPServer2Go" = "httpserver2_go" ∧ snakeName "__aB-Ç _" = "a_b_ç" := by
  decide +kernel

end Acceptance.Plan
