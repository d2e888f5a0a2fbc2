import Acceptance.Proofs.Step.Splits
import Acceptance.Step.Catalog

/-!
# Look-up of a step

A look-up goes through a catalog twice: the definitions without parameters are asked first and the
others behind them, both in the order of their registration.  Its answer is the first one of those
that accept the step.  Definitions that are registered behind the others are asked last within their
round only, so that the first answer of a catalog gives way to one of them just where it has
parameters and theirs has none.

    c.Lists keyword text (c.positions keyword text) (c.findAll keyword text)       (lists_findAll)
    C.find? keyword text = none ↔ C.findAll keyword text = []                  (find?_eq_none_iff)
    (C ++ D).find? keyword text ≠ C.find? keyword text ↔
      C answers nothing and D something, or C with parameters and D without    (find?_append_ne_iff)
-/

namespace Acceptance

open Acceptance.Text

/-! ## Definitions that accept a step -/

namespace StepDefinition

/-- A definition without parameters has just this text, without regard to case; one with parameters
has a pattern that the text splits into. -/
def Matches (d : StepDefinition) (text : String) : Prop :=
  if d.parameters = [] then fold d.pattern = fold text
  else ∃ captures, Pattern.Splits (Pattern.literals d.pattern.toList) text.toList captures

/-- A definition that is registered under a keyword and matches a text. -/
structure Accepts (d : StepDefinition) (keyword text : String) : Prop where
  keyword : fold d.kind.word = fold keyword
  matched : d.Matches text

section
variable {d : StepDefinition} {keyword text : String}

theorem answersTo_iff : d.answersTo keyword = true ↔ fold d.kind.word = fold keyword :=
  beq_iff_eq

theorem isExact_iff :
    d.isExact text = true ↔ d.parameters = [] ∧ fold d.pattern = fold text := by
  rw [isExact, Bool.and_eq_true, List.isEmpty_iff, beq_iff_eq]

theorem isTemplated_iff : d.isTemplated text = true ↔ d.parameters ≠ [] ∧
    ∃ captures, Pattern.Splits (Pattern.literals d.pattern.toList) text.toList captures := by
  rw [isTemplated, Bool.and_eq_true, Bool.not_eq_true', ← Bool.not_eq_true, List.isEmpty_iff,
    Pattern.accepts, Pattern.captures?, Option.isSome_map,
    (Pattern.finds_capturesOf? _ _).isSome_iff]

theorem matches_iff :
    d.Matches text ↔ d.isExact text = true ∨ d.isTemplated text = true := by
  rw [Matches, isExact_iff, isTemplated_iff]
  split
  · next h => simp [h]
  · next h => simp [h]

theorem accepts_iff : d.Accepts keyword text ↔
    d.answersTo keyword = true ∧ (d.isExact text = true ∨ d.isTemplated text = true) := by
  rw [answersTo_iff, ← matches_iff]
  exact ⟨fun h => ⟨h.keyword, h.matched⟩, fun h => ⟨h.1, h.2⟩⟩

end

end StepDefinition

/-! ## Listing -/

theorem zipIdx_ordered {α : Type} (l : List α) : l.zipIdx.Pairwise fun a b => a.2 < b.2 := by
  refine List.pairwise_map.1 (?_ : (l.zipIdx.map (·.2)).Pairwise (· < ·))
  rw [List.zipIdx_map_snd]
  exact List.pairwise_lt_range'

namespace Catalog

/-- Places that are asked one before the other: definitions without parameters before those with
some, and within each of the two rounds in the order of registration. -/
def AskedBefore (C : Catalog) (i j : Nat) : Prop :=
  ∃ d e, C[i]? = some d ∧ C[j]? = some e ∧
    (d.parameters = [] ∧ e.parameters ≠ [] ∨
      (d.parameters = [] ↔ e.parameters = []) ∧ i < j)

/-- The places of the definitions that accept a step, and these definitions, in the order in which
they are asked. -/
structure Lists (C : Catalog) (keyword text : String) (places : List Nat)
    (ds : List StepDefinition) : Prop where
  placed : List.Forall₂ (fun i d => C[i]? = some d) places ds
  complete : ∀ i d, C[i]? = some d → (i ∈ places ↔ d.Accepts keyword text)
  once : places.Nodup
  ordered : places.Pairwise C.AskedBefore

/-- The definitions of a kind that one round of a look-up goes through, with their places. -/
def round (C : Catalog) (keyword : String) (p : StepDefinition → Bool) :
    List (StepDefinition × Nat) :=
  (C.zipIdx.filter fun q => q.1.answersTo keyword).filter fun q => p q.1

/-- The definitions that accept a step with their places. -/
def accepted (C : Catalog) (keyword text : String) : List (StepDefinition × Nat) :=
  C.round keyword (·.isExact text) ++ C.round keyword (·.isTemplated text)

section
variable {C : Catalog} {keyword text : String} {p : StepDefinition → Bool}

theorem mem_round_iff {d : StepDefinition} {i : Nat} :
    (d, i) ∈ C.round keyword p ↔ C[i]? = some d ∧ d.answersTo keyword = true ∧ p d = true := by
  rw [round, List.mem_filter, List.mem_filter, List.mem_zipIdx_iff_getElem?, and_assoc]

theorem map_round : (C.round keyword p).map (·.1) = (C.candidates keyword).filter p := by
  have hall : C = C.zipIdx.map (·.1) := (List.zipIdx_map_fst 0 C).symm
  rw [round, candidates]
  conv => rhs; rw [hall]
  rw [List.filter_map, List.filter_map]
  rfl

/-- A round goes through the definitions in the order of registration. -/
theorem round_ordered (hsame : ∀ d e, p d = true → p e = true →
      (d.parameters = [] ↔ e.parameters = [])) :
    (C.round keyword p).Pairwise fun a b => C.AskedBefore a.2 b.2 := by
  refine (((zipIdx_ordered C).filter _).filter _).imp_of_mem ?_
  rintro ⟨d, i⟩ ⟨e, j⟩ hd he hlt
  obtain ⟨hi, -, hpd⟩ := mem_round_iff.1 hd
  obtain ⟨hj, -, hpe⟩ := mem_round_iff.1 he
  exact ⟨d, e, hi, hj, .inr ⟨hsame d e hpd hpe, hlt⟩⟩

theorem positions_eq : C.positions keyword text = (C.accepted keyword text).map (·.2) := rfl

theorem findAll_eq : C.findAll keyword text = (C.accepted keyword text).map (·.1) := by
  rw [findAll, accepted, List.map_append, map_round, map_round]

theorem mem_accepted_iff {d : StepDefinition} {i : Nat} :
    (d, i) ∈ C.accepted keyword text ↔ C[i]? = some d ∧ d.Accepts keyword text := by
  rw [accepted, List.mem_append, mem_round_iff, mem_round_iff, StepDefinition.accepts_iff,
    ← and_or_left, ← and_or_left]

theorem accepted_ordered :
    (C.accepted keyword text).Pairwise fun a b => C.AskedBefore a.2 b.2 := by
  refine List.pairwise_append.2 ⟨round_ordered ?_, round_ordered ?_, ?_⟩
  · intro d e hd he
    exact iff_of_true (StepDefinition.isExact_iff.1 hd).1 (StepDefinition.isExact_iff.1 he).1
  · intro d e hd he
    exact iff_of_false (StepDefinition.isTemplated_iff.1 hd).1
      (StepDefinition.isTemplated_iff.1 he).1
  · rintro ⟨d, i⟩ hd ⟨e, j⟩ he
    obtain ⟨hi, -, hexact⟩ := mem_round_iff.1 hd
    obtain ⟨hj, -, htemplated⟩ := mem_round_iff.1 he
    exact ⟨d, e, hi, hj, .inl ⟨(StepDefinition.isExact_iff.1 hexact).1,
      (StepDefinition.isTemplated_iff.1 htemplated).1⟩⟩

theorem AskedBefore.ne {i j : Nat} (h : C.AskedBefore i j) : i ≠ j := by
  obtain ⟨d, e, hd, he, h⟩ := h
  rintro rfl
  obtain rfl := Option.some.inj (hd.symm.trans he)
  rcases h with ⟨hempty, hne⟩ | ⟨-, hlt⟩
  · exact hne hempty
  · exact Nat.lt_irrefl i hlt

/-- **All that accept a step are listed once, in the order in which they are asked.** -/
theorem lists_findAll (C : Catalog) (keyword text : String) :
    C.Lists keyword text (C.positions keyword text) (C.findAll keyword text) := by
  have hordered : (C.positions keyword text).Pairwise C.AskedBefore := by
    rw [positions_eq]
    exact List.pairwise_map.2 accepted_ordered
  constructor
  case placed =>
    rw [positions_eq, findAll_eq, List.forall₂_map_left_iff, List.forall₂_map_right_iff,
      List.forall₂_same]
    exact fun p hp => (mem_accepted_iff.1 hp).1
  case complete =>
    intro i d hi
    rw [positions_eq, List.mem_map]
    constructor
    · rintro ⟨⟨e, i'⟩, hp, rfl⟩
      obtain ⟨he, haccepts⟩ := mem_accepted_iff.1 hp
      obtain rfl := Option.some.inj (hi.symm.trans he)
      exact haccepts
    · intro haccepts
      exact ⟨(d, i), mem_accepted_iff.2 ⟨hi, haccepts⟩, rfl⟩
  case once => exact hordered.imp AskedBefore.ne
  case ordered => exact hordered

end

/-! ## More definitions -/

section
variable {C D : Catalog} {keyword text : String}

theorem candidates_append :
    (C ++ D).candidates keyword = C.candidates keyword ++ D.candidates keyword :=
  List.filter_append ..

theorem find?_eq_none_iff : C.find? keyword text = none ↔ C.findAll keyword text = [] := by
  rw [find?_eq_head?, List.head?_eq_none_iff]

theorem findAll_eq_nil_iff : C.findAll keyword text = [] ↔
    (C.candidates keyword).find? (·.isExact text) = none ∧
      (C.candidates keyword).find? (·.isTemplated text) = none := by
  rw [findAll, List.append_eq_nil_iff, List.filter_eq_nil_iff, List.filter_eq_nil_iff,
    List.find?_eq_none, List.find?_eq_none]

/-- Definitions that reject a line leave its answer as it is. -/
theorem find?_append_of_rejected (h : D.findAll keyword text = []) :
    (C ++ D).find? keyword text = C.find? keyword text := by
  obtain ⟨hexact, htemplated⟩ := findAll_eq_nil_iff.1 h
  simp only [find?, candidates_append, List.find?_append, hexact, htemplated, Option.or_none]

/-- **Only what neither part answers is without an answer.** -/
theorem find?_append_eq_none_iff : (C ++ D).find? keyword text = none ↔
    C.find? keyword text = none ∧ D.findAll keyword text = [] := by
  rw [find?_eq_none_iff, find?_eq_none_iff, findAll_eq_nil_iff, findAll_eq_nil_iff,
    findAll_eq_nil_iff, candidates_append, List.find?_append, List.find?_append,
    Option.or_eq_none_iff, Option.or_eq_none_iff]
  constructor
  · rintro ⟨⟨hCe, hDe⟩, hCt, hDt⟩
    exact ⟨⟨hCe, hCt⟩, hDe, hDt⟩
  · rintro ⟨⟨hCe, hCt⟩, hDe, hDt⟩
    exact ⟨⟨hCe, hDe⟩, hCt, hDt⟩

theorem mem_findAll_iff {d : StepDefinition} :
    d ∈ C.findAll keyword text ↔ d ∈ C ∧ d.Accepts keyword text := by
  rw [findAll, List.mem_append, List.mem_filter, List.mem_filter, ← and_or_left, candidates,
    List.mem_filter, and_assoc, StepDefinition.accepts_iff]

theorem find?_eq_or : C.find? keyword text =
    ((C.candidates keyword).find? (·.isExact text)).or
      ((C.candidates keyword).find? (·.isTemplated text)) := by
  unfold find?
  split
  · next h => rw [h, Option.some_or]
  · next h => rw [h, Option.none_or]

theorem of_find?_isExact {d : StepDefinition}
    (h : (C.candidates keyword).find? (·.isExact text) = some d) :
    d ∈ C ∧ d.parameters = [] ∧ d.Accepts keyword text := by
  have hexact : d.isExact text = true := by simpa using List.find?_some h
  obtain ⟨hd, hkeyword⟩ := List.mem_filter.1 (List.mem_of_find?_eq_some h)
  exact ⟨hd, (StepDefinition.isExact_iff.1 hexact).1,
    StepDefinition.accepts_iff.2 ⟨hkeyword, .inl hexact⟩⟩

/-- The first round has no answer where no definition without parameters accepts the step. -/
theorem find?_isExact_eq_none_iff : (C.candidates keyword).find? (·.isExact text) = none ↔
    ∀ d ∈ C, d.parameters = [] → ¬ d.Accepts keyword text := by
  simp only [candidates, List.find?_eq_none, List.mem_filter, StepDefinition.accepts_iff]
  constructor
  · rintro h d hd hempty ⟨hkeyword, hexact | htemplated⟩
    · exact h d ⟨hd, hkeyword⟩ hexact
    · exact (StepDefinition.isTemplated_iff.1 htemplated).1 hempty
  · rintro h d ⟨hd, hkeyword⟩ hexact
    exact h d hd (StepDefinition.isExact_iff.1 hexact).1 ⟨hkeyword, .inl hexact⟩

/-- An answer is one of the first round just where it has no parameters. -/
theorem find?_cases {d : StepDefinition} (h : C.find? keyword text = some d) :
    (d.parameters = [] ∧ (C.candidates keyword).find? (·.isExact text) = some d) ∨
      (d.parameters ≠ [] ∧ (C.candidates keyword).find? (·.isExact text) = none ∧
        (C.candidates keyword).find? (·.isTemplated text) = some d) := by
  rw [find?_eq_or, Option.or_eq_some_iff] at h
  rcases h with hexact | ⟨hnone, htemplated⟩
  · exact .inl ⟨(of_find?_isExact hexact).2.1, hexact⟩
  · have hd : d.isTemplated text = true := by simpa using List.find?_some htemplated
    exact .inr ⟨(StepDefinition.isTemplated_iff.1 hd).1, hnone, htemplated⟩

theorem findAll_ne_nil_iff :
    C.findAll keyword text ≠ [] ↔ ∃ d ∈ C, d.Accepts keyword text := by
  simp only [Ne, List.eq_nil_iff_forall_not_mem, not_forall, not_not, mem_findAll_iff]

/-- **What more definitions change.** -/
theorem find?_append_ne_iff : (C ++ D).find? keyword text ≠ C.find? keyword text ↔
    (C.find? keyword text = none ∧ ∃ e ∈ D, e.Accepts keyword text) ∨
      ∃ d, C.find? keyword text = some d ∧ d.parameters ≠ [] ∧
        ∃ e ∈ D, e.parameters = [] ∧ e.Accepts keyword text := by
  cases hC : C.find? keyword text with
  | none =>
    rw [← findAll_ne_nil_iff, ← hC, Ne, hC, find?_append_eq_none_iff]
    simp [hC]
  | some d =>
    simp only [reduceCtorEq, false_and, false_or, Option.some.injEq, exists_eq_left']
    rcases find?_cases hC with ⟨hempty, hexact⟩ | ⟨hparameters, hnone, htemplated⟩
    · have hanswer : (C ++ D).find? keyword text = some d := by
        simp [find?_eq_or, candidates_append, List.find?_append, hexact]
      simp [hanswer, hempty]
    · cases hmore : (D.candidates keyword).find? (·.isExact text) with
      | some e =>
        obtain ⟨he, hempty, haccepts⟩ := of_find?_isExact hmore
        have hanswer : (C ++ D).find? keyword text = some e := by
          simp [find?_eq_or, candidates_append, List.find?_append, hnone, hmore]
        have hne : e ≠ d := by
          rintro rfl
          exact hparameters hempty
        rw [hanswer]
        exact iff_of_true (mt Option.some.inj hne) ⟨hparameters, e, he, hempty, haccepts⟩
      | none =>
        have hanswer : (C ++ D).find? keyword text = some d := by
          simp [find?_eq_or, candidates_append, List.find?_append, hnone, hmore, htemplated]
        rw [hanswer]
        refine iff_of_false (not_not_intro rfl) ?_
        rintro ⟨-, e, he, hempty, haccepts⟩
        exact find?_isExact_eq_none_iff.1 hmore e he hempty haccepts

/-- Definitions that are listed again change no answer. -/
theorem find?_append_of_subset (h : D ⊆ C) :
    (C ++ D).find? keyword text = C.find? keyword text := by
  by_contra hne
  rcases find?_append_ne_iff.1 hne with ⟨hnone, e, he, haccepts⟩ |
    ⟨d, hd, hparameters, e, he, hempty, haccepts⟩
  · exact findAll_ne_nil_iff.2 ⟨e, h he, haccepts⟩ (find?_eq_none_iff.1 hnone)
  · rcases find?_cases hd with ⟨hnil, -⟩ | ⟨-, hnone, -⟩
    · exact hparameters hnil
    · exact find?_isExact_eq_none_iff.1 hnone e (h he) hempty haccepts

end

/-! ## Top theorem -/

/-- **A look-up goes through the catalog in two rounds.**  All definitions that accept a step are
listed, and the first of them answers it.  More definitions give another answer just where there was
none and they accept the step, or where the answer has parameters and one of them is without and has
the text of the step; so definitions that are listed again change nothing. -/
theorem look_up_in_two_rounds (c : Catalog) (keyword text : String) :
    c.Lists keyword text (c.positions keyword text) (c.findAll keyword text) ∧
      c.find? keyword text = (c.findAll keyword text).head? ∧
      (c.find? keyword text = none ↔ c.findAll keyword text = []) ∧
      (∀ more : Catalog, (c ++ more).find? keyword text ≠ c.find? keyword text ↔
        (c.find? keyword text = none ∧ ∃ e ∈ more, e.Accepts keyword text) ∨
          ∃ d, c.find? keyword text = some d ∧ d.parameters ≠ [] ∧
            ∃ e ∈ more, e.parameters = [] ∧ fold e.kind.word = fold keyword ∧
              fold e.pattern = fold text) ∧
      ∀ more : Catalog, more ⊆ c → (c ++ more).find? keyword text = c.find? keyword text := by
  refine ⟨lists_findAll c keyword text, find?_eq_head? c keyword text, find?_eq_none_iff, ?_,
    fun more => find?_append_of_subset⟩
  intro more
  have hexact : ∀ e : StepDefinition, e.parameters = [] ∧ e.Accepts keyword text ↔
      e.parameters = [] ∧ fold e.kind.word = fold keyword ∧ fold e.pattern = fold text := by
    intro e
    refine and_congr_right fun hempty => ?_
    rw [StepDefinition.accepts_iff, StepDefinition.answersTo_iff, ← StepDefinition.matches_iff,
      StepDefinition.Matches, if_pos hempty]
  simp only [find?_append_ne_iff, hexact]

def buyDefinition : StepDefinition :=
  { kind := .action, pattern := "I buy \x7bitem\x7d", owner := "Market", module := "steps",
    method := "buy", parameters := [⟨"str", "item"⟩] }

/-- A definition of the same kind without parameters. -/
def applesDefinition : StepDefinition :=
  { kind := .action, pattern := "i buy apples", owner := "Market", module := "steps",
    method := "apples", parameters := [] }

/-- A catalog that lists a definition twice. -/
def market : Catalog := [buyDefinition, buyDefinition]

/-- Listing the definition once more changes nothing; one without parameters takes its place. -/
theorem market_looked_up :
    market.positions "when" "I buy Apples" = [0, 1] ∧
      market.find? "when" "I buy Apples" = some buyDefinition ∧
      (market ++ [buyDefinition]).find? "when" "I buy Apples" = some buyDefinition ∧
      (market ++ [applesDefinition]).find? "when" "I buy Apples" ≠ some buyDefinition := by
  have hfind : market.find? "when" "I buy Apples" = some buyDefinition := by decide +kernel
  obtain ⟨-, -, -, hmore, hagain⟩ := look_up_in_two_rounds market "when" "I buy Apples"
  refine ⟨by decide +kernel, hfind, ?_, ?_⟩
  · rw [hagain [buyDefinition] (List.cons_subset.2 ⟨List.mem_cons_self, List.nil_subset _⟩), hfind]
  · rw [← hfind]
    refine (hmore [applesDefinition]).2 (.inr ⟨buyDefinition, hfind, by decide, ?_⟩)
    exact ⟨applesDefinition, List.mem_cons_self, rfl, by decide +kernel, by decide +kernel⟩

end Catalog

end Acceptance
