import Acceptance.Proofs.Plan.DocumentOrder
import Acceptance.Proofs.Plan.LegalNames

/-!
# Names given in turn

A name that is taken gives way to itself with 2 behind it, then with 3, and so on.  The search ends
since a taken name is passed at each turn and no two of the names to try are the same; where it
ends is the first of them that is free.  A name that is given is taken from then on, and nothing
else is; so no two of the names given in turn are the same, whatever names were asked for.

    Search name taken (.start name) s ↔ s = unique name taken                    (search_start_iff)
    InTurn taken names (uniqueFrom taken names)                                (inTurn_uniqueFrom)
    InTurn taken names given → given.Nodup, none of them in taken                  (InTurn.nodup)
-/

namespace Acceptance.Plan

open Acceptance.Text

/-! ## Algorithm -/

/-- A name that is tried, and the number that goes behind the name where it is taken. -/
structure Trying where
  candidate : String
  counter : Nat
  deriving Repr, DecidableEq

/-- The name itself is tried first. -/
def Trying.start (name : String) : Trying := ⟨name, 2⟩

def Trying.next (name : String) (t : Trying) : Trying :=
  ⟨name ++ Decimal.text t.counter, t.counter + 1⟩

/-- What a search for a name ends with: a candidate that is free is the result, and the search goes
on behind one that is taken. -/
inductive Search (name : String) (taken : List String) : Trying → String → Prop
  | free {t : Trying} : t.candidate ∉ taken → Search name taken t t.candidate
  | next {t : Trying} {s : String} : t.candidate ∈ taken → Search name taken (t.next name) s →
      Search name taken t s

/-- The first of `name`, `name2`, `name3`, … that is not taken. -/
def FirstFree (name : String) (taken : List String) (s : String) : Prop :=
  ∃ n, s = numbered name n ∧ s ∉ taken ∧ ∀ i, i < n → numbered name i ∈ taken

/-- The names given for some names one after the other: each is the first free one, and it alone is
taken in addition from then on. -/
inductive InTurn : List String → List String → List String → Prop
  | nil {taken : List String} : InTurn taken [] []
  | cons {taken names given : List String} {name s : String} : FirstFree name taken s →
      InTurn (s :: taken) names given → InTurn taken (name :: names) (s :: given)

/-- The methods of a plan are names given in turn: those of the scenarios as the scenarios stand in
the document, those of the stubs as the stubs stand in the plan. -/
structure MethodsInTurn (d : Gherkin.Document) (p : Plan) : Prop where
  scenarios : ∃ given, given.Perm (p.scenarios.map (·.method)) ∧
    InTurn [] ((scenariosOf (childrenOf d)).map scenarioName) given
  stubs : InTurn [] (p.stubs.map fun s => stubName s.text) (p.stubs.map (·.method))

/-! ## Searches -/

section
variable {name s : String} {taken : List String}

theorem firstFree_unique (name : String) (taken : List String) :
    FirstFree name taken (unique name taken) := by
  obtain ⟨n, hn, hfree, hbefore⟩ := unique_spec name taken
  exact ⟨n, hn, hn ▸ hfree, hbefore⟩

theorem search_of_firstFree (h : FirstFree name taken s) : Search name taken (.start name) s := by
  obtain ⟨n, rfl, hfree, hbefore⟩ := h
  -- `k` turns before the end, the candidate is the name with the number `n - k`
  have hend : ∀ k i, i + k = n → Search name taken ⟨numbered name i, i + 2⟩ (numbered name n) := by
    intro k
    induction k with
    | zero =>
      intro i hi
      obtain rfl : i = n := hi
      exact .free hfree
    | succ k ih =>
      intro i hi
      exact .next (hbefore i (by omega)) (ih (i + 1) (by omega))
  exact hend n 0 (by omega)

/-- A search ends with one name. -/
theorem Search.unique {t : Trying} {s' : String} (h : Search name taken t s)
    (h' : Search name taken t s') : s = s' := by
  induction h with
  | free hfree =>
    cases h' with
    | free _ => rfl
    | next htaken _ => exact absurd htaken hfree
  | next htaken _ ih =>
    cases h' with
    | free hfree => exact absurd htaken hfree
    | next _ hnext => exact ih hnext

/-- **The search ends**, and it ends with the unique name. -/
theorem search_start_iff : Search name taken (.start name) s ↔ s = unique name taken := by
  have hunique := search_of_firstFree (firstFree_unique name taken)
  constructor
  · intro h
    exact h.unique hunique
  · rintro rfl
    exact hunique

/-- Taken names count once, in whatever order. -/
theorem FirstFree.congr {taken' : List String} (h : FirstFree name taken s)
    (hsame : ∀ m, m ∈ taken ↔ m ∈ taken') : FirstFree name taken' s := by
  obtain ⟨n, hn, hfree, hbefore⟩ := h
  refine ⟨n, hn, ?_, ?_⟩
  · rwa [← hsame]
  · intro i hi
    rw [← hsame]
    exact hbefore i hi

theorem FirstFree.not_mem (h : FirstFree name taken s) : s ∉ taken := by
  obtain ⟨-, -, hfree, -⟩ := h
  exact hfree

end

/-! ## Names in turn -/

section
variable {taken names given : List String}

theorem inTurn_uniqueFrom (taken names : List String) :
    InTurn taken names (uniqueFrom taken names) := by
  induction names generalizing taken with
  | nil => exact .nil
  | cons name names ih => exact .cons (firstFree_unique name taken) (ih _)

/-- **Names given in turn differ** from each other and from those taken before. -/
theorem InTurn.nodup (h : InTurn taken names given) :
    given.Nodup ∧ ∀ s ∈ given, s ∉ taken := by
  induction h with
  | nil => exact ⟨List.nodup_nil, nofun⟩
  | cons hfirst _ ih =>
    obtain ⟨hnodup, hapart⟩ := ih
    refine ⟨List.nodup_cons.2 ⟨?_, hnodup⟩, ?_⟩
    · intro hmem
      exact hapart _ hmem List.mem_cons_self
    · intro m hm
      rcases List.mem_cons.1 hm with rfl | hm
      · exact hfirst.not_mem
      · intro htaken
        exact hapart m hm (List.mem_cons_of_mem _ htaken)

/-- Names given behind others. -/
theorem InTurn.append {names' given' : List String} (h : InTurn taken names given)
    (h' : InTurn (given.reverse ++ taken) names' given') :
    InTurn taken (names ++ names') (given ++ given') := by
  induction h with
  | nil => exact h'
  | cons hfirst _ ih =>
    refine .cons hfirst (ih ?_)
    rwa [List.reverse_cons, List.append_assoc, List.singleton_append] at h'

end

/-! ## Methods -/

section
variable {c : Catalog} {stubs : List Stub} {taken : List String}

theorem inTurn_one (s : Gherkin.Scenario) : InTurn taken [scenarioName s]
    [(planScenario c stubs (unique (scenarioName s) taken) s).method] :=
  .cons (firstFree_unique _ _) .nil

theorem inTurn_planScenarios (ss : List Gherkin.Scenario) : InTurn taken (ss.map scenarioName)
    ((planScenarios c stubs taken ss).map (·.method)) := by
  induction ss generalizing taken with
  | nil => exact .nil
  | cons s ss ih => exact (inTurn_one s).append ih

theorem inTurn_planChildren (c : Catalog) (stubs : List Stub) (taken : List String)
    (children : List Gherkin.Child) : InTurn taken ((scenariosOf children).map scenarioName)
      (((planChildren c stubs taken children).flatMap Planned.scenarios).map (·.method)) := by
  induction children generalizing taken with
  | nil => exact .nil
  | cons child rest ih =>
    cases child with
    | background b => exact ih taken
    | scenario s => exact (inTurn_one s).append (ih _)
    | rule r =>
      have hrule : InTurn taken ((ruleScenarios r).map scenarioName)
          ((planScenarios c stubs taken (ruleScenarios r)).map (·.method)) :=
        inTurn_planScenarios (ruleScenarios r)
      have hall := hrule.append (ih _)
      rw [← List.map_append, ← List.map_append] at hall
      exact hall

/-- A stub is named behind those that are there. -/
theorem inTurn_add {stubs : List Stub}
    (h : InTurn [] (stubs.map fun s => stubName s.text) (stubs.map (·.method)))
    (l : Occurrence) : InTurn [] ((Stub.add stubs l).map fun s => stubName s.text)
      ((Stub.add stubs l).map (·.method)) := by
  unfold Stub.add
  split
  · exact h
  · rw [List.map_append, List.map_append]
    refine h.append (.cons ?_ .nil)
    refine (firstFree_unique _ _).congr ?_
    intro m
    rw [List.append_nil, List.mem_reverse]

theorem inTurn_collect (ls : List Occurrence) :
    InTurn [] ((Stub.collect c ls).map fun s => stubName s.text)
      ((Stub.collect c ls).map (·.method)) := by
  have hfold : ∀ (ls : List Occurrence) (stubs : List Stub),
      InTurn [] (stubs.map fun s => stubName s.text) (stubs.map (·.method)) →
      InTurn [] ((ls.foldl Stub.add stubs).map fun s => stubName s.text)
        ((ls.foldl Stub.add stubs).map (·.method)) := by
    intro ls
    induction ls with
    | nil =>
      intro stubs h
      exact h
    | cons l ls ih =>
      intro stubs h
      exact ih _ (inTurn_add h l)
  exact hfold _ [] .nil

end

theorem methodsInTurn_of_convert {c : Catalog} {fileName : String} {d : Gherkin.Document} {p : Plan}
    (h : convert c fileName d = .ok p) : MethodsInTurn d p := by
  cases d with
  | none =>
    obtain rfl := Except.ok.inj h
    exact ⟨⟨[], .refl _, .nil⟩, .nil⟩
  | some f =>
    obtain ⟨-, rfl⟩ := convert_some_eq_ok_iff.1 h
    refine ⟨⟨_, ?_, inTurn_planChildren c (stubsOf c f) [] f.children⟩,
      inTurn_collect (allOccurrences f)⟩
    exact (perm_gather_scenarios _).symm.map _

/-! ## Top theorem -/

/-- **Names in turn.**  The search for a name ends, with the first of the name and its numbered
forms that is not taken; names given in turn are the first free ones, each taken alone from then
on, and differ from each other and from those taken before; and so are the methods of the
scenarios and of the stubs named. -/
theorem names_in_turn (name : String) (taken names : List String) :
    (∀ s, Search name taken (.start name) s ↔ s = unique name taken) ∧
    FirstFree name taken (unique name taken) ∧
    InTurn taken names (uniqueFrom taken names) ∧
    (uniqueFrom taken names).Nodup ∧ (∀ s ∈ uniqueFrom taken names, s ∉ taken) ∧
    ∀ c fileName d p, convert c fileName d = .ok p → MethodsInTurn d p := by
  have hturn := inTurn_uniqueFrom taken names
  obtain ⟨hnodup, hapart⟩ := hturn.nodup
  refine ⟨fun s => search_start_iff, firstFree_unique name taken, hturn, hnodup, hapart, ?_⟩
  intro c fileName d p h
  exact methodsInTurn_of_convert h

/-- A scenario without steps. -/
def bareScenario (name : String) : Gherkin.Scenario :=
  { tags := [], keyword := "Scenario", name, description := "", steps := [], examples := [] }

/-- Scenarios of one name, and one whose name is a numbered form of it. -/
def sameFeature : Gherkin.Feature :=
  { tags := [], language := "en", keyword := "Feature", name := "Same", description := "",
    children := [.scenario (bareScenario "same"), .scenario (bareScenario "Same 2"),
      .scenario (bareScenario "Same"), .scenario (bareScenario "same-2")] }

theorem sameFeature_names : ∃ p, convert [] "same" (some sameFeature) = .ok p ∧
    MethodsInTurn (some sameFeature) p ∧
    p.scenarios.map (·.method) = ["Same", "Same2", "Same3", "Same22"] ∧
    Search "Same" ["Same2", "Same"] (.start "Same") "Same3" ∧
    "Same22" ∉ ["Same3", "Same2", "Same"] := by
  have hc : convert [] "same" (some sameFeature) = .ok (plan [] "same" sameFeature) :=
    convert_some_eq_ok_iff.2 ⟨by decide +kernel, rfl⟩
  have hthird : unique "Same" ["Same2", "Same"] = "Same3" := by decide +kernel
  have hfourth : "Same22" ∈ uniqueFrom ["Same3", "Same2", "Same"] ["Same2"] := by decide +kernel
  obtain ⟨hsearch, -⟩ := names_in_turn "Same" ["Same2", "Same"] []
  obtain ⟨-, -, -, -, hapart, hmethods⟩ :=
    names_in_turn "Same2" ["Same3", "Same2", "Same"] ["Same2"]
  refine ⟨_, hc, hmethods _ _ _ _ hc, by decide +kernel, ?_, hapart _ hfourth⟩
  exact (hsearch "Same3").2 hthird.symm

end Acceptance.Plan
