import Acceptance.Proofs.Plan.Calls
import Acceptance.Proofs.Source.Trees
import Acceptance.Source.StepMethods

/-!
# Calls that bind

The call of a step method passes values by position only, behind the object that the method belongs
to.  Such a call binds where every parameter without a default has got a value and no value is left
over.  A step has as many values as its definition has parameters, so it binds but for three things:
a parameter that is only taken by name, a function that makes no room for the object, and one that
is static without being marked with the bare word.

    bodyDefinitions module owner body =
      (bodyMethods owner body).flatMap (·.definitions module)                (bodyDefinitions_eq)
    a step that calls a definition of m binds ↔ m.Callable                           (calls_bind)
-/

namespace Acceptance.Source

open Acceptance.Text

/-! ## Algorithm -/

/-- A function right inside a class. -/
structure Method where
  owner : String
  name : String
  decorators : List Expr
  parameters : Parameters

mutual

/-- The methods of a statement inside a class, or outside of any. -/
def statementMethods (owner : Option String) : Stmt → List Method
  | .classDef name _ body => bodyMethods (some name) body
  | .functionDef name decorators ps _ =>
    match owner with
    | some owner => [⟨owner, name, decorators, ps⟩]
    | none => []
  | .simple => []
  | .compound _ => []

def bodyMethods (owner : Option String) : List Stmt → List Method
  | [] => []
  | s :: ss => statementMethods owner s ++ bodyMethods owner ss

end

/-- Whether a decorator makes a function static: the builtin under its name, or as a member. -/
def Expr.makesStatic : Expr → Bool
  | .name "staticmethod" => true
  | .attribute (.name "builtins") "staticmethod" => true
  | _ => false

/-- What a call passes. -/
inductive Passed where
  /-- The object that a method belongs to, or its class. -/
  | object
  | argument (a : Plan.Argument)
  deriving DecidableEq

/-- The values of a call by position under the names of the parameters that take them. -/
def Parameters.bind? {α : Type} (ps : Parameters) (values : List α) : Option (List (String × α)) :=
  if (ps.rest.isSome || decide (values.length ≤ ps.positional.length)) &&
      (ps.positional.drop values.length).all (!·.isRequired) && ps.nameOnly.all (!·.isRequired) then
    some ((ps.positional.map (·.name)).zip values)
  else none

namespace Method

variable (m : Method)

/-- The definitions of a method. -/
def definitions (module : String) : List StepDefinition :=
  methodDefinitions module m.owner m.name m.decorators m.parameters

/-- Whether a call passes no object; what makes new objects is static without being marked. -/
def isStatic : Bool := m.name == "__new__" || m.decorators.any Expr.makesStatic

/-- Whether the definitions of a method know it as static. -/
def isMarked : Bool := m.decorators.any Expr.isStatic

/-- What a call passes in front of the values of a step. -/
def objects : List Passed := if m.isStatic then [] else [.object]

/-- The call of a method with the values of a step. -/
def call? (as : List Plan.Argument) : Option (List (String × Passed)) :=
  m.parameters.bind? (m.objects ++ as.map .argument)

/-- A method with a place for the object, if it gets one, and none that is filled by name only. -/
structure Callable : Prop where
  byPosition : ∀ q ∈ m.parameters.nameOnly, q.isRequired = false
  object : m.isStatic = false → m.parameters.positional ≠ [] ∨ m.parameters.rest.isSome = true
  marked : m.isStatic = true → m.isMarked = true ∨
    ∀ q ∈ m.parameters.positional, q.isRequired = false

instance : Decidable m.Callable :=
  decidable_of_iff ((∀ q ∈ m.parameters.nameOnly, q.isRequired = false) ∧
      (m.isStatic = false → ¬m.parameters.positional.isEmpty = true ∨
        m.parameters.rest.isSome = true) ∧
      (m.isStatic = true → m.isMarked = true ∨
        ∀ q ∈ m.parameters.positional, q.isRequired = false))
    ⟨fun ⟨h₁, h₂, h₃⟩ => ⟨h₁, fun hs => (h₂ hs).imp_left (mt List.isEmpty_iff.2), h₃⟩,
      fun h => ⟨h.byPosition, fun hs => (h.object hs).imp_left (mt List.isEmpty_iff.1), h.marked⟩⟩

end Method

/-! ## Methods of a source -/

mutual

theorem statementDefinitions_eq (module : String) (owner : Option String) : ∀ s : Stmt,
    statementDefinitions module owner s = (statementMethods owner s).flatMap (·.definitions module)
  | .classDef name _ body => bodyDefinitions_eq module (some name) body
  | .functionDef _ _ _ _ => by
    cases owner with
    | none => rfl
    | some owner => exact (List.append_nil _).symm
  | .simple => rfl
  | .compound _ => rfl

/-- **The definitions of a source are those of its methods.** -/
theorem bodyDefinitions_eq (module : String) (owner : Option String) : ∀ body : List Stmt,
    bodyDefinitions module owner body = (bodyMethods owner body).flatMap (·.definitions module)
  | [] => rfl
  | s :: ss => by
    rw [bodyDefinitions, bodyMethods, List.flatMap_append, statementDefinitions_eq module owner s,
      bodyDefinitions_eq module owner ss]

end

theorem defaultsLast_of_mem_bodyMethods {owner : Option String} {body : List Stmt} {m : Method}
    (h : ∀ s ∈ body, s.Ordered) (hm : m ∈ bodyMethods owner body) :
    defaultsLast m.parameters.positional = true := by
  have hbody : ∀ (ss : List Stmt) (owner : Option String),
      (∀ s ∈ ss, ∀ owner, ∀ m ∈ statementMethods owner s,
        defaultsLast m.parameters.positional = true) →
      ∀ m ∈ bodyMethods owner ss, defaultsLast m.parameters.positional = true := by
    intro ss owner hss m hm
    induction ss with
    | nil => cases hm
    | cons s ss ih =>
      rcases List.mem_append.1 hm with hm | hm
      · exact hss s List.mem_cons_self owner m hm
      · exact ih (fun s hs => hss s (List.mem_cons_of_mem _ hs)) hm
  have hstatement : ∀ s : Stmt, s.Ordered → ∀ owner, ∀ m ∈ statementMethods owner s,
      defaultsLast m.parameters.positional = true := by
    intro s hs
    induction hs with
    | simple => exact nofun
    | classDef _ ih => exact fun _ m hm => hbody _ _ (fun s hs owner m hm => ih s hs owner m hm) m hm
    | functionDef hps =>
      intro owner m hm
      cases owner with
      | none => cases hm
      | some owner =>
        obtain rfl := List.mem_singleton.1 hm
        exact hps
    | compound => exact nofun
  exact hbody body owner (fun s hs => hstatement s (h s hs)) m hm

/-! ## Binding -/

theorem filter_isRequired_eq_nil_iff {ps : List Parameter} :
    ps.filter Parameter.isRequired = [] ↔ ∀ q ∈ ps, q.isRequired = false := by
  simp [List.filter_eq_nil_iff]

/-- The parameters without a default stand in front of the others. -/
theorem exists_required_append {ps : List Parameter} (h : defaultsLast ps = true) :
    ∃ others, ps = ps.filter Parameter.isRequired ++ others ∧
      ∀ q ∈ others, q.isRequired = false := by
  induction ps with
  | nil => exact ⟨[], rfl, nofun⟩
  | cons p ps ih =>
    rw [defaultsLast] at h
    split at h
    · next hp =>
      have hall : ∀ q ∈ p :: ps, q.isRequired = false := by
        simpa [Parameter.isRequired, hp] using h
      exact ⟨p :: ps, by rw [filter_isRequired_eq_nil_iff.2 hall, List.nil_append], hall⟩
    · next hp =>
      obtain ⟨others, hps, hothers⟩ := ih h
      have hreq : p.isRequired = true := by simpa [Parameter.isRequired] using hp
      exact ⟨others, by rw [List.filter_cons_of_pos hreq, List.cons_append, ← hps], hothers⟩

section
variable {α : Type} {ps : Parameters} {required others : List Parameter}
  (hpositional : ps.positional = required ++ others)
  (hrequired : ∀ q ∈ required, q.isRequired = true) (hothers : ∀ q ∈ others, q.isRequired = false)

include hpositional hrequired hothers

/-- A call binds with a value for each parameter without a default and none left over. -/
theorem bind?_isSome_iff (values : List α) : (ps.bind? values).isSome = true ↔
    (ps.rest.isSome = true ∨ values.length ≤ ps.positional.length) ∧
      required.length ≤ values.length ∧ ∀ q ∈ ps.nameOnly, q.isRequired = false := by
  have hdrop : (∀ q ∈ ps.positional.drop values.length, q.isRequired = false) ↔
      required.length ≤ values.length := by
    rw [hpositional, List.drop_append]
    constructor
    · intro h
      by_contra hlt
      have hne : required.drop values.length ≠ [] := by
        rw [Ne, List.drop_eq_nil_iff]
        exact hlt
      obtain ⟨q, hq⟩ := List.exists_mem_of_ne_nil _ hne
      have := h q (List.mem_append_left _ hq)
      rw [hrequired q (List.mem_of_mem_drop hq)] at this
      cases this
    · intro hle q hq
      rw [List.drop_eq_nil_iff.2 hle, List.nil_append] at hq
      exact hothers q (List.mem_of_mem_drop hq)
  rw [← hdrop]
  unfold Parameters.bind?
  split
  · next h => simpa [and_assoc] using h
  · next h => simpa [and_assoc] using h

end

/-- Values past the end of what they are paired with are left over. -/
theorem zip_append_left {α β : Type} {xs : List α} {ys : List β} (others : List α)
    (h : ys.length = xs.length) : (xs ++ others).zip ys = xs.zip ys := by
  have hnil : (xs ++ others).zip (ys ++ []) = xs.zip ys ++ others.zip [] := List.zip_append h.symm
  simpa using hnil

namespace Method

variable {m : Method}

theorem isMarked_of_not_isStatic (h : m.isStatic = false) : m.isMarked = false := by
  rw [Bool.eq_false_iff] at h ⊢
  refine fun hmarked => h ?_
  obtain ⟨e, he, hs⟩ := List.any_eq_true.1 hmarked
  have hmakes : e.makesStatic = true := by
    unfold Expr.isStatic at hs
    split at hs
    · rfl
    · cases hs
  rw [isStatic, List.any_eq_true.2 ⟨e, he, hmakes⟩, Bool.or_true]

/-- A step has values for the required parameters but the object's, and for those by name. -/
theorem length_requiredParameters (isMarked : Bool) (ps : Parameters) :
    (requiredParameters isMarked ps).length =
      ((ps.positional.filter Parameter.isRequired).length - if isMarked then 0 else 1) +
        (ps.nameOnly.filter Parameter.isRequired).length := by
  unfold requiredParameters
  cases isMarked <;> simp

section
variable {as : List Plan.Argument}
  (hdefaults : defaultsLast m.parameters.positional = true)
  (hlen : as.length = (requiredParameters m.isMarked m.parameters).length)

include hdefaults hlen

/-- **A call with a value for each recorded parameter.** -/
theorem call?_isSome_iff : (m.call? as).isSome = true ↔ m.Callable := by
  obtain ⟨others, hpositional, hothers⟩ := exists_required_append hdefaults
  rw [length_requiredParameters] at hlen
  generalize hreq : m.parameters.positional.filter Parameter.isRequired = required at hpositional hlen
  have hrequired : ∀ q ∈ required, q.isRequired = true := by
    rw [← hreq]
    exact fun q hq => (List.mem_filter.1 hq).2
  have hnone : (∀ q ∈ m.parameters.positional, q.isRequired = false) ↔ required.length = 0 := by
    rw [← hreq, List.length_eq_zero_iff, filter_isRequired_eq_nil_iff]
  have hnames : (∀ q ∈ m.parameters.nameOnly, q.isRequired = false) ↔
      (m.parameters.nameOnly.filter Parameter.isRequired).length = 0 := by
    rw [List.length_eq_zero_iff, filter_isRequired_eq_nil_iff]
  have hroom : m.parameters.positional.length = required.length + others.length := by
    rw [hpositional, List.length_append]
  rw [call?, bind?_isSome_iff hpositional hrequired hothers, List.length_append, List.length_map]
  constructor
  · rintro ⟨hfits, henough, hbyName⟩
    rw [hnames.1 hbyName, Nat.add_zero] at hlen
    refine ⟨hbyName, fun hobject => ?_, fun hstatic => ?_⟩
    · refine hfits.symm.imp_left fun hle => ?_
      simp only [objects, hobject, Bool.false_eq_true, if_false, List.length_singleton] at hle
      exact List.ne_nil_of_length_pos (by omega)
    · cases hmarked : m.isMarked with
      | true => exact .inl rfl
      | false =>
        -- one value too few unless nothing is required
        rw [objects, if_pos hstatic, List.length_nil, hlen, hmarked] at henough
        exact .inr (hnone.2 (by simp at henough; omega))
  · rintro ⟨hbyName, hobject, hmarked⟩
    rw [hnames.1 hbyName, Nat.add_zero] at hlen
    cases hstatic : m.isStatic with
    | true =>
      have hfirst : as.length = required.length := by
        rcases hmarked hstatic with hm | hm
        · rw [hlen, hm]
          rfl
        · have := hnone.1 hm
          omega
      simp only [objects, hstatic, if_true, List.length_nil]
      exact ⟨.inr (by omega), by omega, hbyName⟩
    | false =>
      rw [isMarked_of_not_isStatic hstatic] at hlen
      have hplace : m.parameters.rest.isSome = true ∨ 1 ≤ m.parameters.positional.length :=
        (hobject hstatic).symm.imp_right List.length_pos_iff.2
      simp only [objects, hstatic, Bool.false_eq_true, if_false, List.length_singleton] at hlen ⊢
      exact ⟨hplace.imp_right (by omega), by omega, hbyName⟩

/-- **Each value of a step goes to the parameter it is recorded for.** -/
theorem call?_values {bound : List (String × Passed)} (h : m.call? as = some bound) :
    bound.drop m.objects.length = ((requiredParameters m.isMarked m.parameters).map (·.name)).zip
      (as.map .argument) := by
  have hcallable := (call?_isSome_iff hdefaults hlen).1 (by rw [h]; rfl)
  obtain ⟨others, hpositional, -⟩ := exists_required_append hdefaults
  have hnames : m.parameters.nameOnly.filter Parameter.isRequired = [] :=
    filter_isRequired_eq_nil_iff.2 hcallable.byPosition
  have hdeclared : (requiredParameters m.isMarked m.parameters).map (·.name) =
      ((m.parameters.positional.filter Parameter.isRequired).drop
        (if m.isMarked then 0 else 1)).map (·.name) := by
    simp only [requiredParameters, hnames, List.append_nil, List.map_map]
    cases m.isMarked <;> rfl
  have hbound : bound.drop m.objects.length =
      ((m.parameters.positional.drop m.objects.length).map (·.name)).zip (as.map .argument) := by
    unfold call? Parameters.bind? at h
    split at h
    · rw [← Option.some.inj h, List.zip_eq_zipWith, List.drop_zipWith, List.drop_left, List.map_drop]
      rfl
    · cases h
  rw [length_requiredParameters, hnames, List.length_nil, Nat.add_zero] at hlen
  rw [hbound, hdeclared]
  have hrequired : ∀ q ∈ m.parameters.positional.filter Parameter.isRequired,
      q.isRequired = true := fun q hq => (List.mem_filter.1 hq).2
  generalize m.parameters.positional.filter Parameter.isRequired = required
    at hpositional hlen hrequired ⊢
  cases required with
  | nil =>
    obtain rfl := List.eq_nil_of_length_eq_zero (show as.length = 0 by simpa using hlen)
    simp
  | cons q required =>
    have hsame : m.objects.length = if m.isMarked then 0 else 1 := by
      cases hstatic : m.isStatic with
      | true =>
        have hq : q ∈ m.parameters.positional := hpositional ▸ List.mem_cons_self
        have hmarked : m.isMarked = true := by
          refine (hcallable.marked hstatic).resolve_right fun hnone => ?_
          exact absurd (hrequired q List.mem_cons_self) (by simp [hnone q hq])
        rw [objects, if_pos hstatic, hmarked]
        rfl
      | false =>
        rw [isMarked_of_not_isStatic hstatic, objects, hstatic]
        rfl
    rw [hsame, hpositional, List.drop_append_of_le_length (by split <;> simp), List.map_append]
    exact zip_append_left _ (by simpa using hlen)

end

/-- A step that calls a definition of a method has a value for each recorded parameter. -/
theorem definition_of_calls {module : String} {d : StepDefinition} (hd : d ∈ m.definitions module)
    {s : Plan.Step} (h : s.Calls d) : s.owner = m.owner ∧ s.method = m.name ∧
      d.parameters = requiredParameters m.isMarked m.parameters ∧
      s.arguments.length = (requiredParameters m.isMarked m.parameters).length := by
  obtain ⟨r, -, rfl⟩ := List.mem_map.1 hd
  exact ⟨h.owner, h.method, rfl, h.arity⟩

end Method

/-! ## Top theorem -/

/-- **Steps bind to callable methods.**  The definitions of a source are those of its methods.  A
step that calls one of them binds to the method's parameters just where the method is callable, and
then each value goes to the parameter that it is recorded for. -/
theorem calls_bind {text : String} {body : List Stmt} (hread : readSource text = some body)
    (module : String) {c : Catalog} {fileName : String} {d : Gherkin.Document} {p : Plan}
    (h : Plan.convert c fileName d = .ok p) :
    analyze text module = some ((bodyMethods none body).flatMap (·.definitions module)) ∧
    ∀ m ∈ bodyMethods none body, ∀ definition ∈ m.definitions module,
      List.Forall₂ (fun (x : Plan.PlanLine) (s : Plan.Step) =>
        c.find? x.line.kind.word x.line.line.text = some definition →
          s.owner = m.owner ∧ s.method = m.name ∧
          ((m.call? s.arguments).isSome = true ↔ m.Callable) ∧
          ∀ bound, m.call? s.arguments = some bound → bound.drop m.objects.length =
            (definition.parameters.map (·.name)).zip (s.arguments.map .argument))
        (Plan.documentLines d) p.allSteps := by
  refine ⟨by rw [analyze, hread, Option.map_some, bodyDefinitions_eq], fun m hm definition hd => ?_⟩
  have hdefaults := defaultsLast_of_mem_bodyMethods (ordered_of_readSource hread) hm
  rw [Plan.allSteps_of_convert h, List.forall₂_map_right_iff, List.forall₂_same]
  intro x hx hfind
  cases d with
  | none => cases hx
  | some f =>
    have hcalls := Plan.step_calls hfind (Plan.line_fault_of_convert h hx)
    obtain ⟨howner, hmethod, hparameters, hlen⟩ := Method.definition_of_calls hd hcalls
    rw [hparameters]
    exact ⟨howner, hmethod, Method.call?_isSome_iff hdefaults hlen,
      fun bound hbound => Method.call?_values hdefaults hlen hbound⟩

/-- A static method of all kinds of parameters. -/
def tillSource : String :=
  "class Till:\n @staticmethod\n @when('pay \x7bsum\x7d in \x7bcoin\x7d')\n" ++
    " def pay(sum, /, coin, tip=1, *rest, loud=1): pass\n"

def payDefinition : StepDefinition :=
  { kind := .action, pattern := "pay \x7bsum\x7d in \x7bcoin\x7d", owner := "Till",
    module := "till", method := "pay", parameters := [⟨"", "sum"⟩, ⟨"", "coin"⟩] }

def payScenario : Gherkin.Scenario :=
  { tags := [], keyword := "Scenario", name := "Pay", description := "", examples := [],
    steps := [⟨"When ", .kind .action, "pay 5 in copper", none⟩] }

def payFeature : Gherkin.Feature :=
  { tags := [], language := "en", keyword := "Feature", name := "Paying", description := "",
    children := [.scenario payScenario] }

theorem payFeature_binds : ∃ body p m s, readSource tillSource = some body ∧
    Plan.convert [payDefinition] "till" (some payFeature) = .ok p ∧
    m ∈ bodyMethods none body ∧ p.allSteps = [s] ∧ s.method = m.name ∧
    (m.call? s.arguments).isSome = true := by
  have hsource : (readSource tillSource).map (fun body => (bodyDefinitions "till" none body,
      (bodyMethods none body).all fun m => decide m.Callable)) =
        some ([payDefinition], true) := by decide +kernel
  have hc : Plan.convert [payDefinition] "till" (some payFeature) =
      .ok (Plan.plan [payDefinition] "till" payFeature) :=
    Plan.convert_some_eq_ok_iff.2 ⟨by decide +kernel, rfl⟩
  have hfind : Catalog.find? [payDefinition] StepKind.action.word "pay 5 in copper" =
      some payDefinition := by decide +kernel
  obtain ⟨body, hread, hbody⟩ := Option.map_eq_some_iff.1 hsource
  obtain ⟨hdefinitions, hcallable⟩ := Prod.mk.inj hbody
  rw [bodyDefinitions_eq] at hdefinitions
  obtain ⟨-, h⟩ := calls_bind hread "till" hc
  obtain ⟨m, hm, hd⟩ := List.mem_flatMap.1 (hdefinitions ▸ List.mem_cons_self : payDefinition ∈ _)
  obtain ⟨s, ss, hs, hss, hsteps⟩ := List.forall₂_cons_left_iff.1 (h m hm _ hd)
  obtain rfl := List.forall₂_nil_left_iff.1 hss
  obtain ⟨-, hname, hbinds, -⟩ := hs hfind
  exact ⟨body, _, m, s, hread, hc, hm, hsteps, hname,
    hbinds.2 (of_decide_eq_true (List.all_eq_true.1 hcallable m hm))⟩

/-- A method that takes its value by name. -/
def namedSource : String :=
  "class Till:\n    @when('I pay \x7bamount\x7d')\n    def pay(self, *, amount):\n        pass\n"

def namedDefinition : StepDefinition :=
  { kind := .action, pattern := "I pay \x7bamount\x7d", owner := "Till", module := "till",
    method := "pay", parameters := [⟨"", "amount"⟩] }

def namedScenario : Gherkin.Scenario :=
  { tags := [], keyword := "Scenario", name := "Pay", description := "", examples := [],
    steps := [⟨"When ", .kind .action, "I pay 5", none⟩] }

def namedFeature : Gherkin.Feature :=
  { tags := [], language := "en", keyword := "Feature", name := "Paying", description := "",
    children := [.scenario namedScenario] }

/-- What the step of `namedFeature` passes. -/
def namedStep : Plan.Step :=
  { keyword := "When", text := "I pay 5", owner := "Till", method := "pay",
    arguments := [⟨"5", .literal "5"⟩], table := none }

/-- The call of a method that takes its value by name does not bind. -/
theorem namedFeature_does_not_bind : ∃ body m p, readSource namedSource = some body ∧
    m ∈ bodyMethods none body ∧ analyze namedSource "till" = some [namedDefinition] ∧
    namedDefinition ∈ m.definitions "till" ∧
    Plan.convert [namedDefinition] "till" (some namedFeature) = .ok p ∧
    p.allSteps = [namedStep] ∧ namedStep.owner = m.owner ∧ namedStep.method = m.name ∧
    m.call? namedStep.arguments = none := by
  have hsource : (readSource namedSource).map (fun body => (bodyDefinitions "till" none body,
      (bodyMethods none body).all fun m =>
        decide (m.owner = "Till" ∧ m.name = "pay" ∧ m.call? namedStep.arguments = none))) =
        some ([namedDefinition], true) := by decide +kernel
  have hc : Plan.convert [namedDefinition] "till" (some namedFeature) =
      .ok (Plan.plan [namedDefinition] "till" namedFeature) :=
    Plan.convert_some_eq_ok_iff.2 ⟨by decide +kernel, rfl⟩
  obtain ⟨body, hread, hbody⟩ := Option.map_eq_some_iff.1 hsource
  obtain ⟨hdefinitions, hunbound⟩ := Prod.mk.inj hbody
  have hanalyze : analyze namedSource "till" = some [namedDefinition] := by
    rw [analyze, hread, Option.map_some, hdefinitions]
  rw [bodyDefinitions_eq] at hdefinitions
  obtain ⟨m, hm, hd⟩ := List.mem_flatMap.1 (hdefinitions ▸ List.mem_cons_self : namedDefinition ∈ _)
  obtain ⟨howner, hname, hnone⟩ := of_decide_eq_true (List.all_eq_true.1 hunbound m hm)
  exact ⟨body, m, _, hread, hm, hanalyze, hd, hc, by decide +kernel, howner.symm, hname.symm, hnone⟩

end Acceptance.Source
