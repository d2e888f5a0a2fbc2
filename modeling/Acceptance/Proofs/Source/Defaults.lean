import Acceptance.Proofs.Plan.FirstFault
import Acceptance.Proofs.Source.Binding
import Acceptance.Proofs.Step.Splits

/-!
# Parameters with defaults

A call may pass a value to a parameter with a default, but a step definition records only the
parameters that a call has to supply, and a step must supply just as many values.  So the defaulted
parameters of a step method are for other callers: where the pattern of the method has a placeholder
for one of them, the lines that it matches are found and then stop the conversion.  A method that
requires nothing is looked up by the text of its pattern, placeholders included.

    m.Takes k → as.length = k → (m.call? as).isSome = true                   (call?_isSome_of_takes)
    m.Takes k → d.parameters.length = m.recordedCount                           (length_parameters)
    d is the only definition of the catalog, k the number of its placeholders →
      OnlyDefinition m d k                                                          (onlyDefinition)
-/

namespace Acceptance.Source

open Acceptance.Text

/-! ## Algorithm -/

namespace Method

variable (m : Method)

/-- The positional parameters behind the object. -/
def valueParameters : List Parameter := m.parameters.positional.drop m.objects.length

/-- The number of values that a call has to supply by position. -/
def requiredCount : Nat := (m.valueParameters.filter Parameter.isRequired).length

/-- The number of them that a definition records: the first one of a static function stands for the
object unless the function is marked with the bare word. -/
def recordedCount : Nat :=
  m.requiredCount - if m.isStatic && !m.isMarked then 1 else 0

/-- A method that takes so many values by position. -/
structure Takes (k : Nat) : Prop where
  byPosition : ∀ q ∈ m.parameters.nameOnly, q.isRequired = false
  enough : m.requiredCount ≤ k
  room : k ≤ m.valueParameters.length

instance (k : Nat) : Decidable (m.Takes k) :=
  decidable_of_iff ((∀ q ∈ m.parameters.nameOnly, q.isRequired = false) ∧
      m.requiredCount ≤ k ∧ k ≤ m.valueParameters.length)
    ⟨fun ⟨h₁, h₂, h₃⟩ => ⟨h₁, h₂, h₃⟩, fun h => ⟨h.byPosition, h.enough, h.room⟩⟩

end Method

/-- A line without a table, of the kind of a definition, whose text the definition's pattern
matches. -/
structure Asks (l : Plan.Occurrence) (d : StepDefinition) : Prop where
  kind : l.kind = d.kind
  table : l.line.table = none
  accepts : Pattern.accepts d.pattern l.line.text = true

/-- What becomes of the lines that ask for a definition where the catalog has no other one, `k`
being the number of placeholders in its pattern. -/
structure OnlyDefinition (m : Method) (d : StepDefinition) (k : Nat) : Prop where
  /-- A call with a value for each placeholder is valid. -/
  binds : ∀ as : List Plan.Argument, as.length = k → (m.call? as).isSome = true
  /-- A line is answered unless nothing is recorded and its text is not the pattern itself. -/
  resolved : ∀ l, Asks l d → l.resolution? [d] =
    if m.recordedCount = 0 ∧ fold d.pattern ≠ fold l.line.text then none
    else some ⟨d, Plan.capturedTexts d l.line.text⟩
  /-- A line that is answered is at fault unless each placeholder has a recorded parameter. -/
  fault : ∀ l stubs, Asks l d → (l.trial [d] stubs).fault =
    if (l.resolution? [d]).isNone = true ∨ m.recordedCount = k then none
    else some (.arity l.keyword l.line.text d.qualifiedMethod m.recordedCount k)
  /-- Where each has one, the lines call the method, -/
  calls : m.recordedCount = k → ∀ fileName f p, Plan.convert [d] fileName (some f) = .ok p →
    List.Forall₂ (fun (x : Plan.PlanLine) (s : Plan.Step) => Asks x.line d →
      s.Calls d ∧ (m.call? s.arguments).isSome = true) (Plan.planLines f) p.allSteps
  /-- and no conversion stops at one of them, nor at one that is not answered. -/
  passes : ∀ fileName f e, Plan.convert [d] fileName (some f) = .error e →
    ∃ spot ∈ Plan.spots f, spot.fault? [d] = some e ∧
      ∀ l, Asks l d → (l.resolution? [d]).isNone = true ∨ m.recordedCount = k → spot ≠ .call l
  /-- Where some have none, no feature with an answered line converts. -/
  stops : m.recordedCount ≠ k → ∀ fileName f,
    (∃ l ∈ Plan.allOccurrences f, Asks l d ∧ (l.resolution? [d]).isSome = true) →
    ∃ e, Plan.convert [d] fileName (some f) = .error e

/-! ## Calls -/

/-- The method behind the only definition of a source. -/
theorem exists_method {text module : String} {d : StepDefinition} {p : Method → Bool}
    (h : (readSource text).map (fun body =>
      (bodyDefinitions module none body, (bodyMethods none body).all p)) = some ([d], true)) :
    ∃ body m, readSource text = some body ∧ m ∈ bodyMethods none body ∧
      d ∈ m.definitions module ∧ p m = true := by
  obtain ⟨body, hread, hbody⟩ := Option.map_eq_some_iff.1 h
  obtain ⟨hdefinitions, hmethods⟩ := Prod.mk.inj hbody
  rw [bodyDefinitions_eq] at hdefinitions
  obtain ⟨m, hm, hd⟩ := List.mem_flatMap.1 (hdefinitions ▸ List.mem_cons_self : d ∈ _)
  exact ⟨body, m, hread, hm, hd, List.all_eq_true.1 hmethods m hm⟩

section
variable {m : Method} {module : String} {d : StepDefinition} {k : Nat}

/-- The object takes the first of the parameters without a default, if there is one. -/
theorem requiredCount_eq (hdefaults : defaultsLast m.parameters.positional = true) :
    m.requiredCount =
      (m.parameters.positional.filter Parameter.isRequired).length - m.objects.length := by
  obtain ⟨others, hsplit, hothers⟩ := exists_required_append hdefaults
  have hrequired : ∀ q ∈ m.parameters.positional.filter Parameter.isRequired, q.isRequired = true :=
    fun q hq => (List.mem_filter.1 hq).2
  rw [Method.requiredCount, Method.valueParameters]
  generalize m.parameters.positional.filter Parameter.isRequired = required at hsplit hrequired
  rw [hsplit, List.drop_append, List.filter_append,
    List.filter_eq_self.2 fun q hq => hrequired q (List.mem_of_mem_drop hq),
    filter_isRequired_eq_nil_iff.2 fun q hq => hothers q (List.mem_of_mem_drop hq),
    List.append_nil, List.length_drop]

/-- **A definition records the parameters that a call has to supply.** -/
theorem length_parameters (hdefaults : defaultsLast m.parameters.positional = true)
    (htakes : m.Takes k) (hd : d ∈ m.definitions module) :
    d.parameters.length = m.recordedCount := by
  obtain ⟨r, -, rfl⟩ := List.mem_map.1 hd
  have hnames : m.parameters.nameOnly.filter Parameter.isRequired = [] :=
    filter_isRequired_eq_nil_iff.2 htakes.byPosition
  show (requiredParameters m.isMarked m.parameters).length = _
  rw [Method.length_requiredParameters, hnames, List.length_nil, Nat.add_zero,
    Method.recordedCount, requiredCount_eq hdefaults, Nat.sub_sub]
  -- one parameter is left out for the object, but for a function that is known to be static
  congr 1
  cases hstatic : m.isStatic with
  | true => rw [Method.objects, if_pos hstatic]; cases m.isMarked <;> rfl
  | false => rw [Method.isMarked_of_not_isStatic hstatic, Method.objects, hstatic]; rfl

/-- **A call with a value for each placeholder is valid**, whether its parameter has a default or
not. -/
theorem call?_isSome_of_takes (hdefaults : defaultsLast m.parameters.positional = true)
    (htakes : m.Takes k) (hk : 1 ≤ k) {as : List Plan.Argument} (hlen : as.length = k) :
    (m.call? as).isSome = true := by
  obtain ⟨others, hsplit, hothers⟩ := exists_required_append hdefaults
  have henough := htakes.enough
  have hroom := htakes.room
  rw [requiredCount_eq hdefaults] at henough
  rw [Method.valueParameters, List.length_drop] at hroom
  rw [Method.call?, bind?_isSome_iff hsplit (fun q hq => (List.mem_filter.1 hq).2) hothers,
    List.length_append, List.length_map, hlen]
  exact ⟨.inr (by omega), by omega, htakes.byPosition⟩

end

/-! ## Look-up -/

section
variable {d : StepDefinition} {l : Plan.Occurrence} (h : Asks l d)

include h

/-- A catalog with one definition looks it up by its text alone if it has no parameters. -/
theorem find?_of_asks : Catalog.find? [d] l.kind.word l.line.text =
    if d.parameters = [] ∧ fold d.pattern ≠ fold l.line.text then none else some d := by
  have hword : d.answersTo l.kind.word = true := by rw [h.kind]; exact beq_self_eq_true _
  have hcandidates : Catalog.candidates [d] l.kind.word = [d] := by
    simp [Catalog.candidates, hword]
  rw [Catalog.find?, hcandidates]
  cases hps : d.parameters with
  | nil =>
    by_cases hfold : fold d.pattern = fold l.line.text
    · simp [StepDefinition.isExact, hps, hfold]
    · simp [StepDefinition.isExact, StepDefinition.isTemplated, hps, hfold]
  | cons p ps => simp [StepDefinition.isExact, StepDefinition.isTemplated, hps, h.accepts]

/-- There is a captured text for each placeholder. -/
theorem length_capturedTexts {pieces : List (List Char)}
    (hpieces : Pattern.Written pieces d.pattern.toList) :
    (Plan.capturedTexts d l.line.text).length + 1 = pieces.length := by
  obtain ⟨values, hvalues⟩ := Option.isSome_iff_exists.1 h.accepts
  have hmatch := hvalues
  rw [Pattern.captures?, ← Pattern.written_iff.1 hpieces] at hmatch
  obtain ⟨captures, hcaptures, rfl⟩ := Option.map_eq_some_iff.1 hmatch
  rw [Plan.capturedTexts, hvalues, Option.getD_some, List.length_map, List.length_map]
  exact Pattern.capturesOf?_length hcaptures

/-- The fault of a line is that of its call, the line having no table. -/
theorem fault_trial_of_asks (c : Catalog) (stubs : List Plan.Stub) :
    (l.trial c stubs).fault = (Plan.Spot.call l).fault? c := by
  rw [Plan.fault_trial, Plan.lineSpots, h.table]
  simp [Plan.tableSpots]

end

/-! ## Top theorem -/

section
variable {m : Method} {module : String} {d : StepDefinition} {k : Nat} {pieces : List (List Char)}
  (hdefaults : defaultsLast m.parameters.positional = true) (hd : d ∈ m.definitions module)
  (hpieces : Pattern.Written pieces d.pattern.toList) (hlen : pieces.length = k + 1) (hk : 1 ≤ k)
  (htakes : m.Takes k)

include hdefaults hd htakes in
theorem resolution?_of_asks {l : Plan.Occurrence} (h : Asks l d) : l.resolution? [d] =
    if m.recordedCount = 0 ∧ fold d.pattern ≠ fold l.line.text then none
    else some ⟨d, Plan.capturedTexts d l.line.text⟩ := by
  have hparameters : d.parameters = [] ↔ m.recordedCount = 0 := by
    rw [← length_parameters hdefaults htakes hd, List.length_eq_zero_iff]
  have hfind := find?_of_asks h
  simp only [hparameters] at hfind
  split at hfind
  · next hnone => simp [Plan.Occurrence.resolution?, Catalog.resolve?, hfind, hnone]
  · next hsome => rw [if_neg hsome, Plan.resolution?_of_find? hfind]

include hdefaults hd hpieces hlen htakes in
theorem fault?_of_asks {l : Plan.Occurrence} (h : Asks l d) : (Plan.Spot.call l).fault? [d] =
    if (l.resolution? [d]).isNone = true ∨ m.recordedCount = k then none
    else some (.arity l.keyword l.line.text d.qualifiedMethod m.recordedCount k) := by
  have hcount := length_parameters hdefaults htakes hd
  have hsupplied : (Plan.capturedTexts d l.line.text).length = k := by
    have := length_capturedTexts h hpieces
    omega
  have htable : l.hasTable = false := by rw [Plan.Occurrence.hasTable, h.table]; rfl
  rw [Plan.Spot.fault?, resolution?_of_asks hdefaults hd htakes h]
  split
  · simp
  · simp [Plan.arityFault?, Plan.supplied, hsupplied, htable, hcount, eq_comm]

include hdefaults hd hk htakes in
/-- A line whose values all have a recorded parameter is answered. -/
theorem find?_of_recorded (hcount : m.recordedCount = k) {l : Plan.Occurrence} (h : Asks l d) :
    Catalog.find? [d] l.kind.word l.line.text = some d := by
  have hlen := length_parameters hdefaults htakes hd
  have hne : d.parameters ≠ [] := List.ne_nil_of_length_pos (by omega)
  rw [find?_of_asks h, if_neg fun hnone => hne hnone.1]

end

/-- **Defaulted parameters are not for steps.**  Take a method whose pattern has placeholders and
that takes a value for each by position, and a catalog with no definition but one of the method's.
The call that a matched line would make is valid, but the line is answered and its feature converted
only if each placeholder stands for a parameter without a default. -/
theorem onlyDefinition {text : String} {body : List Stmt} (hread : readSource text = some body)
    (module : String) {m : Method} (hm : m ∈ bodyMethods none body) {d : StepDefinition}
    (hd : d ∈ m.definitions module) {pieces : List (List Char)} {k : Nat}
    (hpieces : Pattern.Written pieces d.pattern.toList) (hlen : pieces.length = k + 1) (hk : 1 ≤ k)
    (htakes : m.Takes k) : OnlyDefinition m d k := by
  have hdefaults := defaultsLast_of_mem_bodyMethods (ordered_of_readSource hread) hm
  have hbinds : ∀ as : List Plan.Argument, as.length = k → (m.call? as).isSome = true :=
    fun as has => call?_isSome_of_takes hdefaults htakes hk has
  have hfault := fun l (h : Asks l d) => fault?_of_asks hdefaults hd hpieces hlen htakes h
  refine ⟨hbinds, fun l hasks => resolution?_of_asks hdefaults hd htakes hasks,
    fun l stubs hasks => (fault_trial_of_asks hasks [d] stubs).trans (hfault l hasks),
    fun hcount fileName f p hconvert => ?calls, fun fileName f e hconvert => ?passes,
    fun hcount fileName f hline => ?stops⟩
  case calls =>
    have hsteps : p.allSteps = (Plan.planLines f).map (·.step [d] (Plan.stubsOf [d] f)) :=
      Plan.allSteps_of_convert hconvert
    rw [hsteps, List.forall₂_map_right_iff, List.forall₂_same]
    intro x hx hasks
    have hfind := find?_of_recorded hdefaults hd hk htakes hcount hasks
    have hcalls := Plan.step_calls hfind (Plan.line_fault_of_convert hconvert hx)
    have harity : _ = d.parameters.length := hcalls.arity
    rw [length_parameters hdefaults htakes hd, hcount] at harity
    exact ⟨hcalls, hbinds _ harity⟩
  case passes =>
    obtain ⟨spot, hspot, hspotFault⟩ := Plan.exists_spot_of_convert hconvert
    refine ⟨spot, hspot, hspotFault, fun l hasks hpasses hcall => ?_⟩
    rw [hcall, hfault l hasks, if_pos hpasses] at hspotFault
    cases hspotFault
  case stops =>
    obtain ⟨l, hl, hasks, hanswered⟩ := hline
    have hstops : ¬((l.resolution? [d]).isNone = true ∨ m.recordedCount = k) :=
      not_or.2 ⟨by rw [Option.isNone_eq_false_iff.2 hanswered]; exact nofun, hcount⟩
    refine Plan.exists_error_of_spot (Plan.call_mem_spots hl) ?_
    rw [hfault l hasks, if_neg hstops]
    rfl

/-- A method with a default. -/
def guestSource (pattern : String) : String :=
  "class Desk:\n    @when('" ++ pattern ++
    "')\n    def log_in(self, user, role='guest'):\n        pass\n"

def guestDefinition (pattern : String) : StepDefinition :=
  { kind := .action, pattern, owner := "Desk", module := "desk", method := "log_in",
    parameters := [⟨"", "user"⟩] }

def guestScenario (text : String) : Gherkin.Scenario :=
  { tags := [], keyword := "Scenario", name := "Log in", description := "", examples := [],
    steps := [⟨"When ", .kind .action, text, none⟩] }

def guestFeature (text : String) : Gherkin.Feature :=
  { tags := [], language := "en", keyword := "Feature", name := "Desk", description := "",
    children := [.scenario (guestScenario text)] }

/-- The only line of `guestFeature`. -/
def guestLine (text : String) : Plan.Occurrence :=
  ⟨.action, 0, ⟨"When ", .kind .action, text, none⟩⟩

theorem guestFeature_converts : ∃ body m p s,
    readSource (guestSource "I log in as \x7buser\x7d") = some body ∧ m ∈ bodyMethods none body ∧
    OnlyDefinition m (guestDefinition "I log in as \x7buser\x7d") 1 ∧
    Plan.convert [guestDefinition "I log in as \x7buser\x7d"] "desk"
      (some (guestFeature "I log in as alice")) = .ok p ∧
    p.allSteps = [s] ∧ s.Calls (guestDefinition "I log in as \x7buser\x7d") ∧
    (m.call? s.arguments).isSome = true := by
  have hsource : (readSource (guestSource "I log in as \x7buser\x7d")).map (fun body =>
      (bodyDefinitions "desk" none body,
        (bodyMethods none body).all fun m => decide (m.Takes 1 ∧ m.recordedCount = 1))) =
        some ([guestDefinition "I log in as \x7buser\x7d"], true) := by decide +kernel
  have hc : Plan.convert [guestDefinition "I log in as \x7buser\x7d"] "desk"
      (some (guestFeature "I log in as alice")) =
        .ok (Plan.plan [guestDefinition "I log in as \x7buser\x7d"] "desk"
          (guestFeature "I log in as alice")) :=
    Plan.convert_some_eq_ok_iff.2 ⟨by decide +kernel, rfl⟩
  have hpieces : Pattern.Written ["I log in as ".toList, []]
      (guestDefinition "I log in as \x7buser\x7d").pattern.toList := by
    rw [Pattern.written_iff]
    decide +kernel
  have hasks : Asks (guestLine "I log in as alice") (guestDefinition "I log in as \x7buser\x7d") :=
    ⟨rfl, rfl, by decide +kernel⟩
  obtain ⟨body, m, hread, hm, hd, hmethod⟩ := exists_method hsource
  obtain ⟨htakes, hcount⟩ := of_decide_eq_true hmethod
  have honly := onlyDefinition hread "desk" hm hd hpieces rfl (by decide) htakes
  have hlines : Plan.planLines (guestFeature "I log in as alice") =
      [⟨[], guestLine "I log in as alice"⟩] := by decide +kernel
  have hsteps := honly.calls hcount _ _ _ hc
  rw [hlines] at hsteps
  obtain ⟨s, ss, hs, hss, hsteps⟩ := List.forall₂_cons_left_iff.1 hsteps
  obtain rfl := List.forall₂_nil_left_iff.1 hss
  obtain ⟨hcalls, hbinds⟩ := hs hasks
  exact ⟨body, m, _, s, hread, hm, honly, hc, hsteps, hcalls, hbinds⟩

/-- A value for a parameter with a default stops the conversion, though the call would be valid. -/
theorem guestFeature_stops : ∃ body m,
    readSource (guestSource "I log in as \x7buser\x7d with \x7brole\x7d") = some body ∧
    m ∈ bodyMethods none body ∧
    guestDefinition "I log in as \x7buser\x7d with \x7brole\x7d" ∈ m.definitions "desk" ∧
    Pattern.Written ["I log in as ".toList, " with ".toList, []]
      (guestDefinition "I log in as \x7buser\x7d with \x7brole\x7d").pattern.toList ∧
    m.isStatic = false ∧ m.requiredCount = 1 ∧ m.Takes 2 ∧
    Plan.allOccurrences (guestFeature "I log in as alice with admin") =
      [guestLine "I log in as alice with admin"] ∧
    Asks (guestLine "I log in as alice with admin")
      (guestDefinition "I log in as \x7buser\x7d with \x7brole\x7d") ∧
    (m.call? [⟨"alice", .literal "\"alice\""⟩, ⟨"admin", .literal "\"admin\""⟩]).isSome = true ∧
    Plan.convert [guestDefinition "I log in as \x7buser\x7d with \x7brole\x7d"] "desk"
      (some (guestFeature "I log in as alice with admin")) =
        .error (.arity "When" "I log in as alice with admin" "Desk.log_in" 1 2) := by
  have hsource : (readSource (guestSource "I log in as \x7buser\x7d with \x7brole\x7d")).map
      (fun body => (bodyDefinitions "desk" none body, (bodyMethods none body).all fun m =>
        decide (m.isStatic = false ∧ m.requiredCount = 1 ∧ m.Takes 2 ∧
          (m.call? [⟨"alice", .literal "\"alice\""⟩, ⟨"admin", .literal "\"admin\""⟩]).isSome =
            true))) =
        some ([guestDefinition "I log in as \x7buser\x7d with \x7brole\x7d"], true) := by
    decide +kernel
  have hpieces : Pattern.Written ["I log in as ".toList, " with ".toList, []]
      (guestDefinition "I log in as \x7buser\x7d with \x7brole\x7d").pattern.toList := by
    rw [Pattern.written_iff]
    decide +kernel
  obtain ⟨body, m, hread, hm, hd, hmethod⟩ := exists_method hsource
  obtain ⟨hobject, hcount, htakes, hbinds⟩ := of_decide_eq_true hmethod
  exact ⟨body, m, hread, hm, hd, hpieces, hobject, hcount, htakes, by decide +kernel,
    ⟨rfl, rfl, by decide +kernel⟩, hbinds,
    Plan.convert_some_eq_error_iff.2 (by decide +kernel)⟩

end Acceptance.Source
