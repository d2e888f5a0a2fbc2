import Acceptance.Proofs.Plan.Calls
import Acceptance.Proofs.Plan.LegalNames
import Acceptance.Text.Compose

/-!
# Local names of a test method

A test method binds its object and its parameters when it is called, and the variable of a data
table in front of the call of each step that has one.  The variables are numbered, so no two are
the same; but they are told apart from each other only, not from the parameters.  A parameter that
is named like the table of a step stands for that table from this step on.

    tableNames q.steps = ["table1", …, "tablen"]                            (numbered_planScenario)
    the local names differ ↔ no parameter has the name of a table           (distinct_planScenario)
    a parameter is found behind steps ↔ none of their tables has its name          (find_foldl_iff)
-/

namespace Acceptance.Plan

open Acceptance.Text

/-! ## Algorithm -/

/-- What a local name of a test method stands for. -/
inductive Local where
  | object
  | parameter (x : Parameter)
  | table (t : Table)
  deriving Repr, DecidableEq

/-- What names stand for at some point of a method, by the normal form of the name. -/
abbrev Locals : Type := String → Option Local

namespace Locals

def bind (ρ : Locals) (name : String) (v : Local) : Locals :=
  fun n => if n = normalForm name then some v else ρ n

/-- What a name stands for, however it is spelled. -/
def find (ρ : Locals) (name : String) : Option Local := ρ (normalForm name)

end Locals

/-- A step in front of its call: its table is assigned to the variable. -/
def Step.assign (ρ : Locals) (x : Step) : Locals :=
  match x.table with
  | some t => ρ.bind t.variableName (.table t)
  | none => ρ

/-- The variables of tables that steps assign. -/
def tableNames (xs : List Step) : List String := (xs.filterMap (·.table)).map (·.variableName)

namespace Scenario

/-- What the call of a test method binds. -/
def entered (q : Scenario) : Locals :=
  q.parameters.foldl (fun ρ x => ρ.bind x.name (.parameter x))
    (Locals.bind (fun _ => none) selfOwner .object)

/-- What names stand for at the call of the step number `i`. -/
def localsAt (q : Scenario) (i : Nat) : Locals := (q.steps.take (i + 1)).foldl Step.assign q.entered

/-- The names that a test method binds, in order. -/
def localNames (q : Scenario) : List String :=
  selfOwner :: q.parameters.map (·.name) ++ tableNames q.steps

/-- The parameters and the object, as their names are read, are no two the same; a method needs
that to be defined. -/
def ParametersApart (q : Scenario) : Prop :=
  (selfOwner :: q.parameters.map fun x => normalForm x.name).Nodup

end Scenario

/-- The variable of the data table with a number. -/
def tableName (n : Nat) : String := "table" ++ Decimal.text n

/-- The local names of a planned scenario. -/
structure LocalNames (q : Scenario) : Prop where
  numbered : tableNames q.steps = (List.range' 1 (tableNames q.steps).length).map tableName
  distinct : q.localNames.Nodup ↔ ∀ x ∈ q.parameters, x.name ∉ tableNames q.steps
  distinctRead : (q.localNames.map normalForm).Nodup ↔
    q.ParametersApart ∧ ∀ x ∈ q.parameters, normalForm x.name ∉ tableNames q.steps
  /-- A parameter is found until a step assigns a table of its name. -/
  parameters : q.ParametersApart → ∀ i, ∀ x ∈ q.parameters,
    ((q.localsAt i).find x.name = some (.parameter x) ↔
      normalForm x.name ∉ tableNames (q.steps.take (i + 1)))
  /-- Where no two names are read as one, what an argument names is a parameter or the table of its
  step, and is found. -/
  arguments : (q.localNames.map normalForm).Nodup → ∀ (i : Nat) (x : Step), q.steps[i]? = some x →
    ∀ a ∈ x.arguments, ∀ name, a.expression.parameter? = some name →
      (∃ y ∈ q.parameters, y.name = name ∧ (q.localsAt i).find name = some (.parameter y)) ∨
      (∃ t, x.table = some t ∧ t.variableName = name ∧ (q.localsAt i).find name = some (.table t))

/-! ## Variables of tables -/

theorem tableName_injective {m n : Nat} (h : tableName m = tableName n) : m = n :=
  Decimal.text_injective ((String.append_right_inj "table").1 h)

theorem normalForm_of_plain {s : String} (h : (s.toList.all fun c => decide (c.toNat < 128)) = true) :
    normalForm s = s :=
  if_pos h

theorem digitChar_plain : ∀ d : Fin 10, (Decimal.digitChar d).toNat < 128 := by
  decide

theorem normalForm_tableName (n : Nat) : normalForm (tableName n) = tableName n := by
  refine normalForm_of_plain ?_
  rw [tableName, String.toList_append, List.all_append, Bool.and_eq_true]
  constructor
  · decide
  · rw [Decimal.text, String.toList_ofList, List.all_eq_true]
    intro c hc
    obtain ⟨d, rfl⟩ := mem_digits hc
    exact decide_eq_true (digitChar_plain d)

theorem normalForm_selfOwner : normalForm selfOwner = selfOwner := normalForm_of_plain (by decide)

theorem variableName_of_table? {l : Occurrence} {t : Table} (h : l.table? = some t) :
    t.variableName = tableName l.tableNumber := by
  obtain ⟨rows, -, rfl⟩ := Option.map_eq_some_iff.1 h
  cases rows <;> rfl

theorem tableNames_cons (x : Step) (xs : List Step) :
    tableNames (x :: xs) = (x.table.map (·.variableName)).toList ++ tableNames xs := by
  unfold tableNames
  cases h : x.table with
  | none => rw [List.filterMap_cons_none h, Option.map_none, Option.toList_none, List.nil_append]
  | some t =>
    rw [List.filterMap_cons_some h, List.map_cons, Option.map_some, Option.toList_some,
      List.singleton_append]

theorem tableNames_take_subset (xs : List Step) (n : Nat) : tableNames (xs.take n) ⊆ tableNames xs :=
  List.map_subset _ ((List.take_sublist n xs).filterMap _).subset

section
variable (c : Catalog) (stubs : List Stub) (o : Outline)

theorem table_plan (l : Occurrence) : (l.plan c stubs o).table = l.table? :=
  (PlanLine.step_text_table c stubs ⟨o, l⟩).2

/-- **The tables of a method are numbered.**  Lines behind `n` tables go on counting there. -/
theorem tableNames_occurrencesFrom (current : StepKind) (n : Nat) (lines : List Gherkin.Step) :
    ∃ count, tableNames ((occurrencesFrom current n lines).map fun l => l.plan c stubs o) =
      (List.range' (n + 1) count).map tableName := by
  induction lines generalizing current n with
  | nil => exact ⟨0, rfl⟩
  | cons line lines ih =>
    simp only [occurrencesFrom, List.map_cons, tableNames_cons, table_plan]
    cases ht : line.table with
    | none =>
      obtain ⟨count, hcount⟩ := ih ((ownKind? line).getD current) n
      refine ⟨count, ?_⟩
      simpa [Occurrence.table?, ht] using hcount
    | some rows =>
      obtain ⟨count, hcount⟩ := ih ((ownKind? line).getD current) (n + 1)
      refine ⟨count + 1, ?_⟩
      have hfirst : ∀ t, Occurrence.table? ⟨(ownKind? line).getD current, n + 1, line⟩ = some t →
          t.variableName = tableName (n + 1) := fun t h => variableName_of_table? h
      simp only [Option.isSome_some, if_true, hcount, List.range'_succ, List.map_cons]
      simp only [Occurrence.table?, ht, Option.map_some, Option.some.injEq] at hfirst
      simp [Occurrence.table?, ht, hfirst]

end

theorem numbered_planScenario (c : Catalog) (stubs : List Stub) (method : String)
    (s : Gherkin.Scenario) : ∃ count, tableNames (planScenario c stubs method s).steps =
      (List.range' 1 count).map tableName :=
  tableNames_occurrencesFrom c stubs (outlineOf s.examples) .context 0 s.steps

section
variable {xs : List Step} {count : Nat}

theorem nodup_numbered (h : tableNames xs = (List.range' 1 count).map tableName) :
    (tableNames xs).Nodup := by
  rw [h]
  exact List.Nodup.map (fun _ _ he => tableName_injective he) List.nodup_range'

theorem normalForm_of_mem_numbered (h : tableNames xs = (List.range' 1 count).map tableName)
    {name : String} (hname : name ∈ tableNames xs) : normalForm name = name := by
  rw [h] at hname
  obtain ⟨n, -, rfl⟩ := List.mem_map.1 hname
  exact normalForm_tableName n

theorem self_not_mem_numbered (h : tableNames xs = (List.range' 1 count).map tableName) :
    selfOwner ∉ tableNames xs := by
  rw [h]
  intro hself
  obtain ⟨n, -, hn⟩ := List.mem_map.1 hself
  have hchars := congrArg (fun s => s.toList.head?) hn
  simp [tableName, selfOwner] at hchars

/-- No two names are the same where the tables have names of their own. -/
theorem nodup_append_tables (h : tableNames xs = (List.range' 1 count).map tableName)
    {names : List String} : (selfOwner :: names ++ tableNames xs).Nodup ↔
      (selfOwner :: names).Nodup ∧ ∀ name ∈ names, name ∉ tableNames xs := by
  rw [List.nodup_append']
  constructor
  · rintro ⟨hnames, -, hdisjoint⟩
    exact ⟨hnames, fun name hname => hdisjoint (List.mem_cons_of_mem _ hname)⟩
  · rintro ⟨hnames, hother⟩
    refine ⟨hnames, nodup_numbered h, fun name hname => ?_⟩
    rcases List.mem_cons.1 hname with rfl | hname
    · exact self_not_mem_numbered h
    · exact hother name hname

end

/-! ## Finding names -/

section
variable {ρ σ : Locals} {name : String}

theorem find_bind_same (v : Local) : (ρ.bind name v).find name = some v := if_pos rfl

theorem find_bind_other {other : String} {v : Local} (h : normalForm name ≠ normalForm other) :
    (ρ.bind other v).find name = ρ.find name := if_neg h

/-- **One step** keeps what a name stands for unless its table has the name. -/
theorem find_assign_iff {x : Step} {y : Parameter} (hρ : ρ.find y.name = some (.parameter y)) :
    (Step.assign ρ x).find y.name = some (.parameter y) ↔
      ∀ t, x.table = some t → normalForm t.variableName ≠ normalForm y.name := by
  unfold Step.assign
  cases ht : x.table with
  | none => simpa using hρ
  | some t =>
    simp only [Option.some.injEq, forall_eq']
    by_cases h : normalForm t.variableName = normalForm y.name
    · have hsome : (ρ.bind t.variableName (.table t)).find y.name = some (.table t) :=
        if_pos h.symm
      simp [hsome, h]
    · rw [find_bind_other (Ne.symm h)]
      exact iff_of_true hρ h

/-- A name that does not stand for a parameter does not come to stand for it. -/
theorem find_foldl_ne (xs : List Step) {y : Parameter} (hρ : ρ.find name ≠ some (.parameter y)) :
    (xs.foldl Step.assign ρ).find name ≠ some (.parameter y) := by
  induction xs generalizing ρ with
  | nil => exact hρ
  | cons x xs ih =>
    refine ih ?_
    unfold Step.assign
    split
    · next t _ =>
      by_cases h : normalForm name = normalForm t.variableName
      · have hsome : (ρ.bind t.variableName (.table t)).find name = some (.table t) := if_pos h
        rw [hsome]
        exact nofun
      · rw [find_bind_other h]
        exact hρ
    · exact hρ

/-- **All steps** keep what a name stands for unless one of their tables has the name. -/
theorem find_foldl_iff (xs : List Step) {y : Parameter} (hρ : ρ.find y.name = some (.parameter y)) :
    (xs.foldl Step.assign ρ).find y.name = some (.parameter y) ↔
      normalForm y.name ∉ (tableNames xs).map normalForm := by
  induction xs generalizing ρ with
  | nil => simpa [tableNames] using hρ
  | cons x xs ih =>
    rw [List.foldl_cons, tableNames_cons, List.map_append, List.mem_append, not_or]
    by_cases h : (Step.assign ρ x).find y.name = some (.parameter y)
    · rw [ih h]
      have hx := (find_assign_iff hρ).1 h
      refine (and_iff_right ?_).symm
      cases ht : x.table with
      | none => simp
      | some t => simpa using Ne.symm (hx t ht)
    · refine iff_of_false (find_foldl_ne xs h) fun hkept => h ((find_assign_iff hρ).2 ?_)
      intro t ht he
      exact hkept.1 (by simp [ht, he])

end

/-- The parameters of a method are found where it starts. -/
theorem find_entered {q : Scenario} (h : q.ParametersApart) {x : Parameter}
    (hx : x ∈ q.parameters) : q.entered.find x.name = some (.parameter x) := by
  have hfold : ∀ (ys : List Parameter) (ρ : Locals), (ys.map fun y => normalForm y.name).Nodup →
      (x ∈ ys ∨ (normalForm x.name ∉ ys.map fun y => normalForm y.name) ∧
        ρ.find x.name = some (.parameter x)) →
      (ys.foldl (fun ρ y => ρ.bind y.name (.parameter y)) ρ).find x.name = some (.parameter x) := by
    intro ys
    induction ys with
    | nil =>
      intro ρ _ hx
      exact (hx.resolve_left List.not_mem_nil).2
    | cons y ys ih =>
      intro ρ hnodup hx
      obtain ⟨hfresh, hnodup⟩ := List.nodup_cons.1 hnodup
      refine ih _ hnodup ?_
      rcases hx with hx | ⟨hother, hρ⟩
      · rcases List.mem_cons.1 hx with rfl | hx
        · exact .inr ⟨hfresh, find_bind_same _⟩
        · exact .inl hx
      · rw [List.map_cons, List.mem_cons, not_or] at hother
        refine .inr ⟨hother.2, ?_⟩
        rw [find_bind_other hother.1]
        exact hρ
  exact hfold q.parameters _ (List.nodup_cons.1 h).2 (.inl hx)

/-- The table of a step is found at its call. -/
theorem find_table {q : Scenario} {i : Nat} {x : Step} {t : Table} (hx : q.steps[i]? = some x)
    (ht : x.table = some t) : (q.localsAt i).find t.variableName = some (.table t) := by
  rw [Scenario.localsAt, List.take_add_one, hx, Option.toList_some, List.foldl_append]
  simp only [List.foldl_cons, List.foldl_nil, Step.assign, ht]
  exact find_bind_same _

/-! ## Names of arguments -/

theorem mem_of_parameter?_ofText {value typeName name : String} {o : Outline}
    (h : (Expression.ofText value typeName o).parameter? = some name) :
    ∃ column ∈ o, column.parameter = name := by
  have hname : (wholeReference? value).bind o.parameter? = some name := by
    unfold Expression.ofText at h
    split at h
    · next hcolumn _ => rwa [hcolumn]
    · next hcolumn _ => rwa [hcolumn]
    · split at h <;> cases h
    · cases h
  obtain ⟨header, -, hparameter⟩ := Option.bind_eq_some_iff.1 hname
  obtain ⟨column, hfound, rfl⟩ := Option.map_eq_some_iff.1 hparameter
  exact ⟨column, List.mem_reverse.1 (List.mem_of_find?_eq_some hfound), rfl⟩

/-- **What an argument names** is the parameter of a column or the table of its step. -/
theorem named_of_plan (c : Catalog) (stubs : List Stub) (o : Outline) (l : Occurrence)
    {a : Argument} (ha : a ∈ (l.plan c stubs o).arguments) {name : String}
    (hname : a.expression.parameter? = some name) :
    (∃ column ∈ o, column.parameter = name) ∨ ∃ t, l.table? = some t ∧ t.variableName = name := by
  unfold Occurrence.plan at ha
  split at ha
  · next r _ =>
    have hvalues : a ∈ placeholderArguments r o → ∃ column ∈ o, column.parameter = name := by
      intro ha
      obtain ⟨x, -, rfl⟩ := List.mem_map.1 ha
      exact mem_of_parameter?_ofText hname
    simp only [Occurrence.planMatched, Resolution.callArguments] at ha
    split at ha
    · next t ht =>
      split at ha
      · rcases List.mem_append.1 ha with ha | ha
        · exact .inl (hvalues ha)
        · obtain rfl := List.mem_singleton.1 ha
          exact .inr ⟨t, ht, Option.some.inj hname⟩
      · exact .inl (hvalues ha)
    · exact .inl (hvalues ha)
  · obtain ⟨x, -, rfl⟩ := List.mem_map.1 ha
    unfold stubArgument at hname
    split at hname
    · split at hname
      · next t ht => exact .inr ⟨t, ht, Option.some.inj hname⟩
      · cases hname
    · exact .inl (mem_of_parameter?_ofText hname)

/-! ## Top theorem -/

section
variable (c : Catalog) (stubs : List Stub) (method : String) (s : Gherkin.Scenario)

theorem distinct_planScenario : (planScenario c stubs method s).localNames.Nodup ↔
    ∀ x ∈ (planScenario c stubs method s).parameters,
      x.name ∉ tableNames (planScenario c stubs method s).steps := by
  have hlegal := legalParameters_planScenario c stubs method s
  obtain ⟨count, hcount⟩ := numbered_planScenario c stubs method s
  generalize planScenario c stubs method s = q at hlegal hcount ⊢
  have hself : selfOwner ∉ q.parameters.map (·.name) := by
    intro h
    obtain ⟨x, hx, he⟩ := List.mem_map.1 h
    exact hlegal.notSelf x hx he
  rw [Scenario.localNames, nodup_append_tables hcount,
    and_iff_right (List.nodup_cons.2 ⟨hself, hlegal.distinct⟩), List.forall_mem_map]

/-- What the arguments of a planned scenario name. -/
theorem named_planScenario : ∀ x ∈ (planScenario c stubs method s).steps, ∀ a ∈ x.arguments,
    ∀ name, a.expression.parameter? = some name →
      (∃ y ∈ (planScenario c stubs method s).parameters, y.name = name) ∨
      ∃ t, x.table = some t ∧ t.variableName = name := by
  intro x hx a ha name hname
  obtain ⟨l, -, rfl⟩ := List.mem_map.1 hx
  rcases named_of_plan c stubs _ l ha hname with ⟨column, hcolumn, rfl⟩ | ⟨t, ht, rfl⟩
  · exact .inl ⟨⟨.text, column.parameter⟩, List.mem_map.2 ⟨column, hcolumn, rfl⟩, rfl⟩
  · exact .inr ⟨t, (table_plan c stubs _ l).trans ht, rfl⟩

theorem localNames_planScenario : LocalNames (planScenario c stubs method s) := by
  have hdistinct := distinct_planScenario c stubs method s
  have hnamed := named_planScenario c stubs method s
  obtain ⟨count, hcount⟩ := numbered_planScenario c stubs method s
  generalize planScenario c stubs method s = q at hdistinct hnamed hcount ⊢
  have hread : ∀ xs, tableNames xs ⊆ tableNames q.steps →
      (tableNames xs).map normalForm = tableNames xs := by
    intro xs hsub
    refine (List.map_congr_left fun name h => ?_).trans (List.map_id _)
    exact normalForm_of_mem_numbered hcount (hsub h)
  have hdistinctRead : (q.localNames.map normalForm).Nodup ↔
      q.ParametersApart ∧ ∀ x ∈ q.parameters, normalForm x.name ∉ tableNames q.steps := by
    rw [Scenario.localNames, List.map_append, List.map_cons, List.map_map, normalForm_selfOwner,
      hread _ (List.Subset.refl _), nodup_append_tables hcount, List.forall_mem_map]
    rfl
  have hparameters : q.ParametersApart → ∀ i, ∀ x ∈ q.parameters,
      ((q.localsAt i).find x.name = some (.parameter x) ↔
        normalForm x.name ∉ tableNames (q.steps.take (i + 1))) := by
    intro hapart i x hx
    rw [Scenario.localsAt, find_foldl_iff _ (find_entered hapart hx),
      hread _ (tableNames_take_subset q.steps (i + 1))]
  refine ⟨?_, hdistinct, hdistinctRead, hparameters, ?_⟩
  · rw [hcount, List.length_map, List.length_range']
  · intro hnodup i x hx a ha name hname
    obtain ⟨hapart, hfree⟩ := hdistinctRead.1 hnodup
    rcases hnamed x (List.mem_of_getElem? hx) a ha name hname with ⟨y, hy, rfl⟩ | ⟨t, ht, rfl⟩
    · refine .inl ⟨y, hy, rfl, (hparameters hapart i y hy).2 fun hm => hfree y hy ?_⟩
      exact tableNames_take_subset q.steps (i + 1) hm
    · exact .inr ⟨t, ht, rfl, find_table hx ht⟩

end

/-- **Only a parameter that is named like a table loses its value.**  In the method of every
scenario of a plan the tables are numbered; all local names differ just where no parameter has the
name of a table, as written and as read; a parameter is found up to the first table of its name;
and where the names differ, what an argument names is found. -/
theorem localNames_of_convert {c : Catalog} {fileName : String} {d : Gherkin.Document} {p : Plan}
    (h : convert c fileName d = .ok p) : ∀ q ∈ p.scenarios, LocalNames q := by
  intro q hq
  cases d with
  | none =>
    obtain rfl := Except.ok.inj h
    cases hq
  | some f =>
    obtain ⟨-, rfl⟩ := convert_some_eq_ok_iff.1 h
    obtain ⟨s, -, method, rfl⟩ := exists_scenario_of_mem hq
    exact localNames_planScenario c _ method s

/-- A definition with a value and a data table. -/
def seatDefinition : StepDefinition :=
  { kind := .action, pattern := "I take \x7bseat\x7d of", owner := "Hall", module := "steps",
    method := "take", parameters := [⟨"str", "seat"⟩, ⟨"DataTable", "seats"⟩] }

/-- An outline with one column, whose two steps have a data table each. -/
def seatScenario (column : String) : Gherkin.Scenario :=
  { tags := [], keyword := "Scenario Outline", name := "One", description := "",
    steps := [⟨"Given ", .kind .context, "seats", some [[⟨some "seat"⟩]]⟩,
      ⟨"When ", .kind .action, "I take <" ++ column ++ "> of", some [[⟨some "free"⟩]]⟩],
    examples := [⟨[], "Examples", "", "", some [⟨some column⟩], [[⟨some "front"⟩]]⟩] }

def seatFeature (column : String) : Gherkin.Feature :=
  { tags := [], language := "en", keyword := "Feature", name := "Seats", description := "",
    children := [.scenario (seatScenario column)] }

/-- The plan of that outline. -/
def seatPlan (column : String) : Scenario :=
  planScenario [seatDefinition] (stubsOf [seatDefinition] (seatFeature column)) "One"
    (seatScenario column)

/-- A column whose name goes on counting where the tables stop. -/
theorem seatFeature_localNames :
    ∃ p q, convert [seatDefinition] "seats" (some (seatFeature "table3")) = .ok p ∧
      p.scenarios = [q] ∧ q.localNames = ["self", "table3", "table1", "table2"] ∧
      ((q.localsAt 1).find "table3" = some (.parameter ⟨.text, "table3"⟩)) := by
  have hc : convert [seatDefinition] "seats" (some (seatFeature "table3")) =
      .ok (plan [seatDefinition] "seats" (seatFeature "table3")) :=
    convert_some_eq_ok_iff.2 ⟨by decide +kernel, rfl⟩
  have hq : (plan [seatDefinition] "seats" (seatFeature "table3")).scenarios =
      [seatPlan "table3"] := by
    decide +kernel
  have hlocals := localNames_of_convert hc (seatPlan "table3") (hq ▸ List.mem_singleton_self _)
  have hnames : (seatPlan "table3").localNames = ["self", "table3", "table1", "table2"] := by
    decide +kernel
  have hnodup : ((seatPlan "table3").localNames.map normalForm).Nodup := by
    rw [hnames]
    decide
  have hstep : ∃ x a, (seatPlan "table3").steps[1]? = some x ∧ a ∈ x.arguments ∧
      a.expression.parameter? = some "table3" ∧ x.table.map (·.variableName) = some "table2" := by
    refine ⟨_, ⟨"<table3>", .named "table3"⟩, rfl, ?_⟩
    decide +kernel
  obtain ⟨x, a, hx, ha, hname, hx₂⟩ := hstep
  refine ⟨_, _, hc, hq, hnames, ?_⟩
  rcases hlocals.arguments hnodup 1 x hx a ha "table3" hname with
    ⟨y, hy, -, hfind⟩ | ⟨t, ht, he, -⟩
  · have hall : ∀ y ∈ (seatPlan "table3").parameters, y = ⟨.text, "table3"⟩ := by decide +kernel
    rw [hfind, hall y hy]
  · rw [ht, Option.map_some, he] at hx₂
    exact absurd hx₂ (by decide)

/-- A column with the name of a data table, which its test loses. -/
theorem seatFeature_loses_column :
    ∃ p q x a, convert [seatDefinition] "seats" (some (seatFeature "table1")) = .ok p ∧
      p.scenarios = [q] ∧ ¬ q.localNames.Nodup ∧ q.steps[1]? = some x ∧ a ∈ x.arguments ∧
      a.value = "<table1>" ∧ a.expression = .named "table1" ∧
      (q.localsAt 1).find "table1" = some (.table ⟨"table1", [some "seat"], []⟩) := by
  have hc : convert [seatDefinition] "seats" (some (seatFeature "table1")) =
      .ok (plan [seatDefinition] "seats" (seatFeature "table1")) :=
    convert_some_eq_ok_iff.2 ⟨by decide +kernel, rfl⟩
  refine ⟨_, seatPlan "table1", _, ⟨"<table1>", .named "table1"⟩, hc, ?_, ?_, rfl, ?_⟩
  · decide +kernel
  · decide +kernel
  · decide +kernel

end Acceptance.Plan
