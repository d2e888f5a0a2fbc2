import Acceptance.Plan.Tree
import Acceptance.Proofs.Json.Shapes

/-!
# Exported plans

The trees of plans are values of one shape, in which only a background, remarks and a data table
may be null; where a feature leaves the name of a rule or a cell of a table without a value, that
label is null too.  An exported tree reads back as the tree without its nulls, and as no names of
a record are the same, no two trees are exported alike, whatever the indents.

    Fits (planShape label) t → ∃ w, Json.read (exported indent t) = .ok w ∧ Prunes t w
    exported m t = exported n u → t = u               for trees of one shape   (export_keeps_tree)
    Fits (planShape (.optional .text)) (tree p)                                         (tree_fits)
-/

namespace Acceptance.Plan

open Json Acceptance.Text

/-! ## Algorithm -/

def flaggedShape (fields : List (String × Shape)) : Shape :=
  .list (.record (fields ++ [("last", .flag)]))

def parametersShape : Shape := flaggedShape [("type", .text), ("name", .text)]

def argumentsShape : Shape := flaggedShape [("value", .text), ("expression", .text)]

section
variable (label : Shape)

def cellsShape : Shape := flaggedShape [("value", label)]

def tableShape : Shape :=
  .record [("variable_name", .text), ("headers", cellsShape label),
    ("rows", flaggedShape [("cells", cellsShape label)])]

def stepsShape : Shape :=
  .list (.record [("keyword", .text), ("text", .text), ("owner", .text), ("method", .text),
    ("arguments", argumentsShape), ("data_table", .optional (tableShape label))])

def remarksShape : Shape := .record [("lines", .list .text)]

def scenariosShape : Shape :=
  .list (.record [("name", .text), ("method", .text), ("remarks", .optional remarksShape),
    ("explicit_tag", .flag), ("test_cases", .list .text), ("parameters", parametersShape),
    ("steps", stepsShape label)])

def rulesShape : Shape :=
  .list (.record [("name", label), ("description", .text), ("scenarios", scenariosShape label)])

def stubsShape : Shape :=
  .list (.record [("keyword", .text), ("text", .text), ("method", .text),
    ("parameters", parametersShape)])

/-- The trees of plans whose names of rules and cells of tables have the shape `label`. -/
def planShape : Shape :=
  .record [("usings", .list .text), ("namespace", .text), ("file_name", .text),
    ("feature_name", .text), ("feature_class", .text), ("description_lines", .list .text),
    ("base_class", .text), ("classes", .list .text),
    ("background", .optional (.record [("steps", stepsShape label)])),
    ("rules", rulesShape label), ("unimplemented", stubsShape)]

end

/-- The shapes of a label: every label has a text, or some have no value. -/
def labelShapes : List Shape := [.text, .optional .text]

def Table.labels (t : Table) : List (Option String) := t.headers ++ t.rows.flatten

/-- The names of the rules of a plan and the cells of its tables. -/
def labels (p : Plan) : List (Option String) :=
  p.rules.map (·.name) ++ p.allSteps.flatMap fun s => (s.table.map Table.labels).getD []

/-- The exported text of a tree. -/
def exported (indent : Nat) (t : Json) : String := pretty indent (dropNulls t) ++ "\n"

/-! ## Trees of plans have their shape -/

theorem fits_stringsTree (ss : List String) : Fits (.list .text) (stringsTree ss) :=
  fits_list fun s _ => fits_str s

theorem mem_of_mem_flagLast {α : Type} {as : List α} {x : α × Bool} (h : x ∈ flagLast as) :
    x.1 ∈ as := by
  rw [← map_fst_flagLast as]
  exact List.mem_map_of_mem h

theorem fits_flagged {α : Type} {fields : List (String × Shape)}
    {members : α → List (String × Json)} {as : List α}
    (h : ∀ a ∈ as, FitsMembers fields (members a)) :
    Fits (flaggedShape fields) (flagged members as) :=
  fits_list fun (a, last) ha =>
    ⟨_, rfl, FitsMembers.append (h a (mem_of_mem_flagLast ha)) ⟨.bool last, [], rfl, ⟨last, rfl⟩, rfl⟩⟩

theorem fits_parameters (ps : List Parameter) :
    Fits parametersShape (flagged Parameter.members ps) :=
  fits_flagged fun p _ => ⟨_, _, rfl, fits_str _, _, _, rfl, fits_str p.name, rfl⟩

theorem fits_arguments (as : List Argument) : Fits argumentsShape (flagged Argument.members as) :=
  fits_flagged fun a _ => ⟨_, _, rfl, fits_str a.value, _, _, rfl, fits_str _, rfl⟩

theorem fits_stub (s : Stub) : Fits (.record [("keyword", .text), ("text", .text),
    ("method", .text), ("parameters", parametersShape)]) s.tree :=
  ⟨_, rfl, _, _, rfl, fits_str _, _, _, rfl, fits_str _, _, _, rfl, fits_str _, _, _, rfl,
    fits_parameters _, rfl⟩

theorem fits_remarks (remarks : List String) :
    Fits (.optional remarksShape) (remarksTree remarks) := by
  unfold remarksTree
  split
  · exact .inl rfl
  · exact .inr ⟨_, rfl, _, _, rfl, fits_stringsTree remarks, rfl⟩

section
variable {label : Shape}

theorem fits_cells {cells : List (Option String)} (h : ∀ c ∈ cells, Fits label (textOrNull c)) :
    Fits (cellsShape label) (flagged cellMembers cells) :=
  fits_flagged fun c hc => ⟨_, _, rfl, h c hc, rfl⟩

theorem fits_table {t : Table} (h : ∀ c ∈ t.labels, Fits label (textOrNull c)) :
    Fits (tableShape label) t.tree := by
  rw [Table.labels, List.forall_mem_append] at h
  have hrows : Fits (flaggedShape [("cells", cellsShape label)])
      (flagged (fun row => [("cells", flagged cellMembers row)]) t.rows) :=
    fits_flagged fun row hrow => ⟨_, _, rfl,
      fits_cells fun c hc => h.2 c (List.mem_flatten.2 ⟨row, hrow, hc⟩), rfl⟩
  exact ⟨_, rfl, _, _, rfl, fits_str _, _, _, rfl, fits_cells h.1, _, _, rfl, hrows, rfl⟩

theorem fits_steps {ss : List Step} (h : ∀ s ∈ ss, ∀ t ∈ s.table, ∀ c ∈ t.labels,
    Fits label (textOrNull c)) : Fits (stepsShape label) (stepsTree ss) := by
  refine fits_list fun s hs => ?_
  have htable : Fits (.optional (tableShape label)) ((s.table.map Table.tree).getD .null) := by
    cases ht : s.table with
    | none => exact .inl rfl
    | some t => exact .inr (fits_table (h s hs t ht))
  exact ⟨_, rfl, _, _, rfl, fits_str _, _, _, rfl, fits_str _, _, _, rfl, fits_str _, _, _, rfl,
    fits_str _, _, _, rfl, fits_arguments _, _, _, rfl, htable, rfl⟩

theorem fits_scenarios {ss : List Scenario} (h : ∀ s ∈ ss.flatMap (·.steps), ∀ t ∈ s.table,
    ∀ c ∈ t.labels, Fits label (textOrNull c)) :
    Fits (scenariosShape label) (.arr (ss.map Scenario.tree)) := by
  refine fits_list fun s hs => ?_
  have hsteps : Fits (stepsShape label) (stepsTree s.steps) :=
    fits_steps fun step hstep => h step (List.mem_flatMap.2 ⟨s, hs, hstep⟩)
  exact ⟨_, rfl, _, _, rfl, fits_str _, _, _, rfl, fits_str _, _, _, rfl, fits_remarks _, _, _, rfl,
    ⟨_, rfl⟩, _, _, rfl, fits_stringsTree _, _, _, rfl, fits_parameters _, _, _, rfl, hsteps, rfl⟩

/-- The tree of a plan has the shape of its labels. -/
theorem tree_fits {p : Plan} (h : ∀ l ∈ p.labels, Fits label (textOrNull l)) :
    Fits (planShape label) (tree p) := by
  rw [labels, List.forall_mem_append] at h
  obtain ⟨hnames, hcells⟩ := h
  have htables : ∀ s ∈ p.allSteps, ∀ t ∈ s.table, ∀ c ∈ t.labels, Fits label (textOrNull c) := by
    intro s hs t ht c hc
    refine hcells c (List.mem_flatMap.2 ⟨s, hs, ?_⟩)
    rw [Option.mem_def.1 ht]
    exact hc
  have hbackground : Fits (.optional (.record [("steps", stepsShape label)]))
      ((p.background.map fun ss => .obj [("steps", stepsTree ss)]).getD .null) := by
    cases hb : p.background with
    | none => exact .inl rfl
    | some ss =>
      refine .inr ⟨_, rfl, _, _, rfl, fits_steps fun s hs => htables s ?_, rfl⟩
      rw [allSteps, hb]
      exact List.mem_append_left _ hs
  have hrules : Fits (rulesShape label) (.arr (p.rules.map Rule.tree)) := by
    refine fits_list fun r hr => ?_
    have hscenarios : Fits (scenariosShape label) (.arr (r.scenarios.map Scenario.tree)) :=
      fits_scenarios fun s hs => htables s
        (List.mem_append_right _ (List.mem_flatMap.2 ⟨r, hr, hs⟩))
    exact ⟨_, rfl, _, _, rfl, hnames _ (List.mem_map_of_mem hr), _, _, rfl, fits_str _, _, _, rfl,
      hscenarios, rfl⟩
  exact ⟨_, rfl, _, _, rfl, fits_stringsTree _, _, _, rfl, fits_str _, _, _, rfl, fits_str _,
    _, _, rfl, fits_str _, _, _, rfl, fits_str _, _, _, rfl, fits_stringsTree _, _, _, rfl,
    fits_str _, _, _, rfl, fits_stringsTree _, _, _, rfl, hbackground, _, _, rfl, hrules, _, _, rfl,
    fits_list fun s _ => fits_stub s, rfl⟩

end

theorem fits_textOrNull (l : Option String) : Fits (.optional .text) (textOrNull l) := by
  cases l with
  | none => exact .inl rfl
  | some s => exact .inr (fits_str s)

theorem fits_text_of_isSome {l : Option String} (h : l.isSome = true) :
    Fits .text (textOrNull l) := by
  obtain ⟨s, rfl⟩ := Option.isSome_iff_exists.1 h
  exact fits_str s

/-! ## Exported trees -/

theorem distinct_planShape : ∀ label ∈ labelShapes, (planShape label).Distinct = true := by
  decide

theorem read_exported {label : Shape} (hlabel : label ∈ labelShapes) {t : Json}
    (h : Fits (planShape label) t) (indent : Nat) :
    Json.read (exported indent t) = .ok (dropNulls t) := by
  have hreadable : t.Readable := Fits.readable _ t (distinct_planShape label hlabel) h
  exact read_pretty (readable_dropNulls t hreadable) indent

/-! ## Top theorem -/

/-- **An export keeps its tree.**  It reads back as the tree without the members that are null, at
every level and for every indent; trees that differ are exported differently, since among the
members that every tree has only three may be null. -/
theorem export_keeps_tree :
    (∀ label ∈ labelShapes, ∀ t, Fits (planShape label) t → ∀ indent,
      ∃ w, Json.read (exported indent t) = .ok w ∧ Prunes t w) ∧
    (∀ label ∈ labelShapes, ∀ t u, Fits (planShape label) t → Fits (planShape label) u →
      ∀ m n, exported m t = exported n u → t = u) ∧
    (∀ t, Fits (planShape .text) t → ∀ name ∈ nullNames t,
      name ∈ ["background", "remarks", "data_table"]) ∧
    ∀ p : Plan, Fits (planShape (.optional .text)) (tree p) ∧
      ((∀ l ∈ p.labels, l.isSome = true) → Fits (planShape .text) (tree p)) ∧
      ∀ indent, exportText indent p = exported indent (tree p) := by
  refine ⟨fun label hlabel t ht indent => ?_, fun label hlabel t u ht hu m n h => ?_,
    fun t ht name hname => ?_, fun p => ⟨tree_fits fun l _ => fits_textOrNull l,
      fun h => tree_fits fun l hl => fits_text_of_isSome (h l hl), fun indent => rfl⟩⟩
  · exact ⟨_, read_exported hlabel ht indent, prunes_dropNulls t⟩
  · have hsame : dropNulls t = dropNulls u := by
      have hread := read_exported hlabel ht m
      rw [h, read_exported hlabel hu n] at hread
      exact (Except.ok.inj hread).symm
    exact Fits.dropNulls_inj _ t u (distinct_planShape label hlabel) ht hu hsame
  · have hnames : ∀ x ∈ (planShape .text).optionalNames,
        x ∈ ["background", "remarks", "data_table"] := by decide
    exact hnames name (ht.nullNames_subset _ _ name hname)

/-- A plan with a quotation and a line end in its texts, without a background. -/
def spoken : Plan :=
  { Plan.empty "talk.feature" with
    featureName := "Say \"hi\"",
    rules := [{ name := some "Greetings", description := "one\ntwo", scenarios := [] }] }

theorem spoken_exported :
    (∃ w, Json.read (exported 2 (tree spoken)) = .ok w ∧ Prunes (tree spoken) w) ∧
    exported 2 (tree spoken) ≠ exported 0 (tree (Plan.empty "talk.feature")) ∧
    nullNames (tree spoken) = ["background"] := by
  have hspoken : Fits (planShape .text) (tree spoken) :=
    (export_keeps_tree.2.2.2 spoken).2.1 (by decide)
  have hempty : Fits (planShape .text) (tree (Plan.empty "talk.feature")) :=
    (export_keeps_tree.2.2.2 _).2.1 (by decide)
  have hdiffer : tree spoken ≠ tree (Plan.empty "talk.feature") := by
    intro h
    have hrules : (tree spoken).member? "rules" =
        (tree (Plan.empty "talk.feature")).member? "rules" := by rw [h]
    simp [tree, member?, spoken, Plan.empty] at hrules
  exact ⟨export_keeps_tree.1 .text (by simp [labelShapes]) _ hspoken 2,
    fun h => hdiffer (export_keeps_tree.2.1 .text (by simp [labelShapes]) _ _ hspoken hempty 2 0 h),
    rfl⟩

end Acceptance.Plan
