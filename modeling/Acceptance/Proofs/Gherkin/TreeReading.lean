import Acceptance.Gherkin.TreeReader

/-!
# Reading the tree of a document

The tree of a document is read to its end.  What a plan does not ask for is left behind: keywords
and names of no use, tables of values without a header, the tags of a scenario behind the one that
is looked for, and the order of a background among the other children.

    documentOf (Document.tree d) = ⟨d.map Feature.bare, none⟩                (documentOf_tree)
-/

namespace Acceptance.Gherkin

/-! ## What is read -/

def Examples.bare? (e : Examples) : Option Examples :=
  e.header.map fun top =>
    { tags := [], keyword := "", name := "", description := "", header := some top, body := e.body }

/-- The tags up to one of a given name. -/
def tagsThrough (stop : String) : List String → List String
  | [] => []
  | t :: ts => if t = stop then [t] else t :: tagsThrough stop ts

def Scenario.bare (s : Scenario) : Scenario :=
  { tags := tagsThrough explicitTag s.tags, keyword := "", name := s.name,
    description := s.description, steps := s.steps, examples := s.examples.filterMap Examples.bare? }

def RuleChild.bare : RuleChild → RuleChild
  | .background _ => .background { keyword := "", name := "", description := "", steps := [] }
  | .scenario s => .scenario s.bare

def Rule.bare (r : Rule) : Rule :=
  { tags := [], keyword := "", name := r.name, description := r.description,
    children := r.children.map RuleChild.bare }

def Background.bare (b : Background) : Background :=
  { keyword := "", name := "", description := "", steps := b.steps }

section
variable (b : Background) (s : Scenario) (r : Rule)

def Child.bareBackground? : Child → Option Background
  | .background b => some b.bare
  | _ => none

@[simp] theorem Child.bareBackground?_background :
    (Child.background b).bareBackground? = some b.bare := rfl
@[simp] theorem Child.bareBackground?_scenario : (Child.scenario s).bareBackground? = none := rfl
@[simp] theorem Child.bareBackground?_rule : (Child.rule r).bareBackground? = none := rfl

def Child.bare? : Child → Option Child
  | .background _ => none
  | .scenario s => some (.scenario s.bare)
  | .rule r => some (.rule r.bare)

@[simp] theorem Child.bare?_background : (Child.background b).bare? = none := rfl
@[simp] theorem Child.bare?_scenario : (Child.scenario s).bare? = some (.scenario s.bare) := rfl
@[simp] theorem Child.bare?_rule : (Child.rule r).bare? = some (.rule r.bare) := rfl

end

def Feature.bare (f : Feature) : Feature :=
  { tags := f.tags, language := "", keyword := "", name := f.name, description := f.description,
    children := (f.children.filterMap Child.bareBackground?).map .background ++
      f.children.filterMap Child.bare? }

/-- Headers of tables of values whose every name is a text. -/
def Scenario.Headed (s : Scenario) : Prop :=
  ∀ e ∈ s.examples, ∀ top, e.header = some top → ∀ cell ∈ top, cell.value.isSome = true

def RuleChild.Headed : RuleChild → Prop
  | .background _ => True
  | .scenario s => s.Headed

def Child.Headed : Child → Prop
  | .background _ => True
  | .scenario s => s.Headed
  | .rule r => ∀ child ∈ r.children, child.Headed

def Feature.Headed (f : Feature) : Prop := ∀ child ∈ f.children, child.Headed

/-! ## Lists -/

theorem readAll_map {α β : Type} {f : Json → Portion (Option β)} {tree : α → Json}
    {g : α → Option β} {as : List α} (h : ∀ a ∈ as, f (tree a) = ⟨g a, none⟩) :
    readAll f (as.map tree) = ⟨as.filterMap g, none⟩ := by
  induction as with
  | nil => rfl
  | cons a as ih =>
    simp only [List.map_cons, readAll, h a List.mem_cons_self,
      ih fun b hb => h b (List.mem_cons_of_mem _ hb), List.filterMap_cons]
    cases g a <;> rfl

theorem mapM_map {α β : Type} {f : Json → Except Defect β} {tree : α → Json} {g : α → β}
    {as : List α} (h : ∀ a ∈ as, f (tree a) = .ok (g a)) :
    (as.map tree).mapM f = .ok (as.map g) := by
  induction as with
  | nil => rfl
  | cons a as ih =>
    simp only [List.map_cons, List.mapM_cons, h a List.mem_cons_self,
      ih fun b hb => h b (List.mem_cons_of_mem _ hb)]
    rfl

/-! ## Rows and steps -/

theorem textOf?_textOrNull (s : Option String) : textOf? (textOrNull s) = s := by
  cases s <;> rfl

theorem cellOf_tree (c : Cell) : cellOf c.tree = .ok c := by
  show Except.ok (⟨textOf? (textOrNull c.value)⟩ : Cell) = .ok c
  rw [textOf?_textOrNull]

theorem rowOf_tree (r : Row) : rowOf (rowTree r) = .ok r := by
  show (r.map Cell.tree).mapM cellOf = .ok r
  rw [mapM_map fun c _ => cellOf_tree c, List.map_id']

theorem rows_tree (rows : List Row) : (rows.map rowTree).mapM rowOf = .ok rows := by
  rw [mapM_map fun r _ => rowOf_tree r, List.map_id']

theorem keywordTypeOf_tree (s : Step) : keywordTypeOf s.tree = .ok s.type := by
  obtain ⟨keyword, type, text, table⟩ := s
  rcases type with (_ | _ | _) | _ | _ <;> rfl

theorem stepHead_tree (s : Step) : stepHead s.tree = .ok ({ s with text := "" }, .str s.text) := by
  have htype : keywordOf s.tree = .ok (s.type, s.keyword) := by
    rw [keywordOf, keywordTypeOf_tree]
    rfl
  rw [stepHead, htype]
  obtain ⟨keyword, type, text, table⟩ := s
  cases table with
  | none => rfl
  | some rows =>
    show (some <$> tableOf (.obj [("rows", rowsTree rows)]) >>= fun table =>
      pure (({ keyword, type, text := "", table } : Step), Json.str text)) = _
    have hrows : tableOf (.obj [("rows", rowsTree rows)]) = .ok rows := rows_tree rows
    rw [hrows]
    rfl

theorem stepOf_tree (s : Step) : stepOf s.tree = ⟨some s, none⟩ := by
  rw [stepOf, stepHead_tree]

theorem readSteps_tree {v : Json} {steps : List Step}
    (h : listOf v "steps" = .ok (steps.map Step.tree)) : readList v "steps" stepOf =
      ⟨steps, none⟩ := by
  rw [readList, h]
  simp only [readAll_map fun s _ => stepOf_tree s, List.filterMap_some]

/-! ## Scenarios -/

theorem headerOf_tree {isFirst : Bool} {top : Row} (h : ∀ cell ∈ top, cell.value.isSome = true) :
    headerOf isFirst (rowTree top) = .ok top := by
  have hany : top.any (·.value.isNone) = false :=
    List.any_eq_false.2 fun cell hcell => by simp [Option.isSome_iff_ne_none.1 (h cell hcell)]
  simp [headerOf, rowOf_tree, hany, bind, Except.bind, pure, Except.pure]

theorem examplesOf_tree {isFirst : Bool} {e : Examples}
    (h : ∀ top, e.header = some top → ∀ cell ∈ top, cell.value.isSome = true) :
    examplesOf isFirst e.tree = ⟨e.bare?, none⟩ := by
  obtain ⟨tags, keyword, name, description, header, body⟩ := e
  cases header with
  | none => rfl
  | some top =>
    have hbody : (Except.ok (body.map rowTree) >>= List.mapM rowOf : Except Defect (List Row)) =
        .ok body := rows_tree body
    have hmember : memberOr (Examples.tree ⟨tags, keyword, name, description, some top, body⟩)
        "tableHeader" .null = .ok (rowTree top) := rfl
    have hlist : listOf (Examples.tree ⟨tags, keyword, name, description, some top, body⟩)
        "tableBody" = .ok (body.map rowTree) := rfl
    have hheader : headerOf isFirst (rowTree top) = .ok top := headerOf_tree (h top rfl)
    rw [rowTree] at hmember hheader
    rw [examplesOf, hmember, hlist]
    simp only [hheader, hbody]
    rfl

theorem examplesFrom_tree {isFirst : Bool} {es : List Examples}
    (h : ∀ e ∈ es, ∀ top, e.header = some top → ∀ cell ∈ top, cell.value.isSome = true) :
    examplesFrom isFirst (es.map Examples.tree) = ⟨es.filterMap Examples.bare?, none⟩ := by
  induction es generalizing isFirst with
  | nil => rfl
  | cons e es ih =>
    simp only [List.map_cons, examplesFrom, examplesOf_tree (h e List.mem_cons_self),
      ih fun e' he => h e' (List.mem_cons_of_mem _ he), List.filterMap_cons]
    cases e.bare? <;> rfl

theorem tagsUntil_tree (stop : String) (tags : List String) :
    tagsUntil stop (tags.map fun t => .obj [("name", .str t)]) = .ok (tagsThrough stop tags) := by
  induction tags with
  | nil => rfl
  | cons t ts ih =>
    show (if t = stop then pure [t] else do
      return t :: (← tagsUntil stop (ts.map fun t => .obj [("name", .str t)]))) = _
    rw [ih, tagsThrough]
    split <;> rfl

theorem descriptionOf_member {v : Json} {s : String}
    (h : memberOr v "description" .null = .ok (.str s)) : descriptionOf v = .ok s := by
  rw [descriptionOf, h]
  show (if (Json.str s).truthy then textOf .noField (Json.str s) else return "") = _
  by_cases he : s = ""
  · subst he
    rfl
  · have ht : (Json.str s).truthy = true := by simp [Json.truthy, he]
    rw [if_pos ht]
    rfl

theorem scenarioHead_tree (s : Scenario) : scenarioHead s.tree =
    .ok { s.bare with steps := [], examples := [] } := by
  have hdescription : descriptionOf s.tree = .ok s.description := descriptionOf_member rfl
  have htags : listOf s.tree "tags" = .ok (s.tags.map fun t => .obj [("name", .str t)]) := rfl
  have hname : nameOf s.tree = .ok s.name := rfl
  rw [scenarioHead, hname, hdescription, htags]
  simp only [bind, Except.bind, tagsUntil_tree]
  rfl

theorem scenarioOf_tree {s : Scenario} (h : s.Headed) : scenarioOf s.tree = ⟨some s.bare, none⟩ := by
  have hexamples : listOf s.tree "examples" = .ok (s.examples.map Examples.tree) := rfl
  have hsteps : readList s.tree "steps" stepOf = ⟨s.steps, none⟩ := readSteps_tree rfl
  rw [scenarioOf, scenarioHead_tree, hexamples]
  simp only [examplesFrom_tree h, hsteps]
  rfl

/-! ## Children -/

theorem ruleChildOf_tree {child : RuleChild} (h : child.Headed) :
    ruleChildOf child.tree = ⟨some child.bare, none⟩ := by
  cases child with
  | background b => rfl
  | scenario s =>
    show (scenarioOf s.tree).map (fun s => s.map RuleChild.scenario) = _
    rw [scenarioOf_tree h]
    rfl

theorem ruleOf_tree {r : Rule} (h : ∀ child ∈ r.children, child.Headed) :
    ruleOf r.tree = ⟨some r.bare, none⟩ := by
  have hhead : ruleHead r.tree = .ok { r.bare with children := [] } := by
    have hdescription : descriptionOf r.tree = .ok r.description := descriptionOf_member rfl
    show (do
      let description ← descriptionOf r.tree
      pure ({ tags := [], keyword := "", name := textOf? (textOrNull r.name), description,
              children := [] } : Rule)) = _
    rw [hdescription, textOf?_textOrNull]
    rfl
  have hchildren : listOf r.tree "children" = .ok (r.children.map RuleChild.tree) := rfl
  rw [ruleOf, hhead]
  simp only [readList, hchildren, readAll_map fun child hc => ruleChildOf_tree (h child hc),
    Portion.map, Rule.bare, List.filterMap_eq_map']

theorem backgroundOf_tree (child : Child) :
    backgroundOf child.tree = ⟨child.bareBackground?, none⟩ := by
  cases child with
  | background b =>
    have hsteps : readList b.tree "steps" stepOf = ⟨b.steps, none⟩ := readSteps_tree rfl
    show (readList b.tree "steps" stepOf).map (fun steps => some
      ({ keyword := "", name := "", description := "", steps } : Background)) = _
    rw [hsteps]
    rfl
  | scenario s => rfl
  | rule r => rfl

theorem childOf_tree {child : Child} (h : child.Headed) :
    childOf child.tree = ⟨child.bare?, none⟩ := by
  cases child with
  | background b => rfl
  | scenario s =>
    show (scenarioOf s.tree).map (fun s => s.map Child.scenario) = _
    rw [scenarioOf_tree h]
    rfl
  | rule r =>
    show (ruleOf r.tree).map (fun r => r.map Child.rule) = _
    rw [ruleOf_tree h]
    rfl

/-! ## Top theorem -/

theorem featureOf_tree {f : Feature} (h : f.Headed) :
    featureOf f.tree = ⟨some f.bare, none⟩ := by
  have hhead : featureHead f.tree = .ok { f.bare with tags := [], children := [] } := by
    have hdescription : descriptionOf f.tree = .ok f.description := descriptionOf_member rfl
    have hname : nameOf f.tree = .ok f.name := rfl
    rw [featureHead, hname, hdescription]
    rfl
  have htags : readList f.tree "tags" (fun t => whole (tagOf t)) = ⟨f.tags, none⟩ := by
    show readAll _ (f.tags.map fun t => Json.obj [("name", .str t)]) = _
    rw [readAll_map (g := some) fun t _ => rfl, List.filterMap_some]
  have hchildren : childrenOf f.tree = ⟨f.bare.children, none⟩ := by
    have hlist : listOf f.tree "children" = .ok (f.children.map Child.tree) := rfl
    rw [childrenOf, hlist]
    simp only [readAll_map fun child _ => backgroundOf_tree child,
      readAll_map fun child hc => childOf_tree (h child hc), Portion.map]
    rfl
  rw [featureOf, hhead]
  simp only [htags, hchildren, Portion.map]
  rfl

/-- **The tree of a document is read to its end.** -/
theorem documentOf_tree {d : Document} (h : ∀ f, d = some f → f.Headed) :
    documentOf (Document.tree d) = ⟨d.map Feature.bare, none⟩ := by
  cases d with
  | none => rfl
  | some f =>
    show (if f.tree.truthy then featureOf f.tree else ⟨none, none⟩) = _
    rw [featureOf_tree (h f rfl)]
    rfl

end Acceptance.Gherkin
