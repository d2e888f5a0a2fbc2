import Acceptance.Proofs.Plan.Scenarios
import Acceptance.Proofs.Plan.UniqueNames
import Mathlib.Data.List.Nodup

/-!
# Stubs

The stubs of a plan are collected line by line.  What one line keeps of the stubs so far is that
their keys are the distinct keys of the lines, in the order of the lines, that no two have one
method, and that each was made of a line with its key (`StubsOf`); so it holds of all of them.
A line that no definition answers then finds the stub with its own key.

    StubsOf ls stubs → StubsOf (ls ++ [l]) (Stub.add stubs l)                     (stubsOf_add)
    p.stubs.map Stub.key = (unmatchedKeys c (documentLines d)).eraseDups
-/

namespace Acceptance.Plan

/-! ## Keys -/

/-- What lines have in common that one stub stands in for. -/
def Occurrence.key (l : Occurrence) : StepKind × String := (l.kind, l.line.text)

def Stub.key (s : Stub) : StepKind × String := (s.kind, s.text)

/-- Whether no definition answers a line. -/
def Occurrence.isUnmatched (c : Catalog) (l : Occurrence) : Bool :=
  (c.find? l.kind.word l.line.text).isNone

/-- The keys of the lines that no definition answers. -/
def unmatchedKeys (c : Catalog) (xs : List PlanLine) : List (StepKind × String) :=
  (xs.filter (·.line.isUnmatched c)).map (·.line.key)

theorem answers_iff {l : Occurrence} {s : Stub} : Stub.answers l s = true ↔ s.key = l.key := by
  simp [Stub.answers, Stub.key, Occurrence.key]

theorem resolution?_isNone (c : Catalog) (l : Occurrence) :
    (l.resolution? c).isNone = l.isUnmatched c := by
  simp [Occurrence.resolution?, Catalog.resolve?, Occurrence.isUnmatched]

theorem eraseDups_concat {α : Type} [BEq α] [LawfulBEq α] (as : List α) (a : α) :
    (as ++ [a]).eraseDups = as.eraseDups ++ if as.contains a then [] else [a] := by
  have hf : [a].removeAll as = if as.contains a then [] else [a] := by
    by_cases h : a ∈ as <;> simp [List.removeAll, h]
  rw [List.eraseDups_append, hf]
  split <;> rfl

/-! ## Collecting -/

/-- What holds of the stubs made of some lines. -/
structure StubsOf (ls : List Occurrence) (stubs : List Stub) : Prop where
  keys : stubs.map Stub.key = (ls.map Occurrence.key).eraseDups
  methods : (stubs.map (·.method)).Nodup
  made : ∀ s ∈ stubs, ∃ l ∈ ls, s.key = l.key ∧
    s.parameters = stubParameters l.line.text l.hasTable

theorem StubsOf.mem_keys_iff {ls : List Occurrence} {stubs : List Stub} (h : StubsOf ls stubs)
    {k : StepKind × String} : k ∈ stubs.map Stub.key ↔ k ∈ ls.map Occurrence.key := by
  rw [h.keys, List.mem_eraseDups]

/-- **One line.** -/
theorem stubsOf_add {ls : List Occurrence} {stubs : List Stub} (h : StubsOf ls stubs)
    (l : Occurrence) : StubsOf (ls ++ [l]) (Stub.add stubs l) := by
  have hmade : ∀ s ∈ stubs, ∃ l' ∈ ls ++ [l], s.key = l'.key ∧
      s.parameters = stubParameters l'.line.text l'.hasTable := by
    intro s hs
    obtain ⟨l', hl', hkey⟩ := h.made s hs
    exact ⟨l', List.mem_append_left _ hl', hkey⟩
  have hany : stubs.any (Stub.answers l) = true ↔ l.key ∈ ls.map Occurrence.key := by
    rw [← h.mem_keys_iff, List.any_eq_true, List.mem_map]
    simp only [answers_iff]
  unfold Stub.add
  by_cases hk : l.key ∈ ls.map Occurrence.key
  · -- a line with this key came before
    rw [if_pos (hany.2 hk)]
    refine ⟨?_, h.methods, hmade⟩
    rw [h.keys, List.map_append, List.map_singleton, eraseDups_concat,
      if_pos (List.contains_iff_mem.2 hk), List.append_nil]
  · rw [if_neg fun ha => hk (hany.1 ha)]
    refine ⟨?_, ?_, ?_⟩
    · rw [List.map_append, h.keys, List.map_append, List.map_singleton, List.map_singleton,
        eraseDups_concat, if_neg fun hc => hk (List.contains_iff_mem.1 hc)]
      rfl
    · rw [List.map_append, List.nodup_append]
      refine ⟨h.methods, by simp, ?_⟩
      intro m hm m' hm' he
      rw [List.map_cons, List.map_nil, List.mem_singleton] at hm'
      exact unique_not_mem _ _ (hm' ▸ he ▸ hm)
    · intro s hs
      rcases List.mem_append.1 hs with hs | hs
      · exact hmade s hs
      · rw [List.mem_singleton.1 hs]
        exact ⟨l, by simp, rfl, rfl⟩

/-- **All lines.** -/
theorem stubsOf_foldl {before : List Occurrence} {stubs : List Stub} (h : StubsOf before stubs)
    (ls : List Occurrence) : StubsOf (before ++ ls) (ls.foldl Stub.add stubs) := by
  induction ls generalizing before stubs with
  | nil => simpa using h
  | cons l ls ih => simpa using ih (stubsOf_add h l)

theorem stubsOf_collect (c : Catalog) (ls : List Occurrence) :
    StubsOf (ls.filter (·.isUnmatched c)) (Stub.collect c ls) := by
  have hnil : StubsOf [] [] := ⟨rfl, List.nodup_nil, fun s hs => by cases hs⟩
  have h := stubsOf_foldl hnil (ls.filter (·.isUnmatched c))
  unfold Stub.collect
  simp only [resolution?_isNone]
  exact h

/-! ## Lines of a shaped feature -/

/-- Where the rules come last, the lines of a plan keep the order of the document. -/
theorem planLines_of_shaped {f : Gherkin.Feature} (h : f.Shaped) :
    (planLines f).map (·.line) = allOccurrences f := by
  have hgathered := gatheredScenarios_of_shaped h
  obtain ⟨bs, ss, rs, hchildren, hbs⟩ := h
  have hbackgrounds : backgrounds f = bs := by
    simp [hchildren, backgrounds, List.filterMap_append, List.filterMap_map]
  unfold planLines allOccurrences
  rw [hgathered, hbackgrounds, List.map_append, List.map_flatMap]
  congr 1
  · cases bs with
    | nil => rfl
    | cons b others =>
      have hnone : others = [] := List.length_eq_zero_iff.1 (by simpa using hbs)
      subst hnone
      simp [backgroundLines, Function.comp_def]
  · simp [scenarioLines, Function.comp_def]

/-! ## Calls of stubs -/

/-- What a step passes for a parameter of its stub: its data table or nothing in its place, and for
a placeholder of its text the reference that the placeholder is. -/
inductive PassedFor (o : Outline) (text : String) (t : Option Table) : Parameter → Argument → Prop
  | table (name : String) (u : Table) : t = some u →
      PassedFor o text t ⟨.table, name⟩ ⟨u.variableName, .named u.variableName⟩
  | noTable (name : String) : t = none → PassedFor o text t ⟨.table, name⟩ ⟨"None", .nothing⟩
  | reference (r : Reference) : r ∈ references text →
      PassedFor o text t ⟨.text, r.parameter⟩
        ⟨"<" ++ r.column ++ ">", .ofText ("<" ++ r.column ++ ">") "str" o⟩

/-- A step of a line that calls a stub with one argument for each parameter, in order. -/
structure Step.CallsStub (s : Step) (x : PlanLine) (stub : Stub) : Prop where
  key : stub.key = x.line.key
  owner : s.owner = selfOwner
  method : s.method = stub.method
  arguments : List.Forall₂ (PassedFor x.outline s.text s.table) stub.parameters s.arguments

theorem passedFor_stubArgument (o : Outline) {text : String} (t : Option Table) {hasTable : Bool}
    {p : Parameter} (hp : p ∈ stubParameters text hasTable) :
    PassedFor o text t p (stubArgument o text t p) := by
  have hcases : (∃ r ∈ references text, p = ⟨.text, r.parameter⟩) ∨ ∃ name, p = ⟨.table, name⟩ := by
    unfold stubParameters at hp
    simp only at hp
    split at hp
    · rcases List.mem_append.1 hp with hp | hp
      · obtain ⟨r, hr, rfl⟩ := List.mem_map.1 hp
        exact .inl ⟨r, hr, rfl⟩
      · exact .inr ⟨_, List.mem_singleton.1 hp⟩
    · obtain ⟨r, hr, rfl⟩ := List.mem_map.1 hp
      exact .inl ⟨r, hr, rfl⟩
  rcases hcases with ⟨r, hr, rfl⟩ | ⟨name, rfl⟩
  · -- the reference found for a parameter has its name, so it is as good as `r`
    cases hf : (references text).find? fun q => q.parameter == r.parameter with
    | none => simpa using List.find?_eq_none.1 hf r hr
    | some q =>
      have hq : q.parameter = r.parameter := by simpa using List.find?_some hf
      have harg := PassedFor.reference (o := o) (t := t) q (List.mem_of_find?_eq_some hf)
      rw [hq] at harg
      simpa [stubArgument, hf] using harg
  · cases t with
    | none => exact .noTable name rfl
    | some u => exact .table name u rfl

/-- A line that no definition answers calls the stub with its key. -/
theorem planStub_callsStub {c : Catalog} {ls : List Occurrence} {stubs : List Stub}
    (h : StubsOf (ls.filter (·.isUnmatched c)) stubs) {x : PlanLine} (hx : x.line ∈ ls)
    (hun : x.line.isUnmatched c = true) :
    ∃ stub ∈ stubs, (x.line.planStub stubs x.outline).CallsStub x stub := by
  have hkey : x.line.key ∈ stubs.map Stub.key := by
    rw [h.mem_keys_iff]
    exact List.mem_map.2 ⟨x.line, List.mem_filter.2 ⟨hx, hun⟩, rfl⟩
  cases hf : stubs.find? (Stub.answers x.line) with
  | none =>
    obtain ⟨s, hs, hsk⟩ := List.mem_map.1 hkey
    exact absurd (answers_iff.2 hsk) (by simpa using List.find?_eq_none.1 hf s hs)
  | some stub =>
    have hstub := List.mem_of_find?_eq_some hf
    have hk : stub.key = x.line.key := answers_iff.1 (List.find?_some hf)
    obtain ⟨l, -, hl, hparams⟩ := h.made stub hstub
    have htext : l.line.text = x.line.line.text := (congrArg Prod.snd (hl.symm.trans hk) :)
    refine ⟨stub, hstub, hk, rfl, by simp [Occurrence.planStub, hf], ?_⟩
    simp only [Occurrence.planStub, hf, Option.map_some, Option.getD_some]
    rw [List.forall₂_map_right_iff, List.forall₂_same]
    intro p hp
    rw [hparams, htext] at hp
    exact passedFor_stubArgument x.outline x.line.table? hp

theorem owner_ne_of_find? {c : Catalog} {keyword text : String} {d : StepDefinition}
    (hself : ∀ d ∈ c, d.owner ≠ selfOwner) (h : c.find? keyword text = some d) :
    d.owner ≠ selfOwner := by
  unfold Catalog.find? at h
  split at h
  · obtain rfl := Option.some.inj h
    next hf => exact hself _ (List.mem_filter.1 (List.mem_of_find?_eq_some hf)).1
  · exact hself _ (List.mem_filter.1 (List.mem_of_find?_eq_some h)).1

/-- With no definition of the test class's own, the steps of the test class are the unmatched. -/
theorem isStub_step {c : Catalog} (hself : ∀ d ∈ c, d.owner ≠ selfOwner) (stubs : List Stub)
    (x : PlanLine) : (x.step c stubs).isStub = x.line.isUnmatched c := by
  unfold PlanLine.step Occurrence.plan Occurrence.resolution? Catalog.resolve?
    Occurrence.isUnmatched
  cases hf : c.find? x.line.kind.word x.line.line.text with
  | none => simp [Occurrence.planStub, Step.isStub]
  | some d => simpa [Occurrence.planMatched, Step.isStub] using owner_ne_of_find? hself hf

theorem step_of_unmatched {c : Catalog} (stubs : List Stub) {x : PlanLine}
    (h : x.line.isUnmatched c = true) : x.step c stubs = x.line.planStub stubs x.outline := by
  rw [← resolution?_isNone, Option.isNone_iff_eq_none] at h
  unfold PlanLine.step Occurrence.plan
  rw [h]

/-! ## Top theorem -/

/-- **One stub for each kind and text.**  The stubs of a plan are the distinct keys of the lines
that no definition answers, in the order of the plan's steps, under methods that differ; these
steps, and no others, belong to the test class, and each calls the stub with its own key. -/
theorem stubs_of_unmatched_steps (c : Catalog) (hself : ∀ d ∈ c, d.owner ≠ selfOwner)
    (fileName : String) (d : Gherkin.Document) (hshaped : ∀ f, d = some f → f.Shaped) (p : Plan)
    (h : convert c fileName d = .ok p) :
    p.stubs.map Stub.key = (unmatchedKeys c (documentLines d)).eraseDups ∧
    (p.stubs.map (·.method)).Nodup ∧
    List.Forall₂ (fun (x : PlanLine) (s : Step) =>
      s.text = x.line.line.text ∧ s.isStub = x.line.isUnmatched c ∧
      (x.line.isUnmatched c = true → ∃ stub ∈ p.stubs, s.CallsStub x stub))
      (documentLines d) p.allSteps := by
  rw [allSteps_of_convert h]
  cases d with
  | none =>
    obtain rfl := Except.ok.inj h
    exact ⟨rfl, List.nodup_nil, .nil⟩
  | some f =>
    have hlines := planLines_of_shaped (hshaped f rfl)
    have hstubs : StubsOf (((planLines f).map (·.line)).filter (·.isUnmatched c)) p.stubs := by
      rw [(convert_some_eq_ok_iff.1 h).2, hlines]
      exact stubsOf_collect c (allOccurrences f)
    refine ⟨?_, hstubs.methods, ?_⟩
    · rw [hstubs.keys]
      simp [unmatchedKeys, documentLines, List.filter_map, Function.comp_def]
    · rw [List.forall₂_map_right_iff, List.forall₂_same]
      intro x hx
      have hp : p.stubs = stubsOf c f := by rw [(convert_some_eq_ok_iff.1 h).2]; rfl
      refine ⟨(x.step_text_table c _).1, isStub_step hself _ x, fun hun => ?_⟩
      rw [step_of_unmatched _ hun, hp]
      exact planStub_callsStub (hp ▸ hstubs) (List.mem_map.2 ⟨x, hx, rfl⟩) hun

/-- A definition for the last step of `waitFeature`. -/
def overDefinition : StepDefinition :=
  { kind := .outcome, pattern := "it is over", owner := "Waiting", module := "steps",
    method := "over", parameters := [] }

def waitBackground : Gherkin.Background :=
  { keyword := "Background", name := "", description := "",
    steps := [⟨"Given ", .kind .context, "a <thing> waits", some [[⟨some "name"⟩]]⟩] }

def waitScenario : Gherkin.Scenario :=
  { tags := [], keyword := "Scenario", name := "Wait", description := "", examples := [],
    steps := [⟨"And ", .conjunction, "a <thing> waits", none⟩,
      ⟨"When ", .kind .action, "a <thing> waits", none⟩,
      ⟨"Then ", .kind .outcome, "it is over", none⟩] }

/-- One text under two kinds, with and without a data table, in a background and a scenario. -/
def waitFeature : Gherkin.Feature :=
  { tags := [], language := "en", keyword := "Feature", name := "Waiting", description := "",
    children := [.background waitBackground, .scenario waitScenario] }

theorem waitFeature_shaped : waitFeature.Shaped :=
  ⟨[waitBackground], [waitScenario], [], rfl, Nat.le_refl _⟩

theorem waitFeature_stubs :
    ∃ p s₁ s₂ s₃ s₄ stub, convert [overDefinition] "waiting" (some waitFeature) = .ok p ∧
      p.stubs.map Stub.key = [(.context, "a <thing> waits"), (.action, "a <thing> waits")] ∧
      p.allSteps = [s₁, s₂, s₃, s₄] ∧ stub ∈ p.stubs ∧
      s₁.method = stub.method ∧ s₂.method = stub.method ∧
      s₂.arguments.length = stub.parameters.length := by
  have hfaults : faults [overDefinition] waitFeature = [] := by decide +kernel
  have hc : convert [overDefinition] "waiting" (some waitFeature) =
      .ok (plan [overDefinition] "waiting" waitFeature) := by
    simp only [convert, hfaults, List.head?_nil]
  obtain ⟨hkeys, hmethods, h⟩ := stubs_of_unmatched_steps [overDefinition] (by decide) "waiting"
    (some waitFeature) (fun f hf => Option.some.inj hf ▸ waitFeature_shaped) _ hc
  have hkeys' : (unmatchedKeys [overDefinition] (documentLines (some waitFeature))).eraseDups =
      [(.context, "a <thing> waits"), (.action, "a <thing> waits")] := by decide +kernel
  obtain ⟨s₁, l₁, h₁, hl₁, e₁⟩ := List.forall₂_cons_left_iff.1 h
  obtain ⟨s₂, l₂, h₂, hl₂, e₂⟩ := List.forall₂_cons_left_iff.1 hl₁
  obtain ⟨s₃, l₃, h₃, hl₃, e₃⟩ := List.forall₂_cons_left_iff.1 hl₂
  obtain ⟨s₄, l₄, h₄, hl₄, e₄⟩ := List.forall₂_cons_left_iff.1 hl₃
  obtain rfl := List.forall₂_nil_left_iff.1 hl₄
  have hun : Occurrence.isUnmatched [overDefinition]
      ⟨.context, 0, ⟨"And ", .conjunction, "a <thing> waits", none⟩⟩ = true := by decide +kernel
  obtain ⟨stub₁, hs₁, hc₁⟩ := h₁.2.2 hun
  obtain ⟨stub₂, hs₂, hc₂⟩ := h₂.2.2 hun
  have hkey : stub₁ = stub₂ := by
    have hnodup : ((plan [overDefinition] "waiting" waitFeature).stubs.map Stub.key).Nodup := by
      rw [hkeys, hkeys']
      decide
    exact List.inj_on_of_nodup_map hnodup hs₁ hs₂ (hc₁.key.trans hc₂.key.symm)
  exact ⟨_, s₁, s₂, s₃, s₄, stub₂, hc, hkeys.trans hkeys', by rw [e₁, e₂, e₃, e₄], hs₂,
    hkey ▸ hc₁.method, hc₂.method, hc₂.arguments.length_eq.symm⟩

end Acceptance.Plan
