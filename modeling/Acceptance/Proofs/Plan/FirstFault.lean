import Acceptance.Proofs.Gherkin.Regular
import Acceptance.Proofs.Plan.Calls
import Acceptance.Proofs.Text.Split
import Mathlib.Data.List.Enum

/-!
# The first fault of a feature

A fault belongs to a spot of the feature: a tag, the header of a table of values beside the first
one, a row of a data table, the call of a definition, or the background of a rule.  The spots stand
in the order of the trials, so the fault that stops a conversion is that of the first spot that has
one; and some spot has one exactly where the feature is faulty somewhere.

    (faults c f).head? = (spots f).findSome? (Spot.fault? c)                 (head?_faults)
    Spot.fault? c spot = some e ↔ FaultAt c spot e                           (fault?_eq_some_iff)
    FirstFault c f e ↔ (faults c f).head? = some e                           (firstFault_iff)
    (∃ e, FirstFault c f e) ↔ Faulty c f                                     (exists_firstFault_iff)
-/

namespace Acceptance.Plan

open Acceptance.Text

/-! ## Dotted names -/

/-- A text made of parts with dots between them, each a letter or an underscore of ASCII with word
characters behind it. -/
def IsDotted (s : String) : Prop :=
  ∃ parts : List (List Char), parts ≠ [] ∧ s.toList = ['.'].intercalate parts ∧
    ∀ part ∈ parts, ∃ c rest, part = c :: rest ∧ isPlainLetter c = true ∧
      ∀ d ∈ rest, isWordChar d = true

theorem isDottedPart_iff (part : List Char) : isDottedPart part = true ↔
    ∃ c rest, part = c :: rest ∧ isPlainLetter c = true ∧ ∀ d ∈ rest, isWordChar d = true := by
  cases part with
  | nil => simp [isDottedPart]
  | cons c rest => simp [isDottedPart]

theorem dot_not_mem_of_isDottedPart {part : List Char} (h : isDottedPart part = true) :
    '.' ∉ part := by
  obtain ⟨c, rest, rfl, hc, hrest⟩ := (isDottedPart_iff part).1 h
  intro hdot
  rcases List.mem_cons.1 hdot with rfl | hdot
  · exact absurd hc (by decide)
  · exact absurd (hrest '.' hdot) (by decide)

/-- Without a line feed at its end, a text passes the test just when it is a dotted name. -/
theorem isDottedName_iff {s : String} (h : '\n' ∉ s.toList) :
    isDottedName s = true ↔ IsDotted s := by
  have hlast : s.toList.getLast? ≠ some '\n' := fun hl => h (List.mem_of_getLast? hl)
  unfold isDottedName IsDotted
  simp only [hlast, if_false, List.all_eq_true, ← isDottedPart_iff]
  constructor
  · intro hparts
    exact ⟨_, splitAt_ne_nil '.' _, (intercalate_splitAt '.' _).symm, hparts⟩
  · rintro ⟨parts, hne, hs, hparts⟩
    rw [hs, splitAt_intercalate hne fun part hp => dot_not_mem_of_isDottedPart (hparts part hp)]
    exact hparts

/-! ## Spots -/

/-- A place of a feature where it may be faulty. -/
inductive Spot where
  | tag (t : String)
  | ruleBackground (rule : Option String)
  /-- The header of a table of values of a scenario, with the first header. -/
  | header (scenario : String) (first other : Gherkin.Row)
  /-- A row of a data table, counted from one, with the header. -/
  | row (number : Nat) (header row : Gherkin.Row)
  | call (l : Occurrence)

/-- The beginnings of the tags that have a dotted name behind them. -/
def dottedTags : List String := ["@namespace:", "@baseclass:", "@using:"]

/-- What is wrong at a spot. -/
inductive FaultAt (c : Catalog) : Spot → Fault → Prop
  | tag (start value : String) : start ∈ dottedTags → ¬ IsDotted value →
      FaultAt c (.tag (start ++ value)) (.tag (start ++ value))
  | ruleBackground (rule : Option String) : FaultAt c (.ruleBackground rule) (.ruleBackground rule)
  | columns (scenario : String) (first other : Gherkin.Row) : cellsOf other ≠ cellsOf first →
      FaultAt c (.header scenario first other) (.columns scenario (cellsOf first) (cellsOf other))
  | ragged (number : Nat) (header row : Gherkin.Row) : row.length ≠ header.length →
      FaultAt c (.row number header row) (.raggedRow number row.length header.length)
  | arity (l : Occurrence) (d : StepDefinition) (supplied : Nat) :
      c.find? l.kind.word l.line.text = some d →
      supplied = (capturedTexts d l.line.text).length + (if l.hasTable then 1 else 0) →
      d.parameters.length ≠ supplied →
      FaultAt c (.call l)
        (.arity l.keyword l.line.text d.qualifiedMethod d.parameters.length supplied)

/-- The rows of a data table behind its header. -/
def tableSpots : List Gherkin.Row → List Spot
  | [] => []
  | header :: rows => (rows.zipIdx 1).map fun (row, n) => .row n header row

/-- A step line: its table comes before its call. -/
def lineSpots (l : Occurrence) : List Spot := tableSpots (l.line.table.getD []) ++ [.call l]

def stepSpots (steps : List Gherkin.Step) : List Spot := (occurrences steps).flatMap lineSpots

/-- The headers of the tables of values. -/
def headerSpots (scenario : String) (examples : List Gherkin.Examples) : List Spot :=
  match examples.filterMap (·.header) with
  | [] => []
  | first :: others => others.map (.header scenario first)

/-- A scenario: its tables of values come before its steps. -/
def scenarioSpots (s : Gherkin.Scenario) : List Spot :=
  headerSpots s.name s.examples ++ stepSpots s.steps

def ruleSpots (r : Gherkin.Rule) : List Spot :=
  r.children.flatMap fun
    | .background _ => [.ruleBackground r.name]
    | .scenario s => scenarioSpots s

def childSpots : Gherkin.Child → List Spot
  | .background _ => []
  | .scenario s => scenarioSpots s
  | .rule r => ruleSpots r

/-- The spots of a feature: its tags, its background, then its children as they stand. -/
def spots (f : Gherkin.Feature) : List Spot :=
  f.tags.map .tag ++ (backgrounds f).flatMap (fun b => stepSpots b.steps) ++
    f.children.flatMap childSpots

/-- The fault of the first spot that has one. -/
def FirstFault (c : Catalog) (f : Gherkin.Feature) (e : Fault) : Prop :=
  ∃ before spot behind, spots f = before ++ spot :: behind ∧ FaultAt c spot e ∧
    ∀ other ∈ before, ∀ e', ¬ FaultAt c other e'

/-! ## The fault of a spot -/

/-- The fault of a spot, as the trials find it. -/
def Spot.fault? (c : Catalog) : Spot → Option Fault
  | .tag t => tagFault? t
  | .ruleBackground rule => some (.ruleBackground rule)
  | .header scenario first other =>
    if cellsOf other = cellsOf first then none
    else some (.columns scenario (cellsOf first) (cellsOf other))
  | .row number top cells =>
    if cells.length = top.length then none else some (.raggedRow number cells.length top.length)
  | .call l => (l.resolution? c).bind fun r => arityFault? r l

theorem behind?_eq_some_iff {start text value : String} :
    behind? start text = some value ↔ text = start ++ value := by
  rw [behind?, ← String.toList_inj, String.toList_append]
  constructor
  · intro h
    split at h
    · rename_i hp
      obtain ⟨rest, hrest⟩ := List.isPrefixOf_iff_prefix.1 hp
      obtain rfl := Option.some.inj h
      rw [← hrest, String.toList_ofList, ← String.length_toList, List.drop_left]
    · cases h
  · intro h
    have hp : start.toList.isPrefixOf text.toList = true :=
      List.isPrefixOf_iff_prefix.2 ⟨value.toList, h.symm⟩
    rw [if_pos hp, h, ← String.length_toList, List.drop_left, String.ofList_toList]

/-- No text has two of the beginnings: they part at the second character. -/
theorem behind?_of_append {start other : String} (hs : start ∈ dottedTags) (ho : other ∈ dottedTags)
    (hne : other ≠ start) (value : String) : behind? other (start ++ value) = none := by
  have hfront : other.toList.isPrefixOf (start ++ value).toList = false := by
    simp only [dottedTags, List.mem_cons, List.not_mem_nil, or_false] at hs ho
    rcases hs with rfl | rfl | rfl <;> rcases ho with rfl | rfl | rfl <;>
      first
      | exact absurd rfl hne
      | simp [String.toList_append, List.isPrefixOf]
  rw [behind?, hfront]
  rfl

theorem value_of_directive? {start : String} (hs : start ∈ dottedTags) (value : String) :
    (directive? (start ++ value)).map (·.value) = some value := by
  have hstart : behind? start (start ++ value) = some value := behind?_eq_some_iff.2 rfl
  unfold directive? directives
  have hother : ∀ other ∈ dottedTags, other ≠ start → behind? other (start ++ value) = none :=
    fun other ho hne => behind?_of_append hs ho hne value
  simp only [dottedTags, List.mem_cons, List.not_mem_nil, or_false, forall_eq_or_imp,
    forall_eq] at hs hother
  obtain ⟨h₁, h₂, h₃⟩ := hother
  rcases hs with rfl | rfl | rfl
  · simp [List.findSome?, hstart, Directive.value]
  · simp [List.findSome?, h₁ (by decide), hstart, Directive.value]
  · simp [List.findSome?, h₁ (by decide), h₂ (by decide), hstart, Directive.value]

theorem start_of_directive? {tag : String} {d : Directive} (h : directive? tag = some d) :
    ∃ start ∈ dottedTags, tag = start ++ d.value := by
  unfold directive? directives at h
  obtain ⟨⟨start, make⟩, hmem, hmake⟩ := List.exists_of_findSome?_eq_some h
  obtain ⟨value, hvalue, rfl⟩ := Option.map_eq_some_iff.1 hmake
  refine ⟨start, ?_, ?_⟩
  · simp at hmem
    rcases hmem with ⟨rfl, -⟩ | ⟨rfl, -⟩ | ⟨rfl, -⟩ <;> simp [dottedTags]
  · rw [behind?_eq_some_iff.1 hvalue]
    simp at hmem
    rcases hmem with ⟨-, rfl⟩ | ⟨-, rfl⟩ | ⟨-, rfl⟩ <;> rfl

theorem tagFault?_eq_some_iff {tag : String} (h : '\n' ∉ tag.toList) {e : Fault} :
    tagFault? tag = some e ↔
      ∃ start ∈ dottedTags, ∃ value, tag = start ++ value ∧ ¬ IsDotted value ∧ e = .tag tag := by
  have hline : ∀ start value : String, tag = start ++ value → '\n' ∉ value.toList := by
    rintro start value rfl hmem
    exact h (by rw [String.toList_append]; exact List.mem_append_right _ hmem)
  unfold tagFault?
  constructor
  · intro hfault
    split at hfault
    · rename_i d hd
      obtain ⟨start, hstart, htag⟩ := start_of_directive? hd
      split at hfault
      · cases hfault
      · rename_i hname
        rw [isDottedName_iff (hline start d.value htag)] at hname
        exact ⟨start, hstart, d.value, htag, hname, (Option.some.inj hfault).symm⟩
    · cases hfault
  · rintro ⟨start, hstart, value, htag, hname, rfl⟩
    obtain ⟨d, hd, hvalue⟩ := Option.map_eq_some_iff.1 (value_of_directive? hstart value)
    rw [← htag] at hd
    rw [hd]
    simp only [hvalue]
    rw [if_neg (by rwa [isDottedName_iff (hline start value htag)])]

theorem fault?_eq_some_iff {c : Catalog} {spot : Spot} {e : Fault}
    (h : ∀ t, spot = .tag t → '\n' ∉ t.toList) : spot.fault? c = some e ↔ FaultAt c spot e := by
  constructor
  · intro hfault
    cases spot with
    | tag t =>
      obtain ⟨start, hstart, value, rfl, hname, rfl⟩ := (tagFault?_eq_some_iff (h t rfl)).1 hfault
      exact .tag start value hstart hname
    | ruleBackground rule =>
      obtain rfl := Option.some.inj hfault
      exact .ruleBackground rule
    | header scenario first other =>
      obtain ⟨hne, he⟩ := Option.ite_none_left_eq_some.1 hfault
      exact Option.some.inj he ▸ .columns scenario first other hne
    | row number top cells =>
      obtain ⟨hne, he⟩ := Option.ite_none_left_eq_some.1 hfault
      exact Option.some.inj he ▸ .ragged number top cells hne
    | call l =>
      obtain ⟨r, hr, harity⟩ := Option.bind_eq_some_iff.1 hfault
      obtain ⟨hne, he⟩ := Option.ite_none_left_eq_some.1 harity
      obtain ⟨d, hd, rfl⟩ := Option.map_eq_some_iff.1 hr
      rw [arguments_eq_capturedTexts] at hne he
      exact Option.some.inj he ▸ .arity l d _ hd rfl fun heq => hne heq.symm
  · intro hfault
    cases hfault with
    | tag start value hstart hname =>
      exact (tagFault?_eq_some_iff (h _ rfl)).2 ⟨start, hstart, value, rfl, hname, rfl⟩
    | ruleBackground rule => rfl
    | columns scenario first other hne => exact if_neg hne
    | ragged number top cells hne => exact if_neg hne
    | arity l d supplied hd hs hne =>
      subst hs
      simp only [Spot.fault?, resolution?_of_find? hd, Option.bind_some, arityFault?]
      exact if_neg fun heq => hne heq.symm

/-! ## The faults of the trials -/

theorem findSome?_tableSpots (c : Catalog) (rows : List Gherkin.Row) :
    (tableSpots rows).findSome? (Spot.fault? c) = raggedFault? rows := by
  cases rows with
  | nil => rfl
  | cons top rows =>
    simp only [tableSpots, raggedFault?]
    -- the rows behind the header, counted from any number
    generalize 1 = n
    induction rows generalizing n with
    | nil => rfl
    | cons row rows ih =>
      simp only [List.zipIdx_cons, List.map_cons, List.findSome?_cons, Spot.fault?, raggedFrom?, ih]
      by_cases hw : row.length = top.length
      · rw [if_pos hw, if_pos hw]
      · rw [if_neg hw, if_neg hw]

theorem fault_trial (c : Catalog) (stubs : List Stub) (l : Occurrence) :
    (l.trial c stubs).fault = (lineSpots l).findSome? (Spot.fault? c) := by
  have htable : l.line.table.bind raggedFault? = raggedFault? (l.line.table.getD []) := by
    cases l.line.table <;> rfl
  rw [lineSpots, List.findSome?_append, findSome?_tableSpots, ← htable, Occurrence.trial]
  cases l.line.table.bind raggedFault? with
  | some fault => rfl
  | none =>
    simp only [List.findSome?_cons, List.findSome?_nil, Spot.fault?, Option.none_or]
    cases l.resolution? c with
    | none => rfl
    | some r => cases h : arityFault? r l <;> simp [h]

theorem findSome?_flatMap_congr {α β γ δ : Type} {p : β → Option δ} {q : γ → Option δ}
    {g : α → List β} {h : α → List γ} {as : List α}
    (heq : ∀ a ∈ as, (g a).findSome? p = (h a).findSome? q) :
    (as.flatMap g).findSome? p = (as.flatMap h).findSome? q := by
  induction as with
  | nil => rfl
  | cons a as ih =>
    simp only [List.flatMap_cons, List.findSome?_append]
    rw [heq a List.mem_cons_self, ih fun b hb => heq b (List.mem_cons_of_mem _ hb)]

section
variable (c : Catalog) (stubs : List Stub)

theorem findSome?_stepTrials (steps : List Gherkin.Step) :
    (stepTrials c stubs steps).findSome? (·.fault) =
      (stepSpots steps).findSome? (Spot.fault? c) := by
  unfold stepTrials stepSpots
  rw [List.map_eq_flatMap]
  refine findSome?_flatMap_congr fun l _ => ?_
  simp [fault_trial]

theorem findSome?_scenarioTrials (s : Gherkin.Scenario) :
    (scenarioTrials c stubs s).findSome? (·.fault) =
      (scenarioSpots s).findSome? (Spot.fault? c) := by
  have hheaders : ((columnFaults s.name s.examples).map faultTrial).findSome? (·.fault) =
      (headerSpots s.name s.examples).findSome? (Spot.fault? c) := by
    unfold columnFaults headerSpots
    cases s.examples.filterMap (·.header) with
    | nil => rfl
    | cons first others =>
      induction others with
      | nil => rfl
      | cons other others ih =>
        by_cases heq : cellsOf other = cellsOf first
        · simpa [Spot.fault?, heq] using ih
        · simp [Spot.fault?, heq, faultTrial]
  rw [scenarioTrials, scenarioSpots, List.findSome?_append, List.findSome?_append, hheaders,
    findSome?_stepTrials]

theorem findSome?_childTrials (child : Gherkin.Child) :
    (childTrials c stubs child).findSome? (·.fault) =
      (childSpots child).findSome? (Spot.fault? c) := by
  cases child with
  | background b => rfl
  | scenario s => exact findSome?_scenarioTrials c stubs s
  | rule r =>
    refine findSome?_flatMap_congr fun child _ => ?_
    cases child with
    | background b => rfl
    | scenario s => exact findSome?_scenarioTrials c stubs s

end

/-- **The fault of a feature is that of its first faulty spot.** -/
theorem head?_faults (c : Catalog) (f : Gherkin.Feature) :
    (faults c f).head? = (spots f).findSome? (Spot.fault? c) := by
  have htags : ((f.tags.filterMap tagFault?).map faultTrial).findSome? (·.fault) =
      (f.tags.map Spot.tag).findSome? (Spot.fault? c) := by
    induction f.tags with
    | nil => rfl
    | cons t ts ih => cases h : tagFault? t <;> simp [h, ih, Spot.fault?, faultTrial]
  rw [faults, List.head?_filterMap, trials, spots, List.findSome?_append, List.findSome?_append,
    List.findSome?_append, List.findSome?_append, htags,
    findSome?_flatMap_congr fun b _ => findSome?_stepTrials c (stubsOf c f) b.steps,
    findSome?_flatMap_congr fun child _ => findSome?_childTrials c (stubsOf c f) child]

section
variable {c : Catalog} {fileName : String} {f : Gherkin.Feature}

/-- A conversion that stops does so at a faulty spot. -/
theorem exists_spot_of_convert {e : Fault} (h : convert c fileName (some f) = .error e) :
    ∃ spot ∈ spots f, spot.fault? c = some e := by
  rw [convert_some_eq_error_iff, head?_faults] at h
  exact List.exists_of_findSome?_eq_some h

theorem exists_error_of_spot {spot : Spot} (hspot : spot ∈ spots f)
    (hfault : (spot.fault? c).isSome = true) : ∃ e, convert c fileName (some f) = .error e := by
  have hfirst : (faults c f).head?.isSome = true := by
    rw [head?_faults, List.findSome?_isSome_iff]
    exact ⟨spot, hspot, hfault⟩
  obtain ⟨e, he⟩ := Option.isSome_iff_exists.1 hfirst
  exact ⟨e, convert_some_eq_error_iff.2 he⟩

end

/-! ## Faulty features -/

/-- A feature that is faulty somewhere.  A background in a rule is a fault whatever its steps. -/
inductive Faulty (c : Catalog) (f : Gherkin.Feature) : Prop
  | tag (start value : String) : start ++ value ∈ f.tags → start ∈ dottedTags →
      ¬ IsDotted value → Faulty c f
  | ruleBackground (r : Gherkin.Rule) (b : Gherkin.Background) : .rule r ∈ f.children →
      .background b ∈ r.children → Faulty c f
  | columns (s : Gherkin.Scenario) (e e' : Gherkin.Examples) (top top' : Gherkin.Row) :
      s ∈ allScenarios f → e ∈ s.examples → e' ∈ s.examples → e.header = some top →
      e'.header = some top' → cellsOf top ≠ cellsOf top' → Faulty c f
  | ragged (l : Occurrence) (top row : Gherkin.Row) (rows : List Gherkin.Row) :
      l ∈ allOccurrences f → l.line.table = some (top :: rows) → row ∈ rows →
      row.length ≠ top.length → Faulty c f
  | arity (l : Occurrence) (d : StepDefinition) : l ∈ allOccurrences f →
      c.find? l.kind.word l.line.text = some d →
      d.parameters.length ≠
        (capturedTexts d l.line.text).length + (if l.hasTable then 1 else 0) → Faulty c f

section
variable {spot : Spot}

theorem mem_stepSpots_iff {steps : List Gherkin.Step} :
    spot ∈ stepSpots steps ↔ ∃ l ∈ occurrences steps, spot ∈ lineSpots l :=
  List.mem_flatMap

theorem mem_scenarioSpots_iff {s : Gherkin.Scenario} : spot ∈ scenarioSpots s ↔
    spot ∈ headerSpots s.name s.examples ∨ ∃ l ∈ occurrences s.steps, spot ∈ lineSpots l := by
  rw [scenarioSpots, List.mem_append, mem_stepSpots_iff]

theorem mem_ruleSpots_iff {r : Gherkin.Rule} : spot ∈ ruleSpots r ↔
    (∃ s, .scenario s ∈ r.children ∧ spot ∈ scenarioSpots s) ∨
      ∃ b, .background b ∈ r.children ∧ spot = .ruleBackground r.name := by
  rw [ruleSpots, List.mem_flatMap]
  constructor
  · rintro ⟨child, hchild, hspot⟩
    cases child with
    | background b => exact .inr ⟨b, hchild, List.mem_singleton.1 hspot⟩
    | scenario s => exact .inl ⟨s, hchild, hspot⟩
  · rintro (⟨s, hs, hspot⟩ | ⟨b, hb, rfl⟩)
    · exact ⟨.scenario s, hs, hspot⟩
    · exact ⟨.background b, hb, List.mem_singleton_self _⟩

/-- The spots below a feature are those of its scenarios and the backgrounds of its rules. -/
theorem mem_childrenSpots_iff {f : Gherkin.Feature} : spot ∈ f.children.flatMap childSpots ↔
    (∃ s ∈ allScenarios f, spot ∈ scenarioSpots s) ∨
      ∃ r, .rule r ∈ f.children ∧ ∃ b, .background b ∈ r.children ∧
        spot = .ruleBackground r.name := by
  rw [List.mem_flatMap]
  constructor
  · rintro ⟨child, hchild, hspot⟩
    cases child with
    | background b => cases hspot
    | scenario s => exact .inl ⟨s, mem_allScenarios.2 (.inl hchild), hspot⟩
    | rule r =>
      rcases mem_ruleSpots_iff.1 hspot with ⟨s, hs, hspot⟩ | hb
      · exact .inl ⟨s, mem_allScenarios.2 (.inr ⟨r, hchild, hs⟩), hspot⟩
      · exact .inr ⟨r, hchild, hb⟩
  · rintro (⟨s, hs, hspot⟩ | ⟨r, hr, hb⟩)
    · rcases mem_allScenarios.1 hs with hs | ⟨r, hr, hs⟩
      · exact ⟨.scenario s, hs, hspot⟩
      · exact ⟨.rule r, hr, mem_ruleSpots_iff.2 (.inl ⟨s, hs, hspot⟩)⟩
    · exact ⟨.rule r, hr, mem_ruleSpots_iff.2 (.inr hb)⟩

theorem mem_spots_iff {f : Gherkin.Feature} : spot ∈ spots f ↔
    (∃ t ∈ f.tags, spot = .tag t) ∨ (∃ l ∈ allOccurrences f, spot ∈ lineSpots l) ∨
    (∃ s ∈ allScenarios f, spot ∈ headerSpots s.name s.examples) ∨
    ∃ r, .rule r ∈ f.children ∧ ∃ b, .background b ∈ r.children ∧
      spot = .ruleBackground r.name := by
  have htags : spot ∈ f.tags.map .tag ↔ ∃ t ∈ f.tags, spot = .tag t := by
    simp only [List.mem_map, eq_comm]
  rw [spots, List.mem_append, List.mem_append, htags, List.mem_flatMap, mem_childrenSpots_iff]
  simp only [mem_stepSpots_iff, mem_scenarioSpots_iff, mem_allOccurrences]
  constructor
  · rintro ((ht | ⟨b, hb, l, hl, hspot⟩) | ⟨s, hs, hspot | ⟨l, hl, hspot⟩⟩ | hr)
    · exact .inl ht
    · exact .inr (.inl ⟨l, .inl ⟨b, hb, hl⟩, hspot⟩)
    · exact .inr (.inr (.inl ⟨s, hs, hspot⟩))
    · exact .inr (.inl ⟨l, .inr ⟨s, hs, hl⟩, hspot⟩)
    · exact .inr (.inr (.inr hr))
  · rintro (ht | ⟨l, ⟨b, hb, hl⟩ | ⟨s, hs, hl⟩, hspot⟩ | ⟨s, hs, hspot⟩ | hr)
    · exact .inl (.inl ht)
    · exact .inl (.inr ⟨b, hb, l, hl, hspot⟩)
    · exact .inr (.inl ⟨s, hs, .inr ⟨l, hl, hspot⟩⟩)
    · exact .inr (.inl ⟨s, hs, .inl hspot⟩)
    · exact .inr (.inr hr)

end

/-- The call of a line is one of the spots of its feature. -/
theorem call_mem_spots {f : Gherkin.Feature} {l : Occurrence} (h : l ∈ allOccurrences f) :
    .call l ∈ spots f :=
  mem_spots_iff.2 (.inr (.inl ⟨l, h, List.mem_append_right _ (List.mem_singleton_self _)⟩))

theorem tags_of_spots {f : Gherkin.Feature} (h : ∀ t ∈ f.tags, '\n' ∉ t.toList) :
    ∀ spot ∈ spots f, ∀ t, spot = .tag t → '\n' ∉ t.toList := by
  rintro spot hspot t rfl
  rcases mem_spots_iff.1 hspot with ⟨t', ht, heq⟩ | ⟨l, -, hl⟩ | ⟨s, -, hs⟩ | ⟨r, -, b, -, heq⟩
  · exact Spot.tag.inj heq ▸ h t' ht
  · simp only [lineSpots, List.mem_append, List.mem_singleton, reduceCtorEq, or_false] at hl
    cases htable : l.line.table.getD [] <;> simp [tableSpots, htable] at hl
  · cases hheaders : s.examples.filterMap (·.header) <;> simp [headerSpots, hheaders] at hs
  · cases heq

/-- The first faulty spot has the fault that comes first. -/
theorem firstFault_iff {c : Catalog} {f : Gherkin.Feature} {e : Fault}
    (h : ∀ t ∈ f.tags, '\n' ∉ t.toList) : FirstFault c f e ↔ (faults c f).head? = some e := by
  have hspot : ∀ spot ∈ spots f, ∀ e, spot.fault? c = some e ↔ FaultAt c spot e :=
    fun spot hspot e => fault?_eq_some_iff (tags_of_spots h spot hspot)
  rw [head?_faults, List.findSome?_eq_some_iff]
  constructor
  · rintro ⟨before, spot, behind, hsplit, hfault, hbefore⟩
    refine ⟨before, spot, behind, hsplit, (hspot spot (by simp [hsplit]) e).2 hfault, ?_⟩
    intro other hother
    refine Option.eq_none_iff_forall_ne_some.2 fun e' he' => ?_
    exact hbefore other hother e' ((hspot other (by simp [hsplit, hother]) e').1 he')
  · rintro ⟨before, spot, behind, hsplit, hfault, hbefore⟩
    refine ⟨before, spot, behind, hsplit, (hspot spot (by simp [hsplit]) e).1 hfault, ?_⟩
    intro other hother e' he'
    have := (hspot other (by simp [hsplit, hother]) e').2 he'
    rw [hbefore other hother] at this
    cases this

theorem faultAt_headerSpots_iff {c : Catalog} {scenario : String}
    {examples : List Gherkin.Examples} :
    (∃ spot ∈ headerSpots scenario examples, ∃ e, FaultAt c spot e) ↔
      ∃ e ∈ examples, ∃ e' ∈ examples, ∃ top top', e.header = some top ∧ e'.header = some top' ∧
        cellsOf top ≠ cellsOf top' := by
  have hmem : ∀ top : Gherkin.Row, top ∈ examples.filterMap (·.header) ↔
      ∃ e ∈ examples, e.header = some top := fun top => List.mem_filterMap
  unfold headerSpots
  constructor
  · rintro ⟨spot, hspot, e, hfault⟩
    cases htops : examples.filterMap (·.header) with
    | nil => simp [htops] at hspot
    | cons first others =>
      rw [htops] at hspot
      obtain ⟨other, hother, rfl⟩ := List.mem_map.1 hspot
      obtain ⟨e₁, he₁, hfirst⟩ := (hmem first).1 (by simp [htops])
      obtain ⟨e₂, he₂, hsecond⟩ := (hmem other).1 (by simp [htops, hother])
      cases hfault with
      | columns _ _ _ hne => exact ⟨e₂, he₂, e₁, he₁, other, first, hsecond, hfirst, hne⟩
  · rintro ⟨e₁, he₁, e₂, he₂, top, top', htop, htop', hne⟩
    have h₁ := (hmem top).2 ⟨e₁, he₁, htop⟩
    have h₂ := (hmem top').2 ⟨e₂, he₂, htop'⟩
    cases htops : examples.filterMap (·.header) with
    | nil => simp [htops] at h₁
    | cons first others =>
      rw [htops] at h₁ h₂
      -- one of two different headers is not the first
      obtain ⟨other, hother, hdiffer⟩ : ∃ other ∈ others, cellsOf other ≠ cellsOf first := by
        by_cases heq : cellsOf top = cellsOf first
        · refine ⟨top', ?_, fun heq' => hne (heq.trans heq'.symm)⟩
          exact (List.mem_cons.1 h₂).resolve_left fun hfirst => hne (hfirst ▸ heq)
        · refine ⟨top, ?_, heq⟩
          exact (List.mem_cons.1 h₁).resolve_left fun hfirst => heq (hfirst ▸ rfl)
      exact ⟨_, List.mem_map.2 ⟨other, hother, rfl⟩, _, .columns scenario first other hdiffer⟩

theorem faultAt_tableSpots_iff {c : Catalog} {table : Option (List Gherkin.Row)} :
    (∃ spot ∈ tableSpots (table.getD []), ∃ e, FaultAt c spot e) ↔
      ∃ top rows row, table = some (top :: rows) ∧ row ∈ rows ∧ row.length ≠ top.length := by
  rcases table with _ | _ | ⟨top, rows⟩
  · simp [tableSpots]
  · simp [tableSpots]
  · simp only [tableSpots, Option.getD_some, List.mem_map, List.exists_mem_zipIdx]
    constructor
    · rintro ⟨spot, ⟨i, hi, rfl⟩, e, hfault⟩
      cases hfault with
      | ragged _ _ _ hne => exact ⟨top, rows, rows[i], rfl, List.getElem_mem hi, hne⟩
    · rintro ⟨top', rows', row, heq, hrow, hne⟩
      obtain ⟨rfl, rfl⟩ := List.cons.inj (Option.some.inj heq)
      obtain ⟨i, hi, rfl⟩ := List.mem_iff_getElem.1 hrow
      exact ⟨_, ⟨i, hi, rfl⟩, _, .ragged (1 + i) top rows[i] hne⟩

theorem exists_faultAt_iff {c : Catalog} {f : Gherkin.Feature} :
    (∃ spot ∈ spots f, ∃ e, FaultAt c spot e) ↔ Faulty c f := by
  constructor
  · rintro ⟨spot, hspot, e, hfault⟩
    rcases mem_spots_iff.1 hspot with ⟨t, ht, rfl⟩ | ⟨l, hl, hspot⟩ | ⟨s, hs, hspot⟩ |
      ⟨r, hr, b, hb, rfl⟩
    · cases hfault with
      | tag start value hstart hname => exact .tag start value ht hstart hname
    · rcases List.mem_append.1 hspot with hspot | hspot
      · obtain ⟨top, rows, row, htable, hrow, hne⟩ :=
          faultAt_tableSpots_iff.1 ⟨spot, hspot, e, hfault⟩
        exact .ragged l top row rows hl htable hrow hne
      · obtain rfl := List.mem_singleton.1 hspot
        cases hfault with
        | arity _ d _ hfind hsupplied hne => exact .arity l d hl hfind (hsupplied ▸ hne)
    · obtain ⟨x, hx, x', hx', top, top', htop, htop', hne⟩ :=
        faultAt_headerSpots_iff.1 ⟨spot, hspot, e, hfault⟩
      exact .columns s x x' top top' hs hx hx' htop htop' hne
    · exact .ruleBackground r b hr hb
  · rintro (⟨start, value, ht, hstart, hname⟩ | ⟨r, b, hr, hb⟩ |
      ⟨s, x, x', top, top', hs, hx, hx', htop, htop', hne⟩ |
      ⟨l, top, row, rows, hl, htable, hrow, hne⟩ | ⟨l, d, hl, hfind, hne⟩)
    · exact ⟨_, mem_spots_iff.2 (.inl ⟨_, ht, rfl⟩), _, .tag start value hstart hname⟩
    · exact ⟨_, mem_spots_iff.2 (.inr (.inr (.inr ⟨r, hr, b, hb, rfl⟩))), _,
        .ruleBackground r.name⟩
    · obtain ⟨spot, hspot, hfault⟩ := (@faultAt_headerSpots_iff c s.name s.examples).2
        ⟨x, hx, x', hx', top, top', htop, htop', hne⟩
      exact ⟨spot, mem_spots_iff.2 (.inr (.inr (.inl ⟨s, hs, hspot⟩))), hfault⟩
    · obtain ⟨spot, hspot, hfault⟩ := (@faultAt_tableSpots_iff c l.line.table).2
        ⟨top, rows, row, htable, hrow, hne⟩
      exact ⟨spot, mem_spots_iff.2 (.inr (.inl ⟨l, hl, List.mem_append_left _ hspot⟩)), hfault⟩
    · refine ⟨.call l, mem_spots_iff.2 (.inr (.inl ⟨l, hl, ?_⟩)), _, .arity l d _ hfind rfl hne⟩
      exact List.mem_append_right _ (List.mem_singleton_self _)

/-- **Some spot has the first fault where the feature is faulty somewhere.** -/
theorem exists_firstFault_iff {c : Catalog} {f : Gherkin.Feature}
    (h : ∀ t ∈ f.tags, '\n' ∉ t.toList) : (∃ e, FirstFault c f e) ↔ Faulty c f := by
  rw [← exists_faultAt_iff]
  constructor
  · rintro ⟨e, before, spot, behind, hsplit, hfault, -⟩
    exact ⟨spot, by simp [hsplit], e, hfault⟩
  · rintro ⟨spot, hspot, e, hfault⟩
    have hsome := (fault?_eq_some_iff (tags_of_spots h spot hspot)).2 hfault
    have hhead : ((spots f).findSome? (Spot.fault? c)).isSome = true :=
      List.findSome?_isSome_iff.2 ⟨spot, hspot, by rw [hsome]; rfl⟩
    rw [← head?_faults] at hhead
    obtain ⟨e', he'⟩ := Option.isSome_iff_exists.1 hhead
    exact ⟨e', (firstFault_iff h).2 he'⟩

end Acceptance.Plan
