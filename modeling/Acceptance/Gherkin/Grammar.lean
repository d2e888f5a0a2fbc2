import Acceptance.Gherkin.Line

/-!
# The grammar of feature files

The grammar is an automaton over lines.  A place says between which parts of a feature the reader
stands, and so which nodes are open there; a row says which line may come next, how many of the
open nodes stay open, and where the reader stands afterwards.  All nodes of the new place that are
not open yet are opened.

    openNodes p        the nodes open at a place, innermost first
    rows p             what may come at a place, in the order in which it is tried
    expected p         the kinds of lines that may come, for the message when none does
-/

namespace Acceptance.Gherkin

/-! ## Places -/

inductive NodeKind where
  | feature
  | featureHeader
  | rule
  | ruleHeader
  | background
  | scenarioDefinition
  | scenario
  | examplesDefinition
  | examples
  | examplesTable
  | step
  | dataTable
  | docString
  | description
  | tags
  deriving Repr, DecidableEq

/-- What holds scenarios. -/
inductive Scope where
  | feature
  | rule
  deriving Repr, DecidableEq

/-- What holds steps. -/
inductive Holder where
  | background
  | scenario
  deriving Repr, DecidableEq

inductive Place where
  | start
  | afterLanguage
  | featureTags
  | featureHeader
  | featureDescription
  | ruleTags
  | ruleHeader
  | ruleDescription
  | background (s : Scope)
  | backgroundDescription (s : Scope)
  | scenarioTags (s : Scope)
  | scenario (s : Scope)
  | scenarioDescription (s : Scope)
  | step (s : Scope) (h : Holder)
  | table (s : Scope) (h : Holder)
  | docStringAfterTable (s : Scope) (h : Holder)
  | docStringAfterTableEnd (s : Scope) (h : Holder)
  | docString (s : Scope) (h : Holder)
  | docStringEnd (s : Scope) (h : Holder)
  | tableAfterDocString (s : Scope) (h : Holder)
  | examplesTags (s : Scope)
  | examples (s : Scope)
  | examplesDescription (s : Scope)
  | examplesTable (s : Scope)
  | done
  deriving Repr, DecidableEq

/-- The nodes around the scenarios of a scope. -/
def Scope.openNodes : Scope → List NodeKind
  | .feature => [.feature]
  | .rule => [.rule, .feature]

/-- The nodes around the steps of a holder. -/
def Holder.openNodes (s : Scope) : Holder → List NodeKind
  | .background => .background :: s.openNodes
  | .scenario => .scenario :: .scenarioDefinition :: s.openNodes

/-- The nodes around an examples block. -/
def examplesNodes (s : Scope) : List NodeKind :=
  .examples :: .examplesDefinition :: Holder.openNodes s .scenario

/-- The nodes open at a place, innermost first. -/
def Place.openNodes : Place → List NodeKind
  | start => []
  | afterLanguage => [.featureHeader, .feature]
  | featureTags => [.tags, .featureHeader, .feature]
  | featureHeader => [.featureHeader, .feature]
  | featureDescription => [.description, .featureHeader, .feature]
  | ruleTags => [.tags, .ruleHeader, .rule, .feature]
  | ruleHeader => [.ruleHeader, .rule, .feature]
  | ruleDescription => [.description, .ruleHeader, .rule, .feature]
  | background s => Holder.openNodes s .background
  | backgroundDescription s => .description :: Holder.openNodes s .background
  | scenarioTags s => .tags :: .scenarioDefinition :: s.openNodes
  | scenario s => Holder.openNodes s .scenario
  | scenarioDescription s => .description :: Holder.openNodes s .scenario
  | step s h => .step :: h.openNodes s
  | table s h => .dataTable :: .step :: h.openNodes s
  | docStringAfterTable s h => .docString :: .step :: h.openNodes s
  | docStringAfterTableEnd s h => .docString :: .step :: h.openNodes s
  | docString s h => .docString :: .step :: h.openNodes s
  | docStringEnd s h => .docString :: .step :: h.openNodes s
  | tableAfterDocString s h => .dataTable :: .step :: h.openNodes s
  | examplesTags s => .tags :: .examplesDefinition :: Holder.openNodes s .scenario
  | examples s => examplesNodes s
  | examplesDescription s => .description :: examplesNodes s
  | examplesTable s => .examplesTable :: examplesNodes s
  | done => []

/-! ## Rows -/

/-- A kind of line; a tag line may have to stand in front of a line of another kind. -/
structure Test where
  kind : TokenKind
  before : Option TokenKind
  deriving Repr, DecidableEq

/-- A step of the automaton: `keep` of the open nodes stay open. -/
structure Transition where
  test : Test
  keep : Nat
  next : Place
  deriving Repr

/-- A row for a kind of line. -/
def on (kind : TokenKind) (keep : Nat) (next : Place) : Transition := ⟨⟨kind, none⟩, keep, next⟩

/-- A row for a tag line in front of a line of another kind. -/
def onTagsBefore (kind : TokenKind) (keep : Nat) (next : Place) : Transition :=
  ⟨⟨.tagLine, some kind⟩, keep, next⟩

/-- A row that adds to the innermost open node. -/
def Place.stay (p : Place) (kind : TokenKind) : Transition := on kind p.openNodes.length p

/-- A row that opens nodes inside the innermost open one. -/
def Place.into (p : Place) (kind : TokenKind) (next : Place) : Transition :=
  on kind p.openNodes.length next

def atEnd : Transition := on .eof 0 .done

/-- What may follow the parts of a background. -/
def afterBackground (s : Scope) : List Transition := [
  onTagsBefore .scenarioLine s.openNodes.length (.scenarioTags s),
  on .tagLine 1 .ruleTags,
  on .scenarioLine s.openNodes.length (.scenario s),
  on .ruleLine 1 .ruleHeader]

/-- What may follow the parts of a scenario. -/
def afterScenario (s : Scope) : List Transition := [
  onTagsBefore .examplesLine (Holder.openNodes s .scenario).length (.examplesTags s),
  onTagsBefore .scenarioLine s.openNodes.length (.scenarioTags s),
  on .tagLine 1 .ruleTags,
  on .examplesLine (Holder.openNodes s .scenario).length (.examples s),
  on .scenarioLine s.openNodes.length (.scenario s),
  on .ruleLine 1 .ruleHeader]

def Holder.after (s : Scope) : Holder → List Transition
  | .background => afterBackground s
  | .scenario => afterScenario s

/-- A step line behind the parts of a holder. -/
def Holder.nextStep (s : Scope) (h : Holder) : Transition :=
  on .stepLine (h.openNodes s).length (.step s h)

/-- A line that opens the table or the doc string of a step. -/
def Holder.inStep (s : Scope) (h : Holder) (kind : TokenKind) (next : Place) : Transition :=
  on kind ((h.openNodes s).length + 1) next

/-- What may come at a place, in the order in which it is tried. -/
def Place.rows (p : Place) : List Transition :=
  match p with
  | start => [atEnd, on .language 0 .afterLanguage, on .tagLine 0 .featureTags,
      on .featureLine 0 .featureHeader, p.stay .comment, p.stay .empty]
  | afterLanguage => [p.into .tagLine .featureTags, p.into .featureLine .featureHeader,
      p.stay .comment, p.stay .empty]
  | featureTags =>
      [p.stay .tagLine, on .featureLine 2 .featureHeader, p.stay .comment, p.stay .empty]
  | featureHeader => [atEnd, p.stay .empty, p.into .comment .featureDescription,
      on .backgroundLine 1 (.background .feature)] ++ afterBackground .feature ++
      [p.into .other .featureDescription]
  | featureDescription => [atEnd, p.stay .comment, on .backgroundLine 1 (.background .feature)] ++
      afterBackground .feature ++ [p.stay .other]
  | ruleTags => [p.stay .tagLine, on .ruleLine 3 .ruleHeader, p.stay .comment, p.stay .empty]
  | ruleHeader => [atEnd, p.stay .empty, p.into .comment .ruleDescription,
      on .backgroundLine 2 (.background .rule)] ++ afterBackground .rule ++
      [p.into .other .ruleDescription]
  | ruleDescription => [atEnd, p.stay .comment, on .backgroundLine 2 (.background .rule)] ++
      afterBackground .rule ++ [p.stay .other]
  | background s => [atEnd, p.stay .empty, p.into .comment (.backgroundDescription s),
      Holder.nextStep s .background] ++ afterBackground s ++
      [p.into .other (.backgroundDescription s)]
  | backgroundDescription s => [atEnd, p.stay .comment, Holder.nextStep s .background] ++
      afterBackground s ++ [p.stay .other]
  | scenarioTags s => [p.stay .tagLine, on .scenarioLine (s.openNodes.length + 1) (.scenario s),
      p.stay .comment, p.stay .empty]
  | scenario s => [atEnd, p.stay .empty, p.into .comment (.scenarioDescription s),
      Holder.nextStep s .scenario] ++ afterScenario s ++ [p.into .other (.scenarioDescription s)]
  | scenarioDescription s => [atEnd, p.stay .comment, Holder.nextStep s .scenario] ++
      afterScenario s ++ [p.stay .other]
  | step s h => [atEnd, p.into .tableRow (.table s h), p.into .docStringSeparator (.docString s h),
      h.nextStep s] ++ h.after s ++ [p.stay .comment, p.stay .empty]
  | table s h => [atEnd, p.stay .tableRow,
      h.inStep s .docStringSeparator (.docStringAfterTable s h), h.nextStep s] ++ h.after s ++
      [p.stay .comment, p.stay .empty]
  | docStringAfterTable s h =>
      [p.into .docStringSeparator (.docStringAfterTableEnd s h), p.stay .other]
  | docStringAfterTableEnd s h => [atEnd, h.nextStep s] ++ h.after s ++
      [p.stay .comment, p.stay .empty]
  | docString s h => [p.into .docStringSeparator (.docStringEnd s h), p.stay .other]
  | docStringEnd s h => [atEnd, h.inStep s .tableRow (.tableAfterDocString s h), h.nextStep s] ++
      h.after s ++ [p.stay .comment, p.stay .empty]
  | tableAfterDocString s h => [atEnd, p.stay .tableRow, h.nextStep s] ++ h.after s ++
      [p.stay .comment, p.stay .empty]
  | examplesTags s => [p.stay .tagLine,
      on .examplesLine ((Holder.openNodes s .scenario).length + 1) (.examples s),
      p.stay .comment, p.stay .empty]
  | examples s => [atEnd, p.stay .empty, p.into .comment (.examplesDescription s),
      p.into .tableRow (.examplesTable s)] ++ afterScenario s ++
      [p.into .other (.examplesDescription s)]
  | examplesDescription s => [atEnd, p.stay .comment,
      on .tableRow (examplesNodes s).length (.examplesTable s)] ++
      afterScenario s ++ [p.stay .other]
  | examplesTable s =>
      [atEnd, p.stay .tableRow] ++ afterScenario s ++ [p.stay .comment, p.stay .empty]
  | done => []

/-- The kinds of lines that may come at a place, each once. -/
def Place.expected (p : Place) : List TokenKind :=
  (p.rows.map fun t => t.test.kind).foldl
    (fun kinds k => if k ∈ kinds then kinds else kinds ++ [k]) []

end Acceptance.Gherkin
