import Acceptance.Log
import Acceptance.Step.Definition
import Acceptance.Text.Case
import Acceptance.Text.Blank

/-!
# Requests of the command line

The words of a command line are options, a command, and what the command takes.  An option begins
with a dash; its value follows it, or an equals sign in it.  Behind two dashes nothing is an
option.

    CommandLine.ofWords? words        the request of a command line; none where it makes no sense
-/

namespace Acceptance

open Acceptance.Text

/-- What a command line asks for. -/
inductive Request where
  | version
  | setUp
  | generate (write : Bool)
  | steps (asJson : Bool)
  | lookUp (kind : StepKind) (text : String)
  | plan (feature : String)
  | validate (template : Option String)
  | status
  deriving Repr, DecidableEq

structure CommandLine where
  /-- The lightest level of records that are shown. -/
  level : Level
  request : Request
  deriving Repr, DecidableEq

namespace CommandLine

/-! ## Options -/

/-- The options of a command line with their values, and its other words. -/
structure Words where
  options : List (String × String)
  rest : List String
  deriving Repr, DecidableEq

namespace Words

def addOption (w : Words) (name value : String) : Words :=
  { w with options := (name, value) :: w.options }

def addWord (w : Words) (word : String) : Words := { w with rest := word :: w.rest }

def holds (w : Words) (name : String) : Bool := w.options.any fun o => o.1 == name

/-- The value of an option; the last one counts. -/
def value? (w : Words) (name : String) : Option String := w.options.reverse.lookup name

end Words

/-- Whether a word is an option. -/
def isOption (word : String) : Bool :=
  match word.toList with
  | '-' :: _ :: _ => true
  | _ => false

/-- An option's name and the value in the same word. -/
def splitOption (word : String) : String × Option String :=
  let name := word.toList.takeWhile (· != '=')
  match word.toList.drop name.length with
  | [] => (word, none)
  | _ :: value => (.ofList name, some (.ofList value))

/-- An option is known by its name; some take a value. -/
abbrev Known := List (String × Bool)

/-- Parts options from other words.  Unless they may be mixed, options end at the first other
word. -/
def part? (known : Known) (mixed : Bool) : List String → Option Words
  | [] => some ⟨[], []⟩
  | word :: words =>
    if word = "--" then some ⟨[], words⟩
    else if isOption word then
      match known.lookup (splitOption word).1, (splitOption word).2 with
      | none, _ => none
      | some false, some _ => none
      | some false, none => (part? known mixed words).map fun w => w.addOption word ""
      | some true, some v =>
        (part? known mixed words).map fun w => w.addOption (splitOption word).1 v
      | some true, none =>
        match words with
        | [] => none
        | v :: words => (part? known mixed words).map fun w => w.addOption word v
    else if mixed then (part? known mixed words).map fun w => w.addWord word
    else some ⟨[], word :: words⟩

/-! ## Commands -/

/-- The options in front of a command. -/
def generalOptions : Known := [("--version", false), ("--verbose", false), ("--debug", false)]

/-- The options of a command. -/
def optionsOf : String → Option Known
  | "init" => some []
  | "generate" => some [("--dry-run", false)]
  | "steps" => some [("--format", true)]
  | "match" => some []
  | "crif" => some []
  | "validate" => some [("--template", true)]
  | "status" => some []
  | _ => none

/-- The kind of step that a word names, capitals aside. -/
def kind? (word : String) : Option StepKind := StepKind.all.find? fun k => fold k.word == fold word

/-- The request of a command with its words. -/
def requestOf (command : String) (w : Words) : Option Request :=
  match command, w.rest with
  | "init", [] => some .setUp
  | "generate", [] => some (.generate !(w.holds "--dry-run"))
  | "steps", [] =>
    match w.value? "--format" with
    | none => some (.steps false)
    | some "json" => some (.steps true)
    | some _ => none
  | "match", [word, text] => (kind? word).map fun k => .lookUp k text
  | "crif", [feature] => some (.plan feature)
  | "validate", [] => some (.validate (w.value? "--template"))
  | "status", [] => some .status
  | _, _ => none

/-- The lightest level that the options in front of a command ask for. -/
def levelOf (w : Words) : Level :=
  if w.holds "--debug" then .debug else if w.holds "--verbose" then .info else .warning

/-- The request of a command line. -/
def ofWords? (words : List String) : Option CommandLine :=
  match part? generalOptions false words with
  | none => none
  | some w =>
    if w.holds "--version" then some ⟨levelOf w, .version⟩
    else
      match w.rest with
      | [] => none
      | command :: words =>
        match (optionsOf command).bind fun known => part? known true words with
        | none => none
        | some v => (requestOf command v).map fun r => ⟨levelOf w, r⟩

end CommandLine

end Acceptance
