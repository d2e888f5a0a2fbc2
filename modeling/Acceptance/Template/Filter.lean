import Acceptance.Template.Value

/-!
# Filters

A template may pass a value through a filter: `docstring` makes a text fit for a documentation
string in double quotes, `tojson` makes data a literal, and `replace` replaces a part of a text.
-/

namespace Acceptance.Template

open Acceptance.Text

/-! ## Algorithm -/

/-- Escapes a character for a documentation string. -/
def escapeDocumentation (c : Char) : List Char :=
  if c = '\\' ∨ c = '"' then ['\\', c] else [c]

/-- A text without what would end a documentation string. -/
def documentation (s : String) : String := .ofList (s.toList.flatMap escapeDocumentation)

/-- Replaces a part that is not empty; `skip` characters are passed over first. -/
def replaceFrom (part other : List Char) (skip : Nat) : List Char → List Char
  | [] => []
  | c :: cs =>
    match skip with
    | n + 1 => replaceFrom part other n cs
    | 0 =>
      if part.isPrefixOf (c :: cs) then other ++ replaceFrom part other (part.length - 1) cs
      else c :: replaceFrom part other 0 cs

/-- Replaces every occurrence of a part; an empty part occurs around every character. -/
def replaceList (part other cs : List Char) : List Char :=
  if part.isEmpty then other ++ cs.flatMap fun c => c :: other else replaceFrom part other 0 cs

def replaceText (part other s : String) : String :=
  .ofList (replaceList part.toList other.toList s.toList)

def filterNames : List String := ["docstring", "tojson", "replace"]

/-- Passes a value through a filter. -/
def applyFilter (name : String) (v : Value) (arguments : List Value) :
    Except RenderError Value := do
  match name, arguments with
  | "docstring", [] => return .data (.str (documentation (← v.text)))
  | "tojson", [] =>
    match v with
    | .data d => return .data (.str (dataLiteral d))
    | .undefined _ => throw (.wrongKind "Object of type StrictUndefined is not JSON serializable")
    | _ => throw (.wrongKind ("Object of type " ++ v.kind ++ " is not JSON serializable"))
  | "replace", [part, other] =>
    return .data (.str (replaceText (← part.text) (← other.text) (← v.text)))
  | "docstring", _ => throw (.wrongKind "docstring_text() takes 1 positional argument")
  | "tojson", _ => throw (.wrongKind "do_tojson() takes from 2 to 3 positional arguments")
  | "replace", _ => throw (.wrongKind "do_replace() takes from 4 to 5 positional arguments")
  | name, _ => throw (.absentFilter name)

/-! ## Lemmas -/

theorem toList_documentation (s : String) :
    (documentation s).toList = s.toList.flatMap escapeDocumentation := by
  simp [documentation]

end Acceptance.Template
