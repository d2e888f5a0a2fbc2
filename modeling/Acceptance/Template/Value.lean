import Acceptance.Template.Syntax
import Acceptance.Text.Blank

/-!
# Values of templates

A template prints and tests values: data, the state of a loop, macros, and what is undefined.  An
undefined value may be passed on, but neither printed, tested, walked through nor looked into.

    Value.text v          what a value prints
    Value.member v n      the attribute of a value, undefined where it has none
-/

namespace Acceptance.Template

open Acceptance.Text

/-! ## Undefined values -/

/-- Where an undefined value comes from. -/
inductive Absence where
  | name (n : String)
  | attribute (owner n : String)
  | element (owner : String) (place : String)
  | parameter (n : String)
  | otherwise
  deriving Repr, DecidableEq

def Absence.message : Absence → String
  | .name n => literal n ++ " is undefined"
  | .attribute owner n => literal owner ++ " has no attribute " ++ literal n
  | .element owner place => owner ++ " has no element " ++ place
  | .parameter n => "parameter " ++ literal n ++ " was not provided"
  | .otherwise =>
    "the inline if-expression on line 1 evaluated to false and no else section was defined."

/-! ## Errors -/

/-- Why a template gives no text. -/
inductive RenderError where
  | unreadable
  /-- A filter that does not exist, found while the template is read. -/
  | unknownFilter (name : String)
  /-- A filter that does not exist, found where it is used. -/
  | absentFilter (name : String)
  | undefined (a : Absence)
  | wrongKind (message : String)
  | tooDeep
  deriving Repr, DecidableEq

namespace RenderError

def kind : RenderError → String
  | unreadable => "TemplateSyntaxError"
  | unknownFilter _ => "TemplateAssertionError"
  | absentFilter _ => "TemplateRuntimeError"
  | undefined _ => "UndefinedError"
  | wrongKind _ => "TypeError"
  | tooDeep => "RecursionError"

def message : RenderError → String
  | unreadable => ""
  | unknownFilter name => "No filter named " ++ literal name ++ "."
  | absentFilter name => "No filter named " ++ literal name ++ " found."
  | undefined a => a.message
  | wrongKind message => message
  | tooDeep => "maximum recursion depth exceeded"

end RenderError

/-! ## Data -/

/-- The name of a kind of data. -/
def dataKind : Json → String
  | .null => "NoneType"
  | .bool _ => "bool"
  | .int _ => "int"
  | .decimal _ => "float"
  | .str _ => "str"
  | .arr _ => "list"
  | .obj _ => "dict"

/-- Data as the owner of an attribute that it does not have. -/
def ownerName : Json → String
  | .null => "None"
  | v => dataKind v ++ " object"

mutual

/-- Data inside other data: texts as literals. -/
def innerText : Json → String
  | .null => "None"
  | .bool true => "True"
  | .bool false => "False"
  | .int n => .ofList (Decimal.intDigits n)
  | .decimal t => t
  | .str s => literal s
  | .arr vs => "[" ++ ", ".intercalate (innerTexts vs) ++ "]"
  | .obj ms => "\x7b" ++ ", ".intercalate (memberTexts ms) ++ "\x7d"

def innerTexts : List Json → List String
  | [] => []
  | v :: vs => innerText v :: innerTexts vs

def memberTexts : List (String × Json) → List String
  | [] => []
  | (n, v) :: ms => (literal n ++ ": " ++ innerText v) :: memberTexts ms

end

/-- What data prints. -/
def dataText : Json → String
  | .str s => s
  | v => innerText v

mutual

/-- Whether data are equal. -/
def sameData : Json → Json → Bool
  | .null, .null => true
  | .bool a, .bool b => a == b
  | .bool a, .int n => n == if a then 1 else 0
  | .int n, .bool a => n == if a then 1 else 0
  | .int m, .int n => m == n
  | .decimal s, .decimal t => s == t
  | .str s, .str t => s == t
  | .arr vs, .arr ws => sameItems vs ws
  | .obj ms, .obj ns => ms.length == ns.length && sameMembers ms ns
  | _, _ => false

def sameItems : List Json → List Json → Bool
  | [], [] => true
  | v :: vs, w :: ws => sameData v w && sameItems vs ws
  | _, _ => false

/-- Whether all members are among others. -/
def sameMembers : List (String × Json) → List (String × Json) → Bool
  | [], _ => true
  | (n, v) :: ms, ns =>
    (match ns.lookup n with
    | some w => sameData v w
    | none => false) && sameMembers ms ns

end

/-- Puts a member in its place by name. -/
def insertMember (m : String × Json) : List (String × Json) → List (String × Json)
  | [] => [m]
  | n :: ns => if m.1 ≤ n.1 then m :: n :: ns else n :: insertMember m ns

mutual

/-- Data with the members of objects in the order of their names. -/
def sortMembers : Json → Json
  | .arr vs => .arr (sortItems vs)
  | .obj ms => .obj (sortedMembers ms)
  | v => v

def sortItems : List Json → List Json
  | [] => []
  | v :: vs => sortMembers v :: sortItems vs

def sortedMembers : List (String × Json) → List (String × Json)
  | [] => []
  | (n, v) :: ms => insertMember (n, sortMembers v) (sortedMembers ms)

end

/-- Data as text that may stand in a program. -/
def dataLiteral (v : Json) : String := Json.render ⟨quoteMarkup, none⟩ (sortMembers v)

/-! ## Values -/

/-- How far a loop has come. -/
structure LoopState where
  index : Nat
  count : Nat
  deriving Repr, DecidableEq

structure Macro where
  name : String
  parameters : List String
  body : List Node
  deriving Repr

inductive Value where
  | data (v : Json)
  | loop (l : LoopState)
  | macroValue (m : Macro)
  | undefined (a : Absence)
  deriving Repr

namespace Value

/-- The name of a value's kind. -/
def kind : Value → String
  | data v => dataKind v
  | loop _ => "LoopContext"
  | macroValue _ => "Macro"
  | undefined _ => "Undefined"

/-- What a value prints. -/
def text : Value → Except RenderError String
  | data v => .ok (dataText v)
  | loop l =>
    .ok ("<LoopContext " ++ Decimal.text (l.index + 1) ++ "/" ++ Decimal.text l.count ++ ">")
  | macroValue m => .ok ("<Macro " ++ literal m.name ++ ">")
  | undefined a => .error (.undefined a)

/-- Whether a value counts as true. -/
def test : Value → Except RenderError Bool
  | data v => .ok v.truthy
  | loop _ => .ok true
  | macroValue _ => .ok true
  | undefined a => .error (.undefined a)

/-- The values that a loop walks through. -/
def items : Value → Except RenderError (List Json)
  | data (.arr vs) => .ok vs
  | data (.obj ms) => .ok (ms.map fun m => .str m.1)
  | data (.str s) => .ok (s.toList.map fun c => .str (.ofList [c]))
  | undefined a => .error (.undefined a)
  | v => .error (.wrongKind (literal v.kind ++ " object is not iterable"))

/-- Attributes of a loop. -/
def loopAttribute (l : LoopState) (n : String) : Value :=
  match n with
  | "last" => data (.bool (l.index + 1 == l.count))
  | "first" => data (.bool (l.index == 0))
  | "index" => data (.int (l.index + 1 : Nat))
  | "index0" => data (.int (l.index : Nat))
  | "revindex" => data (.int (l.count - l.index : Nat))
  | "revindex0" => data (.int (l.count - l.index - 1 : Nat))
  | "length" => data (.int (l.count : Nat))
  | _ => undefined (.attribute "LoopContext object" n)

/-- An attribute of a value. -/
def member (v : Value) (n : String) : Except RenderError Value :=
  match v with
  | data d =>
    match d.member? n with
    | some w => .ok (data w)
    | none => .ok (undefined (.attribute (ownerName d) n))
  | loop l => .ok (loopAttribute l n)
  | macroValue m =>
    .ok (if n = "name" then data (.str m.name)
      else undefined (.attribute "Macro object" n))
  | undefined a => .error (.undefined a)

/-- The item at a place, counted from the end below zero. -/
def itemAt {α : Type} (items : List α) (i : Int) : Option α :=
  if i ≥ 0 then items[i.toNat]? else
    if (-i).toNat ≤ items.length then items[items.length - (-i).toNat]? else none

/-- An element of a value that has it. -/
def element? (d place : Json) : Option Json :=
  match d, place with
  | .arr vs, .int i => itemAt vs i
  | .str s, .int i => (itemAt s.toList i).map fun c => .str (.ofList [c])
  | .obj _, .str n => d.member? n
  | _, _ => none

/-- An element of a value. -/
def element (v place : Value) : Except RenderError Value :=
  match v, place with
  | undefined a, _ => .error (.undefined a)
  | data d, data i =>
    match element? d i, i with
    | some w, _ => .ok (data w)
    | none, .str n => .ok (undefined (.attribute (ownerName d) n))
    | none, i => .ok (undefined (.element (ownerName d) (innerText i)))
  | v, data (.str n) => v.member n
  | _, undefined a => .error (.undefined a)
  | v, _ => .ok (undefined (.element (v.kind ++ " object") "None"))

/-- Whether two values are equal. -/
def equal (v w : Value) : Except RenderError Bool :=
  match v, w with
  | undefined a, _ => .error (.undefined a)
  | _, undefined a => .error (.undefined a)
  | data a, data b => .ok (sameData a b)
  | _, _ => .ok false

end Value

end Acceptance.Template
