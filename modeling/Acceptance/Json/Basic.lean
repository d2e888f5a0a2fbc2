import Acceptance.Text.Quoted
import Acceptance.Text.Decimal

/-!
# JSON values

Objects keep their members in order.  A number with a fraction or an exponent keeps its text.

* `render style v` writes a value on one line, or indented; texts are quoted as the style says.
* `dropNulls v` leaves out the members whose value is null, at every level.
-/

namespace Acceptance

inductive Json where
  | null
  | bool (b : Bool)
  | int (n : Int)
  | decimal (text : String)
  | str (s : String)
  | arr (items : List Json)
  | obj (members : List (String × Json))
  deriving Repr, Inhabited

namespace Json

/-! ## Members -/

/-- The value of the member with a name. -/
def member? (v : Json) (name : String) : Option Json :=
  match v with
  | obj members => (members.find? fun m => m.1 == name).map (·.2)
  | _ => none

/-- Sets a member: a known name keeps its place, a new one comes last. -/
def setMember (members : List (String × Json)) (name : String) (v : Json) : List (String × Json) :=
  if members.any fun m => m.1 == name then
    members.map fun m => if m.1 == name then (m.1, v) else m
  else members ++ [(name, v)]

/-- Whether a number text denotes zero. -/
def isZeroText (text : String) : Bool :=
  (text.toList.takeWhile fun c => c != 'e' && c != 'E').all fun c =>
    c == '0' || c == '.' || c == '-'

/-- Whether a value counts as true: all but null, false, zero and what is empty. -/
def truthy : Json → Bool
  | null => false
  | bool b => b
  | int n => n != 0
  | decimal text => !isZeroText text
  | str s => !s.isEmpty
  | arr items => !items.isEmpty
  | obj members => !members.isEmpty

/-! ## Printing -/

/-- How a value is written: the quoting of its texts, and the blanks that indent a level. -/
structure Style where
  quote : String → String
  indent : Option Nat

/-- The break in front of an item at a level of nesting. -/
def Style.lineBreak (style : Style) (level : Nat) : String :=
  match style.indent with
  | none => ""
  | some n => .ofList ('\n' :: List.replicate (n * level) ' ')

/-- The mark between two items. -/
def Style.comma (style : Style) (level : Nat) : String :=
  match style.indent with
  | none => ", "
  | some _ => "," ++ style.lineBreak level

mutual

/-- The text of a value at a level of nesting. -/
def renderAt (style : Style) (level : Nat) : Json → String
  | null => "null"
  | bool true => "true"
  | bool false => "false"
  | int n => .ofList (Text.Decimal.intDigits n)
  | decimal text => text
  | str s => style.quote s
  | arr [] => "[]"
  | arr (v :: items) =>
    "[" ++ style.lineBreak (level + 1) ++ renderAt style (level + 1) v ++
      renderItems style (level + 1) items ++ style.lineBreak level ++ "]"
  | obj [] => "\x7b\x7d"
  | obj ((name, v) :: members) =>
    "\x7b" ++ style.lineBreak (level + 1) ++ style.quote name ++ ": " ++
      renderAt style (level + 1) v ++
      renderMembers style (level + 1) members ++ style.lineBreak level ++ "\x7d"

/-- The texts of the items behind the first one. -/
def renderItems (style : Style) (level : Nat) : List Json → String
  | [] => ""
  | v :: items => style.comma level ++ renderAt style level v ++ renderItems style level items

/-- The texts of the members behind the first one. -/
def renderMembers (style : Style) (level : Nat) : List (String × Json) → String
  | [] => ""
  | (name, v) :: members =>
    style.comma level ++ style.quote name ++ ": " ++ renderAt style level v ++
      renderMembers style level members

end

def render (style : Style) (v : Json) : String := renderAt style 0 v

/-- Indented, with only what must be escaped written as an escape. -/
def pretty (indent : Nat) (v : Json) : String := render ⟨Text.quote, some indent⟩ v

/-- Indented, in ASCII. -/
def prettyAscii (indent : Nat) (v : Json) : String := render ⟨Text.quoteAscii, some indent⟩ v

/-- On one line. -/
def compact (v : Json) : String := render ⟨Text.quote, none⟩ v

/-! ## Absent members -/

mutual

/-- Leaves out the members whose value is null. -/
def dropNulls : Json → Json
  | arr items => arr (dropNullItems items)
  | obj members => obj (dropNullMembers members)
  | v => v

def dropNullItems : List Json → List Json
  | [] => []
  | v :: items => dropNulls v :: dropNullItems items

def dropNullMembers : List (String × Json) → List (String × Json)
  | [] => []
  | (_, null) :: members => dropNullMembers members
  | (name, v) :: members => (name, dropNulls v) :: dropNullMembers members

end

end Json

end Acceptance
