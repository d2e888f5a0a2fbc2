import Acceptance.Template.Filter
import Acceptance.Template.Parser

/-!
# Rendering

A template is read, its filters are looked up, and its nodes are written one after the other.
Names are looked up among the variables of the innermost macro and its loops, then among the
macros defined so far, then in the data that the template is rendered with.

    render source data = .ok text
-/

namespace Acceptance.Template

open Acceptance.Text

/-! ## Looking up filters -/

mutual

/-- The filters of an expression that do not exist, those aside that stand under a condition. -/
def Expr.unknownFilters : Expr → List String
  | .name _ => []
  | .literal _ => []
  | .attribute e _ => e.unknownFilters
  | .index e i => e.unknownFilters ++ i.unknownFilters
  | .call f es => f.unknownFilters ++ unknownFiltersOf es
  | .filter e n es =>
    (if filterNames.contains n then [] else [n]) ++ e.unknownFilters ++ unknownFiltersOf es
  | .equal l r => l.unknownFilters ++ r.unknownFilters
  | .notEqual l r => l.unknownFilters ++ r.unknownFilters
  | .joined l r => l.unknownFilters ++ r.unknownFilters
  | .not e => e.unknownFilters
  | .and l r => l.unknownFilters ++ r.unknownFilters
  | .or l r => l.unknownFilters ++ r.unknownFilters
  | .conditional _ _ _ => []

def unknownFiltersOf : List Expr → List String
  | [] => []
  | e :: es => e.unknownFilters ++ unknownFiltersOf es

end

mutual

/-- The filters of a node that do not exist; `soft` says that it stands under a condition. -/
def Node.unknownFilters (soft : Bool) : Node → List String
  | .text _ => []
  | .output e => if soft then [] else e.unknownFilters
  | .branch _ body otherwise => unknownFiltersIn true body ++ unknownFiltersIn true otherwise
  | .loop _ source body otherwise =>
    (if soft then [] else source.unknownFilters) ++ unknownFiltersIn false body ++
      unknownFiltersIn false otherwise
  | .define _ _ body => unknownFiltersIn false body

def unknownFiltersIn (soft : Bool) : List Node → List String
  | [] => []
  | n :: ns => n.unknownFilters soft ++ unknownFiltersIn soft ns

end

/-! ## Names -/

abbrev Bindings := List (String × Value)

/-- The names in sight: local variables, the macros defined so far, and the data. -/
structure Env where
  locals : Bindings
  macros : Bindings
  data : List (String × Json)
  /-- Whether a macro is defined for the whole template. -/
  outermost : Bool

namespace Env

def lookup (env : Env) (n : String) : Value :=
  match env.locals.lookup n, env.macros.lookup n, env.data.lookup n with
  | some v, _, _ => v
  | none, some v, _ => v
  | none, none, some v => .data v
  | none, none, none => .undefined (.name n)

/-- The names in sight of an item of a loop. -/
def enterItem (env : Env) (target : String) (item : Json) (l : LoopState) : Env :=
  { env with locals := (target, .data item) :: ("loop", .loop l) :: env.locals, outermost := false }

/-- The names in sight behind the definition of a macro. -/
def define (env : Env) (m : Macro) : Env :=
  if env.outermost then { env with macros := (m.name, .macroValue m) :: env.macros }
  else { env with locals := (m.name, .macroValue m) :: env.locals }

end Env

/-- The parameters of a macro with the values that it is called with. -/
def bindParameters : List String → List Value → Bindings
  | [], _ => []
  | p :: ps, v :: vs => (p, v) :: bindParameters ps vs
  | p :: ps, [] => (p, .undefined (.parameter p)) :: bindParameters ps []

/-! ## Evaluation -/

/-- Calls a macro with values, in sight of the macros defined so far. -/
abbrev Caller := Env → Macro → List Value → Except RenderError String

/-- Calls a value. -/
def callValue (call : Caller) (env : Env) (f : Value) (arguments : List Value) :
    Except RenderError Value :=
  match f with
  | .macroValue m =>
    if arguments.length > m.parameters.length then
      .error (.wrongKind ("macro " ++ literal m.name ++ " takes not more than " ++
        Decimal.text m.parameters.length ++ " argument(s)"))
    else (call env m arguments).map fun s => .data (.str s)
  | .undefined a => .error (.undefined a)
  | v => .error (.wrongKind (literal v.kind ++ " object is not callable"))

mutual

/-- The value of an expression. -/
def evaluate (call : Caller) (env : Env) : Expr → Except RenderError Value
  | .name n => .ok (env.lookup n)
  | .literal v => .ok (.data v)
  | .attribute e n => do (← evaluate call env e).member n
  | .index e i => do
    let v ← evaluate call env e
    v.element (← evaluate call env i)
  | .call f es => do
    let v ← evaluate call env f
    callValue call env v (← evaluateAll call env es)
  | .filter e n es => do
    let v ← evaluate call env e
    applyFilter n v (← evaluateAll call env es)
  | .equal l r => do
    let v ← evaluate call env l
    return .data (.bool (← v.equal (← evaluate call env r)))
  | .notEqual l r => do
    let v ← evaluate call env l
    return .data (.bool !(← v.equal (← evaluate call env r)))
  | .joined l r => do
    let v ← evaluate call env l
    let w ← evaluate call env r
    return .data (.str ((← v.text) ++ (← w.text)))
  | .not e => do return .data (.bool !(← (← evaluate call env e).test))
  | .and l r => do
    let v ← evaluate call env l
    if ← v.test then evaluate call env r else return v
  | .or l r => do
    let v ← evaluate call env l
    if ← v.test then return v else evaluate call env r
  | .conditional t v none => do
    if ← (← evaluate call env t).test then evaluate call env v else return .undefined .otherwise
  | .conditional t v (some o) => do
    if ← (← evaluate call env t).test then evaluate call env v else evaluate call env o

def evaluateAll (call : Caller) (env : Env) : List Expr → Except RenderError (List Value)
  | [] => .ok []
  | e :: es => do
    let v ← evaluate call env e
    return v :: (← evaluateAll call env es)

end

/-- An attribute of data is the member of its name. -/
theorem evaluate_attribute {call : Caller} {env : Env} {e : Expr} {n : String} {d w : Json}
    (he : evaluate call env e = .ok (.data d)) (hm : d.member? n = some w) :
    evaluate call env (.attribute e n) = .ok (.data w) := by
  rw [evaluate, he]
  simp only [bind, Except.bind, Value.member, hm]

/-- The texts of the items of a loop, `index` of `count` items written so far. -/
def eachItem (body : Env → Except RenderError String) (env : Env) (target : String) (count : Nat) :
    Nat → List Json → Except RenderError String
  | _, [] => .ok ""
  | index, item :: items => do
    let s ← body (env.enterItem target item ⟨index, count⟩)
    return s ++ (← eachItem body env target count (index + 1) items)

mutual

/-- The text of a node. -/
def writeNode (call : Caller) (env : Env) : Node → Except RenderError String
  | .text s => .ok s
  | .output e => do (← evaluate call env e).text
  | .branch test body otherwise => do
    if ← (← evaluate call env test).test then writeNodes call env body
    else writeNodes call env otherwise
  | .loop target source body otherwise => do
    let items ← (← evaluate call env source).items
    if items.isEmpty then writeNodes call env otherwise
    else eachItem (fun env => writeNodes call env body) env target items.length 0 items
  | .define _ _ _ => .ok ""

/-- The text of nodes; a macro is in sight of the nodes behind its definition. -/
def writeNodes (call : Caller) (env : Env) : List Node → Except RenderError String
  | [] => .ok ""
  | n :: ns => do
    let s ← writeNode call env n
    let env := match n with
      | .define name parameters body => env.define ⟨name, parameters, body⟩
      | _ => env
    return s ++ (← writeNodes call env ns)

end

/-- Calls of macros, at most `n` of them open. -/
def callDepth : Nat → Caller
  | 0 => fun _ _ _ => .error .tooDeep
  | n + 1 => fun env m arguments =>
    writeNodes (callDepth n)
      { env with locals := bindParameters m.parameters arguments, outermost := false }
      m.body

/-- The most macros that may be open at once. -/
def deepestCall : Nat := 200

/-- The text of a template that was read. -/
def renderNodes (nodes : List Node) (data : List (String × Json)) : Except RenderError String :=
  match unknownFiltersIn false nodes with
  | name :: _ => .error (.unknownFilter name)
  | [] => writeNodes (callDepth deepestCall) ⟨[], [], data, true⟩ nodes

/-- The text of a template. -/
def render (source : String) (data : List (String × Json)) : Except RenderError String :=
  match Node.read source with
  | none => .error .unreadable
  | some nodes => renderNodes nodes data

end Acceptance.Template
