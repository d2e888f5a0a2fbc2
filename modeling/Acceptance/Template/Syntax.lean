import Acceptance.Json.Basic

/-!
# Syntax of templates

A template is a list of nodes: text, values to print, branches, loops, and definitions of macros.
-/

namespace Acceptance.Template

inductive Expr where
  | name (n : String)
  | literal (v : Json)
  | attribute (owner : Expr) (name : String)
  | index (owner place : Expr)
  | call (function : Expr) (arguments : List Expr)
  | filter (value : Expr) (name : String) (arguments : List Expr)
  | equal (left right : Expr)
  | notEqual (left right : Expr)
  | joined (left right : Expr)
  | not (e : Expr)
  | and (left right : Expr)
  | or (left right : Expr)
  | conditional (test value : Expr) (otherwise : Option Expr)
  deriving Repr

inductive Node where
  | text (s : String)
  | output (e : Expr)
  | branch (test : Expr) (body otherwise : List Node)
  /-- A loop; `otherwise` is written where there is nothing to walk through. -/
  | loop (target : String) (source : Expr) (body otherwise : List Node)
  | define (name : String) (parameters : List String) (body : List Node)
  deriving Repr

end Acceptance.Template
