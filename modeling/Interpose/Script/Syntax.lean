/-
Module: Interpose.Script.Syntax
Purpose: A small notation for method bodies and interceptors.
Main exports: Expr, Step
-/
import Interpose.Program

namespace Interpose.Script

/-- What a step computes with.  `this`, `tag`, `cell`, `get` and `isByRef` are
about a running body, `target` about an interception; elsewhere they are null.
Names are looked up whenever the expression is evaluated. -/
inductive Expr where
  | value (v : Value)
  | object (name : String)
  | argument (index : Nat)
  /-- An argument that must have a payload of some tag. -/
  | get (index : Nat) (kind : ValueKind)
  | argumentCount
  | isByRef (index : Nat)
  /-- The type arguments in words. -/
  | generics
  | this
  | tag
  | cell (key : String)
  | target
  /-- The current result of the script. -/
  | result
  /-- The intercepted method with its signature. -/
  | method
  | methodName
  /-- Sum of two 32-bit integers, which wraps around; null for anything else. -/
  | add (left right : Expr)
  /-- Two strings joined; null for anything else. -/
  | concat (left right : Expr)
  | equal (left right : Expr)
  | narrow (e : Expr) (type : TypeReference)
  | typeName (e : Expr)
  | default (type : TypeReference)
  | create (type : String) (tag : String)
  | invoke (factory : String) (method : MethodReference) (on : Expr) (arguments : List Expr)
  | callVirtual (method : MethodReference) (on : Expr) (arguments : List Expr)
deriving Inhabited

/-- One step of a script. -/
inductive Step where
  | return (e : Expr)
  | fail (text : String)
  | log (e : Expr)
  | logArguments
  | store (index : Nat) (e : Expr)
  | setCell (key : String) (e : Expr)
  | cond (test : Expr) (yes no : List Step)
  /-- Report a fault of the steps and go on. -/
  | attempt (steps : List Step)
  /-- Overwrite every argument slot. -/
  | fill (e : Expr)
  | proceed
  | proceedWith (on : Expr) (arguments : List Expr)
  | retarget (e : Expr)
  /-- Report the interception in words. -/
  | logCall
deriving Inhabited

end Interpose.Script
