/-
Module: Interpose.Types.RuntimeType
Purpose: The types that storage locations, parameters and results have while a program runs.
Main exports: TypeId, RuntimeType, RuntimeType.concrete, RuntimeType.isOpen
-/

namespace Interpose

/-- Identity of a defined type: its place in the order of definition.  Two
types of one name are still two types. -/
abbrev TypeId := Nat

/-- The universal base type, which every class extends. -/
def objectType : TypeId := 0

/-- The interface that every synthesized proxy type implements. -/
def proxyCapability : TypeId := 1

/-- What a storage location may be declared to hold.  A `methodParameter`
stands for a type argument of the generic method that mentions it. -/
inductive RuntimeType where
  | void
  | boolean
  | char
  | int32
  | int64
  | float64
  | string
  | object
  | nullable (inner : RuntimeType)
  | named (id : TypeId)
  | methodParameter (index : Nat)
deriving DecidableEq, Repr, Inhabited

namespace RuntimeType

def isVoid : RuntimeType → Bool
  | void => true
  | _ => false

/-- Whether the type still mentions a type argument that was not supplied. -/
def isOpen : RuntimeType → Bool
  | methodParameter _ => true
  | nullable inner => inner.isOpen
  | _ => false

/-- `object` and the universal base type are the same type. -/
def isObject : RuntimeType → Bool
  | object => true
  | named id => id == objectType
  | _ => false

/-- Put type arguments in place of method parameters.  A parameter without an
argument stays as it is. -/
def concrete (arguments : List RuntimeType) : RuntimeType → RuntimeType
  | methodParameter index => arguments[index]?.getD (methodParameter index)
  | nullable inner => nullable (inner.concrete arguments)
  | other => other

@[simp] theorem concrete_nil (type : RuntimeType) : type.concrete [] = type := by
  induction type with
  | nullable inner inductionHypothesis => simp [concrete, inductionHypothesis]
  | methodParameter index => simp [concrete]
  | _ => rfl

end RuntimeType

end Interpose
