/-
Module: Interpose.Types.Method
Purpose: Signatures, and the names by which declared methods are called.
Main exports: Parameter, Signature, Signature.agrees, Field, Slot, Method
-/
import Interpose.Types.RuntimeType

namespace Interpose

/-- Which way a parameter carries values.  `out` and `byRef` parameters are
passed as the address of a storage cell. -/
inductive Direction where
  | input
  | out
  | byRef
deriving DecidableEq, Repr, Inhabited

def Direction.isByRef : Direction → Bool
  | .input => false
  | .out | .byRef => true

/-- One formal parameter. -/
structure Parameter where
  name : String
  type : RuntimeType
  direction : Direction
deriving DecidableEq, Repr, Inhabited

/-- How arguments are laid out. -/
inductive Convention where
  | standard
  | variableArguments
deriving DecidableEq, Repr, Inhabited

/-- A method as a type declares it, apart from its body. -/
structure Signature where
  name : String
  parameters : List Parameter := []
  returns : RuntimeType := .void
  genericParameters : List String := []
  convention : Convention := .standard
  isVirtual : Bool := true
  isSpecialName : Bool := false
deriving DecidableEq, Repr, Inhabited

namespace Signature

/-- Same name and shape, so that one method can stand in for the other: the
parameters with their names, types and directions, the return type and the
number of generic parameters agree. -/
def agrees (one other : Signature) : Bool :=
  one.name == other.name && one.parameters == other.parameters &&
    one.returns == other.returns &&
    one.genericParameters.length == other.genericParameters.length

def arity (signature : Signature) : Nat := signature.genericParameters.length

end Signature

/-- A field as a type declares it. -/
structure Field where
  name : String
  type : RuntimeType
  isStatic : Bool := false
deriving DecidableEq, Repr, Inhabited

/-- A declared method: the type that declares it and its place there. -/
structure Slot where
  parent : TypeId
  index : Nat
deriving DecidableEq, Repr, Inhabited

/-- A declared method, closed over type arguments if there are any. -/
structure Method where
  slot : Slot
  generics : List RuntimeType
deriving DecidableEq, Repr, Inhabited

/-- The method without type arguments. -/
def Slot.toMethod (slot : Slot) : Method := ⟨slot, []⟩

namespace Method

def parent (method : Method) : TypeId := method.slot.parent

/-- The definition that the method was closed from. -/
def toOpen (method : Method) : Method := method.slot.toMethod

def isOpen (method : Method) : Bool := method.generics.isEmpty

@[simp] theorem slot_toOpen (method : Method) : method.toOpen.slot = method.slot := rfl

@[simp] theorem generics_toOpen (method : Method) : method.toOpen.generics = [] := rfl

end Method

@[simp] theorem Slot.slot_toMethod (slot : Slot) : slot.toMethod.slot = slot := rfl

@[simp] theorem Slot.generics_toMethod (slot : Slot) : slot.toMethod.generics = [] := rfl

end Interpose
