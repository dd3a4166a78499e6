/-
Module: Interpose.Reference
Purpose: How programs refer to types, methods, objects and factories by name.
Main exports: TypeReference, MethodReference, Reference
-/
import Interpose.Value

namespace Interpose

abbrev FactoryId := Nat

/-- A runtime type as it is written down: a defined type goes by its name. -/
inductive TypeReference where
  /-- A type that no name is needed for. -/
  | plain (type : RuntimeType)
  | nullable (inner : TypeReference)
  | named (name : String)
deriving Repr, Inhabited

/-- A member of a type: the first declared one of a name, or the one at a place. -/
inductive MemberReference where
  | named (name : String)
  | index (index : Nat)
deriving Repr, Inhabited

/-- A method as it is written down, with type arguments if it is to be closed. -/
structure MethodReference where
  parent : String
  member : MemberReference
  typeArguments : Option (List TypeReference)
deriving Repr, Inhabited

/-- Anything that goes by a name. -/
inductive Reference where
  | object (name : String)
  | factory (name : String)
  /-- A defined type. -/
  | definedType (name : String)
  | runtimeType (reference : TypeReference)
  | method (reference : MethodReference)

/-- What a reference stands for. -/
def Reference.Meaning : Reference → Type
  | object _ => ObjectRef
  | factory _ => FactoryId
  | definedType _ => TypeId
  | runtimeType _ => RuntimeType
  | method _ => Method

end Interpose
