/-
Module: Interpose.Scope
Purpose: What the names of types, objects and factories stand for at a moment.
Main exports: Scope, Scope.resolve, Scope.objectName
-/
import Interpose.Naming
import Interpose.Table
import Interpose.Types.Universe

namespace Interpose

/-- The names in use, and how many objects were named by number. -/
structure Scope where
  types : Table String TypeId
  objects : Naming ObjectRef
  factories : Table String FactoryId
  numbered : Nat
deriving Inhabited

namespace Scope

/-- The names of the predefined types. -/
def initial : Scope :=
  { types := (Table.empty.insert "Object" objectType).insert "IProxy" proxyCapability
    objects := .empty
    factories := .empty
    numbered := 0 }

/-- Name a type; the name no longer stands for another one. -/
def bindType (scope : Scope) (name : String) (id : TypeId) : Scope :=
  { scope with types := scope.types.insert name id }

/-- Name a factory; the name no longer stands for another one. -/
def bindFactory (scope : Scope) (name : String) (id : FactoryId) : Scope :=
  { scope with factories := scope.factories.insert name id }

/-- Name an object.  If the name stands for another one already, it goes on
doing so, but the new object is shown under it all the same. -/
def nameObject (scope : Scope) (name : String) (o : ObjectRef) : Scope :=
  { scope with objects := scope.objects.give name o }

/-- The name under which an object is shown.  One without a name is named by
the next number, whether or not that name is in use. -/
def objectName (scope : Scope) (o : ObjectRef) : String × Scope :=
  match scope.objects.name? o with
  | some name => (name, scope)
  | none =>
      let name := "#" ++ toString scope.numbered
      (name, { scope.nameObject name o with numbered := scope.numbered + 1 })

/-- The names after a value was shown. -/
def afterShowing (scope : Scope) (v : Value) : Scope :=
  match v with
  | .object o => (scope.objectName o).2
  | _ => scope

def lookup {α : Type} (name : String) : (meaning : Option α) → Except Fault α
  | some meaning => .ok meaning
  | none => .error (.unknownName name)

def typeNamed (scope : Scope) (name : String) : Except Fault TypeId :=
  lookup name (scope.types.find? name)

def runtimeType (scope : Scope) : TypeReference → Except Fault RuntimeType
  | .plain type => .ok type
  | .nullable inner => (scope.runtimeType inner).map .nullable
  | .named name => (scope.typeNamed name).map .named

/-- The member of a type that is written down. -/
def member (u : Universe) (id : TypeId) : MemberReference → Except Fault Slot
  | .named name =>
      match u.findMethod id name with
      | some slot => .ok slot
      | none => .error (.unknownName name)
  | .index index =>
      if (u.methodDeclaration? ⟨id, index⟩).isSome then .ok ⟨id, index⟩
      else .error (.unknownName (toString index))

/-- The method that is written down.  Type arguments must be as many as the
method declares. -/
def method (scope : Scope) (u : Universe) (reference : MethodReference) : Except Fault Method := do
  let id ← scope.typeNamed reference.parent
  let slot ← member u id reference.member
  match reference.typeArguments with
  | none => .ok slot.toMethod
  | some references => do
      let arguments ← references.mapM scope.runtimeType
      u.makeGeneric slot.toMethod arguments

/-- What a reference stands for. -/
def resolve (scope : Scope) (u : Universe) :
    (reference : Reference) → Except Fault reference.Meaning
  | .object name => lookup name (scope.objects.meaning? name)
  | .factory name => lookup name (scope.factories.find? name)
  | .definedType name => scope.typeNamed name
  | .runtimeType reference => scope.runtimeType reference
  | .method reference => scope.method u reference

end Scope

end Interpose
