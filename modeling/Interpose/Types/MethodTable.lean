/-
Module: Interpose.Types.MethodTable
Purpose: Which body a type provides for a method, its own or an inherited one.
Main exports: Universe.methodTable, Universe.resolve, Universe.require
-/
import Interpose.Types.Universe
import Interpose.Table

namespace Interpose.Universe

/-- Methods that a type could override without declaring them: the virtual
methods of the types it extends, then every method of every type that it
implements, its own interfaces before those of its base. -/
def inheritedSlots (u : Universe) (id : TypeId) : List Slot :=
  let ancestors := (u.base id).elim [] u.chain
  let own := u.collectAll (u.interfaces id) []
  let inherited := ((u.base id).elim [] u.allInterfaces).filter fun listed => !own.contains listed
  ancestors.flatMap (fun ancestor => (u.slots ancestor).filter fun slot =>
    (u.signature slot).isVirtual) ++
    -- Members of interfaces are taken as they are, virtual or not.
    (own ++ inherited).flatMap u.slots

/-- The bodies that a type gives explicitly; the last one for a slot wins. -/
def explicitTable (u : Universe) (id : TypeId) : Table Slot MethodBody :=
  (u.declaration id).implementations.foldl
    (fun table implementation => table.insert implementation.1 implementation.2) .empty

/-- Enter a method with a body of its own: it implements every inherited slot
of its shape that has no body yet, and its own slot. -/
def enterOwn (u : Universe) (inherited : List Slot) (table : Table Slot MethodBody)
    (own : Slot) (body : MethodBody) : Table Slot MethodBody :=
  (inherited.foldl (fun filled slot =>
      if (u.signature slot).agrees (u.signature own) then filled.insertNew slot body else filled)
    table).insert own body

/-- The methods of a type that have a body of their own. -/
def ownBodies (u : Universe) (id : TypeId) : List (Slot × MethodBody) :=
  (u.slots id).filterMap fun slot =>
    ((u.methodDeclaration? slot).bind (·.body)).map fun body => (slot, body)

/-- The method table of a type: explicit bodies first, then the methods with
own bodies in order of declaration. -/
def methodTable (u : Universe) (id : TypeId) : Table Slot MethodBody :=
  let inherited := u.inheritedSlots id
  (u.ownBodies id).foldl (fun table own => u.enterOwn inherited table own.1 own.2)
    (u.explicitTable id)

/-- The body that the type, or the nearest type it extends, holds for a method. -/
def resolve (u : Universe) (id : TypeId) (slot : Slot) : Option MethodBody :=
  (u.chain id).findSome? fun ancestor => (u.methodTable ancestor).find? slot

/-- Like `resolve`, but a fault when there is no body.  A closed generic method
is looked up by its definition. -/
def require (u : Universe) (id : TypeId) (method : Method) : Except Fault MethodBody :=
  match u.resolve id method.slot with
  | some body => .ok body
  | none => .error (.methodNotFound method id)

end Interpose.Universe
