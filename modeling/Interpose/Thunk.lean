/-
Module: Interpose.Thunk
Purpose: Straight-line programs that adapt an argument list to one method.
Main exports: ThunkOp, Thunk, Universe.checkSignature, Universe.compile
-/
import Interpose.Types.Universe

namespace Interpose

/-- One step of a thunk. -/
inductive ThunkOp where
  /-- Check that the receiver is of a type. -/
  | cast (type : TypeId)
  /-- Narrow an argument and pass its value. -/
  | load (index : Nat) (type : RuntimeType)
  /-- Narrow an argument into a new cell and pass the cell's address. -/
  | loadAddress (index : Nat) (type : RuntimeType) (cell : Nat) (direction : Direction)
  /-- Run the body that the receiver's type provides. -/
  | callVirtual
  /-- Copy a cell back into an argument. -/
  | storeBack (index cell : Nat)
  /-- Narrow the result and return it. -/
  | returnValue (type : RuntimeType)
  /-- Return nothing. -/
  | returnVoid
deriving DecidableEq, Repr, Inhabited

/-- A compiled call of one method. -/
structure Thunk where
  method : Method
  ops : List ThunkOp
  cellCount : Nat
  parameterCount : Nat
deriving DecidableEq, Repr, Inhabited

namespace Thunk

/-- The loads of the parameters from position `index` on, when `cells` cells
have been declared before: by value, or by address with a cell each. -/
def loads (generics : List RuntimeType) : List Parameter → (index cells : Nat) → List ThunkOp
  | [], _, _ => []
  | parameter :: rest, index, cells =>
      let type := parameter.type.concrete generics
      if parameter.direction.isByRef then
        .loadAddress index type cells parameter.direction ::
          loads generics rest (index + 1) (cells + 1)
      else .load index type :: loads generics rest (index + 1) cells

/-- The copies back for the parameters from position `index` on. -/
def stores : List Parameter → (index cells : Nat) → List ThunkOp
  | [], _, _ => []
  | parameter :: rest, index, cells =>
      if parameter.direction.isByRef then
        .storeBack index cells :: stores rest (index + 1) (cells + 1)
      else stores rest (index + 1) cells

def returnOp (type : RuntimeType) : ThunkOp :=
  if type.isVoid then .returnVoid else .returnValue type

/-- The steps for a method: check the receiver, load every argument, call,
copy the cells back, return. -/
def assemble (u : Universe) (method : Method) : Thunk where
  method := method
  ops :=
    .cast method.parent ::
      (loads method.generics (u.parameters method) 0 0 ++
        .callVirtual :: (stores (u.parameters method) 0 0 ++ [returnOp (u.returnType method)]))
  cellCount := (u.parameters method).countP (·.direction.isByRef)
  parameterCount := (u.parameters method).length

end Thunk

namespace Universe

/-- The first parameter whose type is still open once the type arguments are
put in. -/
def openParameter? (u : Universe) (method : Method) : Option Parameter :=
  (u.parameters method).find? fun parameter => (parameterType method parameter).isOpen

/-- Reject signatures that no thunk and no proxy body can be produced for.
Variable argument lists and parameters declared void are rejected first.  Open
generic definitions pass; the types of any other method must be closed. -/
def checkSignature (u : Universe) (method : Method) : Except Fault Unit :=
  let reject (reason : Unsupported) : Except Fault Unit := .error (.unsupported method reason)
  if (u.signature method.slot).convention = .variableArguments then reject .variableArguments
  -- Types as declared: a type argument that is void is not seen here.
  else match (u.parameters method).find? (·.type.isVoid) with
  | some parameter => reject (.voidParameter parameter.name)
  | none =>
      if u.isGenericDefinition method then .ok ()
      else match u.openParameter? method with
      | some parameter => reject (.openParameter parameter.name (parameterType method parameter))
      | none =>
          if (u.returnType method).isOpen then reject (.openReturn (u.returnType method))
          else .ok ()

/-- The thunk of a method with a supported signature.  Generic definitions
have none; their closed methods do. -/
def compile (u : Universe) (method : Method) : Except Fault Thunk :=
  match u.checkSignature method with
  | .error fault => .error fault
  | .ok () =>
      if u.isGenericDefinition method then .error (.unsupported method .genericDefinition)
      else .ok (Thunk.assemble u method)

end Universe

end Interpose
