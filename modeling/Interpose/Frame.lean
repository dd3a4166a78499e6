/-
Module: Interpose.Frame
Purpose: Arguments and scratch storage of one call.
Main exports: Argument, Frame, Frame.argument, Frame.store
Main statements: how pushing and declaring change the arguments and cells.
-/
import Interpose.Value

namespace Interpose

/-- How one argument reaches the callee. -/
inductive Argument where
  | value (v : Value)
  /-- The address of a storage cell of the frame. -/
  | address (cell : Nat)
deriving DecidableEq, Repr, Inhabited

/-- Arguments, storage cells and type arguments of one call.  An address may
name a cell that is declared later. -/
structure Frame where
  arguments : List Argument
  cells : List Value
  generics : List RuntimeType
deriving DecidableEq, Repr, Inhabited

namespace Frame

def empty (generics : List RuntimeType) : Frame := ⟨[], [], generics⟩

/-- A frame that passes every value by value and has no type arguments. -/
def ofValues (values : List Value) : Frame := ⟨values.map .value, [], []⟩

def argumentCount (frame : Frame) : Nat := frame.arguments.length

def push (frame : Frame) (v : Value) : Frame :=
  { frame with arguments := frame.arguments ++ [.value v] }

/-- Add a storage cell; its index is the number of cells before it. -/
def declare (frame : Frame) (v : Value) : Frame :=
  { frame with cells := frame.cells ++ [v] }

/-- Add an argument passed as the address of a cell. -/
def pushAddress (frame : Frame) (cell : Nat) : Frame :=
  { frame with arguments := frame.arguments ++ [.address cell] }

def cell (frame : Frame) (index : Nat) : Except Fault Value :=
  match frame.cells[index]? with
  | some v => .ok v
  | none => .error (.outOfRange index frame.cells.length)

def isByRef (frame : Frame) (index : Nat) : Bool :=
  match frame.arguments[index]? with
  | some (.address _) => true
  | _ => false

/-- The current value of an argument, read through its address if it has one. -/
def argument (frame : Frame) (index : Nat) : Except Fault Value :=
  match frame.arguments[index]? with
  | none => .error (.outOfRange index frame.arguments.length)
  | some (.value v) => .ok v
  | some (.address cell) => frame.cell cell

/-- Write through an argument that is passed as an address. -/
def store (frame : Frame) (index : Nat) (v : Value) : Except Fault Frame :=
  match frame.arguments[index]? with
  | none => .error (.outOfRange index frame.arguments.length)
  | some (.value _) => .error (.notByRef index)
  | some (.address cell) =>
      if cell < frame.cells.length then .ok { frame with cells := frame.cells.set cell v }
      else .error (.outOfRange cell frame.cells.length)

/-- Current values of the first `count` arguments, or the fault of the first
one that cannot be read. -/
def readArguments (frame : Frame) (count : Nat) : Except Fault (List Value) :=
  (List.range count).mapM frame.argument

@[simp] theorem argumentCount_push (frame : Frame) (v : Value) :
    (frame.push v).argumentCount = frame.argumentCount + 1 := by
  simp [push, argumentCount]

@[simp] theorem argumentCount_pushAddress (frame : Frame) (cell : Nat) :
    (frame.pushAddress cell).argumentCount = frame.argumentCount + 1 := by
  simp [pushAddress, argumentCount]

@[simp] theorem argumentCount_declare (frame : Frame) (v : Value) :
    (frame.declare v).argumentCount = frame.argumentCount := rfl

@[simp] theorem cell_declare_new (frame : Frame) (v : Value) :
    (frame.declare v).cell frame.cells.length = .ok v := by
  simp [declare, cell]

end Frame

end Interpose
