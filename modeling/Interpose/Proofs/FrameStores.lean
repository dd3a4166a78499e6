/-
Module: Interpose.Proofs.FrameStores
Purpose: What stores through addresses do to a frame, where several arguments may address one cell
  and a cell may be addressed before it is declared.
Main exports: Frame.Addresses, Frame.Overwritten, Frame.Refuses, Frame.Step, Frame.run,
  Frame.Keeps, Frame.store_law
-/
import Interpose.Call

namespace Interpose.Frame

/-- An argument is passed as the address of a cell, whether or not the cell is declared. -/
def Addresses (frame : Frame) (index cell : Nat) : Prop :=
  frame.arguments[index]? = some (.address cell)

/-- What a frame is left with when a cell was written: all arguments that address the cell read
the new value, and everything else is as it was. -/
structure Overwritten (frame : Frame) (cell : Nat) (v : Value) (stored : Frame) : Prop where
  aliases : ∀ index, frame.Addresses index cell → stored.argument index = .ok v
  others : ∀ index, ¬frame.Addresses index cell → stored.argument index = frame.argument index
  written : stored.cell cell = .ok v
  cells : ∀ other, other ≠ cell → stored.cell other = frame.cell other
  argumentCount : stored.argumentCount = frame.argumentCount
  isByRef : ∀ index, stored.isByRef index = frame.isByRef index
  generics : stored.generics = frame.generics

/-- Why a store is refused, and with which fault: there is no such argument, it is passed by value,
or the cell that it addresses is not declared. -/
inductive Refuses (frame : Frame) (index : Nat) : Fault → Prop
  | missing (absent : frame.argumentCount ≤ index) :
      Refuses frame index (.outOfRange index frame.argumentCount)
  | byValue (v : Value) (passed : frame.arguments[index]? = some (.value v)) :
      Refuses frame index (.notByRef index)
  | dangling (cell : Nat) (addresses : frame.Addresses index cell)
      (undeclared : frame.cells.length ≤ cell) :
      Refuses frame index (.outOfRange cell frame.cells.length)

/-! ### One store -/

section Store

variable {frame stored : Frame} {index cell : Nat} {v : Value}

/-- A store succeeds through the address of a declared cell and writes that cell. -/
theorem store_eq_ok_iff :
    frame.store index v = .ok stored ↔ ∃ cell, frame.Addresses index cell ∧
      cell < frame.cells.length ∧ stored = { frame with cells := frame.cells.set cell v } := by
  unfold store Addresses
  cases frame.arguments[index]? with
  | none => simp
  | some argument =>
      cases argument with
      | value passed => simp
      | address cell =>
          by_cases declared : cell < frame.cells.length
          · simp [declared, eq_comm]
          · simp [declared]

/-- A store that fails tells why. -/
private theorem refuses_of_store {fault : Fault} (failed : frame.store index v = .error fault) :
    frame.Refuses index fault := by
  unfold store at failed
  cases held : frame.arguments[index]? with
  | none =>
      rw [held] at failed
      cases failed
      exact .missing (List.getElem?_eq_none_iff.mp held)
  | some argument =>
      rw [held] at failed
      cases argument with
      | value passed =>
          cases failed
          exact .byValue passed held
      | address cell =>
          simp only [] at failed
          by_cases declared : cell < frame.cells.length
          · rw [if_pos declared] at failed
            cases failed
          · rw [if_neg declared] at failed
            cases failed
            exact .dangling cell held (Nat.not_lt.mp declared)

private theorem argument_of_addresses (addresses : frame.Addresses index cell) :
    frame.argument index = frame.cell cell := by
  rw [argument, addresses]

/-- Writing a declared cell changes what is read at that cell. -/
theorem overwritten_set (declared : cell < frame.cells.length) :
    frame.Overwritten cell v { frame with cells := frame.cells.set cell v } := by
  have written : Frame.cell { frame with cells := frame.cells.set cell v } cell = .ok v := by
    simp [Frame.cell, declared]
  have cells : ∀ other, other ≠ cell →
      Frame.cell { frame with cells := frame.cells.set cell v } other = frame.cell other := by
    intro other different
    simp [Frame.cell, Ne.symm different]
  refine ⟨?_, ?_, written, cells, rfl, fun _ => rfl, rfl⟩
  · intro index addresses
    have still : Frame.Addresses { frame with cells := frame.cells.set cell v } index cell :=
      addresses
    exact (argument_of_addresses still).trans written
  · intro index elsewhere
    unfold argument
    cases held : frame.arguments[index]? with
    | none => rfl
    | some argument =>
        cases argument with
        | value passed => rfl
        | address other =>
            apply cells other
            intro same
            exact elsewhere (same ▸ held)

end Store

/-! ### Sequences of steps -/

/-- One step in the making and use of a frame. -/
inductive Step where
  | push (v : Value)
  | declare (v : Value)
  | pushAddress (cell : Nat)
  | store (index : Nat) (v : Value)

/-- The request by which a method body takes the step. -/
def Step.request : Step → BodyRequest
  | push v => .push v
  | declare v => .declare v
  | pushAddress cell => .pushAddress cell
  | store index v => .store index v

/-- What a step leaves.  A store that fails leaves the frame as it was. -/
def perform (frame : Frame) : Step → Frame
  | .push v => frame.push v
  | .declare v => frame.declare v
  | .pushAddress cell => frame.pushAddress cell
  | .store index v =>
      match frame.store index v with
      | .ok stored => stored
      | .error _ => frame

/-- What a sequence of steps leaves. -/
def run (frame : Frame) (steps : List Step) : Frame := steps.foldl perform frame

/-- A body that takes a step is left with what the step leaves, and with the world as it was. -/
theorem exists_serveBody_request (u : Universe) (call : VirtualCall) (frame : Frame) (w : World)
    (step : Step) : ∃ reply,
      u.serveBody call step.request (frame, w) = some (reply, frame.perform step, w) := by
  cases step with
  | store index v =>
      simp only [Step.request, Universe.serveBody, perform]
      cases frame.store index v with
      | ok stored => exact ⟨_, rfl⟩
      | error fault => exact ⟨_, rfl⟩
  | _ => exact ⟨_, rfl⟩

/-- What no step takes away: arguments stay at their places, whether passed by value or as the
address of a cell, and so do cells, whatever they hold. -/
structure Keeps (frame later : Frame) : Prop where
  arguments : frame.arguments <+: later.arguments
  cells : frame.cells.length ≤ later.cells.length
  generics : later.generics = frame.generics

namespace Keeps

variable {frame later further : Frame} {index cell : Nat}

theorem refl (frame : Frame) : frame.Keeps frame :=
  ⟨List.prefix_refl _, Nat.le_refl _, rfl⟩

theorem trans (first : frame.Keeps later) (second : later.Keeps further) :
    frame.Keeps further where
  arguments := first.arguments.trans second.arguments
  cells := Nat.le_trans first.cells second.cells
  generics := second.generics.trans first.generics

theorem getElem? {argument : Argument} (keeps : frame.Keeps later)
    (held : frame.arguments[index]? = some argument) :
    later.arguments[index]? = some argument := by
  obtain ⟨added, same⟩ := keeps.arguments
  obtain ⟨bound, _⟩ := List.getElem?_eq_some_iff.mp held
  rw [← same, List.getElem?_append_left bound, held]

theorem addresses (keeps : frame.Keeps later) (addresses : frame.Addresses index cell) :
    later.Addresses index cell :=
  keeps.getElem? addresses

end Keeps

section Steps

variable {frame : Frame} {index cell : Nat} {v : Value}

/-- No step takes away what an earlier one left. -/
theorem keeps_perform (frame : Frame) (step : Step) : frame.Keeps (frame.perform step) := by
  cases step with
  | push v => exact ⟨List.prefix_append _ _, Nat.le_refl _, rfl⟩
  | declare v =>
      refine ⟨List.prefix_refl _, ?_, rfl⟩
      rw [perform, declare, List.length_append]
      exact Nat.le_add_right _ _
  | pushAddress cell => exact ⟨List.prefix_append _ _, Nat.le_refl _, rfl⟩
  | store index v =>
      rw [perform]
      cases outcome : frame.store index v with
      | error fault => exact .refl frame
      | ok stored =>
          obtain ⟨cell, _, _, rfl⟩ := store_eq_ok_iff.mp outcome
          exact ⟨List.prefix_refl _, Nat.le_of_eq List.length_set.symm, rfl⟩

theorem keeps_run (frame : Frame) (steps : List Step) : frame.Keeps (frame.run steps) := by
  induction steps generalizing frame with
  | nil => exact .refl frame
  | cons step rest inductionHypothesis =>
      exact (keeps_perform frame step).trans (inductionHypothesis (frame.perform step))

/-- An address reads once its cell is declared, and not before. -/
theorem argument_of_undeclared (addresses : frame.Addresses index cell)
    (undeclared : frame.cells.length ≤ cell) :
    frame.argument index = .error (.outOfRange cell frame.cells.length) := by
  rw [argument_of_addresses addresses, Frame.cell, List.getElem?_eq_none undeclared]

private theorem exists_argument_of_declared (addresses : frame.Addresses index cell)
    (declared : cell < frame.cells.length) : ∃ v, frame.argument index = .ok v := by
  rw [argument_of_addresses addresses, Frame.cell, List.getElem?_eq_getElem declared]
  exact ⟨_, rfl⟩

/-- The cell that is declared next is read through the addresses that wait for it. -/
theorem argument_declare (addresses : frame.Addresses index frame.cells.length) :
    (frame.declare v).argument index = .ok v := by
  have kept := (keeps_perform frame (.declare v)).addresses addresses
  exact (argument_of_addresses kept).trans (frame.cell_declare_new v)

/-- An argument that can be read is passed by value, or its cell is declared. -/
private theorem argument_eq_ok (read : frame.argument index = .ok v) :
    frame.arguments[index]? = some (.value v) ∨
      ∃ cell, frame.Addresses index cell ∧ cell < frame.cells.length := by
  unfold argument at read
  cases held : frame.arguments[index]? with
  | none =>
      rw [held] at read
      cases read
  | some argument =>
      rw [held] at read
      cases argument with
      | value passed =>
          cases read
          exact .inl rfl
      | address cell =>
          apply Or.inr
          refine ⟨cell, held, ?_⟩
          apply Nat.lt_of_not_le
          intro undeclared
          simp [Frame.cell, List.getElem?_eq_none undeclared] at read

/-- An argument goes on reading the same while the cells that there are stay as they are. -/
theorem Keeps.argument_eq {later : Frame} (keeps : frame.Keeps later)
    (cells : ∀ cell < frame.cells.length, later.cells[cell]? = frame.cells[cell]?)
    (read : frame.argument index = .ok v) : later.argument index = .ok v := by
  cases argument_eq_ok read with
  | inl passed => rw [argument, keeps.getElem? passed]
  | inr addressed =>
      obtain ⟨cell, addresses, declared⟩ := addressed
      have same := cells cell declared
      rw [List.getElem?_eq_getElem declared] at same
      rw [argument_of_addresses addresses, Frame.cell, List.getElem?_eq_getElem declared] at read
      rw [argument_of_addresses (keeps.addresses addresses), Frame.cell, same]
      exact read

/-- A step changes what an argument reads only if it stores through the address of the same
cell; then the argument reads the value stored. -/
theorem argument_perform (read : frame.argument index = .ok v) (step : Step) :
    (frame.perform step).argument index = .ok v ∨
      ∃ other stored cell, step = .store other stored ∧ frame.Addresses index cell ∧
        frame.Addresses other cell ∧ (frame.perform step).argument index = .ok stored := by
  have keeps := keeps_perform frame step
  cases step with
  | push added => exact .inl (keeps.argument_eq (fun _ _ => rfl) read)
  | declare added =>
      apply Or.inl
      apply keeps.argument_eq _ read
      intro cell declared
      exact List.getElem?_append_left declared
  | pushAddress cell => exact .inl (keeps.argument_eq (fun _ _ => rfl) read)
  | store other stored =>
      rw [perform]
      cases outcome : frame.store other stored with
      | error fault => exact .inl read
      | ok left =>
          obtain ⟨cell, target, declared, rfl⟩ := store_eq_ok_iff.mp outcome
          have overwritten := overwritten_set (v := stored) declared
          -- The cell may be addressed by several arguments; the one that is read need not be the
          -- one that is stored through.
          by_cases aliased : frame.Addresses index cell
          · exact .inr ⟨other, stored, cell, rfl, aliased, target,
              overwritten.aliases index aliased⟩
          · exact .inl ((overwritten.others index aliased).trans read)

/-- What can be read at some time can be read ever after. -/
private theorem Keeps.exists_argument {later : Frame} (keeps : frame.Keeps later)
    (read : frame.argument index = .ok v) : ∃ now, later.argument index = .ok now := by
  cases argument_eq_ok read with
  | inl passed => exact ⟨v, by rw [argument, keeps.getElem? passed]⟩
  | inr addressed =>
      obtain ⟨cell, addresses, declared⟩ := addressed
      exact exists_argument_of_declared (keeps.addresses addresses)
        (Nat.lt_of_lt_of_le declared keeps.cells)

end Steps

/-! ### The law of stores -/

/-- However a frame came about: a store succeeds exactly through the address of a declared cell.
It is then read through every argument that addresses the cell, and nothing else changes.  A store
that fails tells why, and a body that asks for it is left with the frame as it was.

Whatever steps follow, an address whose cell is not declared cannot be read, and reads the value
with which the cell is declared as soon as it is.  What can be read goes on being read, and only a
store through the address of the same cell changes it. -/
theorem store_law (frame : Frame) :
    (∀ index v, (∃ stored, frame.store index v = .ok stored) ↔
      ∃ cell, frame.Addresses index cell ∧ cell < frame.cells.length) ∧
    (∀ index v stored, frame.store index v = .ok stored →
      ∃ cell, frame.Addresses index cell ∧ frame.Overwritten cell v stored) ∧
    (∀ index v fault, frame.store index v = .error fault → frame.Refuses index fault ∧
      ∀ (u : Universe) call w,
        u.serveBody call (.store index v) (frame, w) = some (.error fault, frame, w)) ∧
    (∀ index cell steps, frame.Addresses index cell →
      (frame.run steps).cells.length ≤ cell →
        (frame.run steps).argument index =
          .error (.outOfRange cell (frame.run steps).cells.length) ∧
        ((frame.run steps).cells.length = cell →
          ∀ v, ((frame.run steps).declare v).argument index = .ok v)) ∧
    (∀ index v step, frame.argument index = .ok v →
      (frame.perform step).argument index = .ok v ∨
        ∃ other stored cell, step = .store other stored ∧ frame.Addresses index cell ∧
          frame.Addresses other cell ∧ (frame.perform step).argument index = .ok stored) ∧
    (∀ index v steps, frame.argument index = .ok v →
      ∃ now, (frame.run steps).argument index = .ok now) := by
  refine ⟨?_, ?_, ?_, ?_, fun index v step read => argument_perform read step, ?_⟩
  · intro index v
    constructor
    · rintro ⟨stored, succeeds⟩
      obtain ⟨cell, addresses, declared, _⟩ := store_eq_ok_iff.mp succeeds
      exact ⟨cell, addresses, declared⟩
    · rintro ⟨cell, addresses, declared⟩
      exact ⟨_, store_eq_ok_iff.mpr ⟨cell, addresses, declared, rfl⟩⟩
  · intro index v stored succeeds
    obtain ⟨cell, addresses, declared, rfl⟩ := store_eq_ok_iff.mp succeeds
    exact ⟨cell, addresses, overwritten_set declared⟩
  · intro index v fault failed
    refine ⟨refuses_of_store failed, ?_⟩
    intro u call w
    simp only [Universe.serveBody, failed]
  · intro index cell steps addressed undeclared
    have waiting := (keeps_run frame steps).addresses addressed
    refine ⟨argument_of_undeclared waiting undeclared, ?_⟩
    intro next v
    subst next
    exact argument_declare waiting
  · intro index v steps read
    exact (keeps_run frame steps).exists_argument read

/-- Two arguments address a cell that is not declared yet. -/
def waiting : Frame := (empty []).run [.declare (.int32 0), .pushAddress 1, .pushAddress 1]

/-- Until the cell is declared stores through its address fail; then both arguments read it, and
a store through one is read through the other. -/
theorem store_law_waiting :
    waiting.Refuses 0 (.outOfRange 1 1) ∧
      (waiting.declare (.int32 5)).argument 1 = .ok (.int32 5) ∧
      ∃ stored, (waiting.declare (.int32 5)).store 0 (.int32 6) = .ok stored ∧
        stored.argument 1 = .ok (.int32 6) := by
  obtain ⟨_, _, refused, late, _⟩ := store_law waiting
  have declared := (late 1 1 [] rfl (Nat.le_refl 1)).2 rfl (.int32 5)
  obtain ⟨succeeds, overwrites, _⟩ := store_law (waiting.declare (.int32 5))
  obtain ⟨stored, outcome⟩ := (succeeds 0 (.int32 6)).mpr ⟨1, rfl, by decide⟩
  obtain ⟨cell, addresses, overwritten⟩ := overwrites 0 (.int32 6) stored outcome
  obtain rfl : 1 = cell := by cases addresses; rfl
  exact ⟨(refused 0 (.int32 6) _ rfl).1, declared, stored, outcome, overwritten.aliases 1 rfl⟩

end Interpose.Frame
