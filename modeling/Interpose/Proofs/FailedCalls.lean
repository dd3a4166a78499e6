/-
Module: Interpose.Proofs.FailedCalls
Purpose: What a failed intercepted call leaves in the frame of its caller.
Main exports: Universe.Passes, Universe.Copied, Universe.StoppedAt, Universe.writeBack_copied,
  Universe.FailedCall, Universe.failed_call_leaves
-/
import Interpose.Proofs.InterceptedCalls

namespace Interpose

/-- An argument is passed by reference when it is an address. -/
private theorem Frame.isByRef_iff {frame : Frame} {index : Nat} :
    frame.isByRef index = true ↔ ∃ cell, frame.arguments[index]? = some (.address cell) := by
  unfold isByRef
  split
  · rename_i cell address
    exact ⟨fun _ => ⟨cell, address⟩, fun _ => rfl⟩
  · rename_i others
    exact ⟨fun impossible => (Bool.false_ne_true impossible).elim,
      fun ⟨cell, address⟩ => (others cell address).elim⟩

namespace Universe

/-! ### Copying slots to the caller -/

/-- At a position a method has an out or by-reference parameter, and the frame passes the
address of a cell for it. -/
structure Passes (u : Universe) (method : Method) (frame : Frame) (index : Nat)
    (parameter : Parameter) (cell : Nat) : Prop where
  declared : (u.parameters method)[index]? = some parameter
  byRef : parameter.direction.isByRef = true
  address : frame.arguments[index]? = some (.address cell)

/-- What is left of a frame once the slots at the first `count` positions were copied into it.
The slots copied fit.  A cell holds the slot of the last of these positions that passes its
address, and what it held before when none does. -/
structure Copied (u : Universe) (method : Method) (slots : List Value) (frame : Frame)
    (count : Nat) (left : Frame) : Prop where
  arguments : left.arguments = frame.arguments
  generics : left.generics = frame.generics
  size : left.cells.length = frame.cells.length
  fitting : ∀ index < count, ∀ parameter cell, u.Passes method frame index parameter cell →
    ∃ slot, slots[index]? = some slot ∧ u.fits slot (parameterType method parameter) = true
  copied : ∀ index < count, ∀ parameter cell, u.Passes method frame index parameter cell →
    (∀ later < count, ∀ other, u.Passes method frame later other cell → later ≤ index) →
    left.cells[cell]? = slots[index]?
  kept : ∀ cell, (∀ index < count, ∀ parameter, ¬u.Passes method frame index parameter cell) →
    left.cells[cell]? = frame.cells[cell]?

/-- Copying stopped at a slot that does not fit its parameter; what was copied before stays. -/
def StoppedAt (u : Universe) (method : Method) (slots : List Value) (frame : Frame)
    (fault : Fault) (left : Frame) : Prop :=
  ∃ index parameter cell slot, u.Passes method frame index parameter cell ∧
    slots[index]? = some slot ∧ u.narrow slot (parameterType method parameter) = .error fault ∧
    u.Copied method slots frame index left

namespace Copied

variable {u : Universe} {method : Method} {slots : List Value} {frame left : Frame} {count : Nat}

/-- Before the first position nothing is copied. -/
theorem start (u : Universe) (method : Method) (slots : List Value) (frame : Frame) :
    u.Copied method slots frame 0 frame where
  arguments := rfl
  generics := rfl
  size := rfl
  fitting := fun _ none => absurd none (Nat.not_lt_zero _)
  copied := fun _ none => absurd none (Nat.not_lt_zero _)
  kept := fun _ _ => rfl

/-- A position that passes no address changes nothing. -/
theorem skip (copied : u.Copied method slots frame count left)
    (passesNone : ∀ parameter cell, ¬u.Passes method frame count parameter cell) :
    u.Copied method slots frame (count + 1) left where
  arguments := copied.arguments
  generics := copied.generics
  size := copied.size
  fitting := by
    intro index bound parameter cell passes
    rcases Nat.lt_succ_iff_lt_or_eq.mp bound with early | rfl
    · exact copied.fitting index early parameter cell passes
    · exact absurd passes (passesNone parameter cell)
  copied := by
    intro index bound parameter cell passes last
    rcases Nat.lt_succ_iff_lt_or_eq.mp bound with early | rfl
    · exact copied.copied index early parameter cell passes
        fun later before => last later (Nat.lt_succ_of_lt before)
    · exact absurd passes (passesNone parameter cell)
  kept := fun cell untouched =>
    copied.kept cell fun index early => untouched index (Nat.lt_succ_of_lt early)

/-- A slot that fits is written over what its cell held. -/
theorem store (copied : u.Copied method slots frame count left) {parameter : Parameter}
    {cell : Nat} {slot : Value} (passes : u.Passes method frame count parameter cell)
    (inRange : cell < frame.cells.length) (held : slots[count]? = some slot)
    (fits : u.fits slot (parameterType method parameter) = true) :
    u.Copied method slots frame (count + 1) { left with cells := left.cells.set cell slot } where
  arguments := copied.arguments
  generics := copied.generics
  size := by rw [List.length_set, copied.size]
  fitting := by
    intro index bound other target otherPasses
    rcases Nat.lt_succ_iff_lt_or_eq.mp bound with early | rfl
    · exact copied.fitting index early other target otherPasses
    · obtain rfl := Option.some.inj (passes.declared.symm.trans otherPasses.declared)
      exact ⟨slot, held, fits⟩
  copied := by
    intro index bound other target otherPasses last
    by_cases same : target = cell
    · -- The position just copied is the last one for its cell.
      subst same
      have latest := last count (Nat.lt_succ_self count) parameter passes
      obtain rfl : index = count := Nat.le_antisymm (Nat.le_of_lt_succ bound) latest
      rw [List.getElem?_set_self (copied.size ▸ inRange), held]
    · rw [List.getElem?_set_ne (Ne.symm same)]
      rcases Nat.lt_succ_iff_lt_or_eq.mp bound with early | rfl
      · exact copied.copied index early other target otherPasses
          fun later before => last later (Nat.lt_succ_of_lt before)
      · have address := otherPasses.address.symm.trans passes.address
        exact absurd (Argument.address.inj (Option.some.inj address)) same
  kept := by
    intro target untouched
    have different : cell ≠ target := by
      rintro rfl
      exact untouched count (Nat.lt_succ_self count) parameter passes
    rw [List.getElem?_set_ne different]
    exact copied.kept target fun index early => untouched index (Nat.lt_succ_of_lt early)

end Copied

/-- Copying slots ends with all of them in place or stops at one that does not fit.  The
induction is on the parameters still to come; those before have been copied. -/
private theorem writeBack_copied (u : Universe) {method : Method} {slots : List Value}
    {frame : Frame} (inRange : ∀ index cell, index < (u.parameters method).length →
      frame.arguments[index]? = some (.address cell) → cell < frame.cells.length)
    (sameSlots : slots.length = (u.parameters method).length) {rest : List Parameter} :
    ∀ (before : List Parameter) (current : Frame), u.parameters method = before ++ rest →
      u.Copied method slots frame before.length current →
      ∃ outcome left, u.writeBack method slots rest before.length current = (outcome, left) ∧
        ((outcome = .ok () ∧ u.Copied method slots frame (u.parameters method).length left) ∨
          ∃ fault, outcome = .error fault ∧ u.StoppedAt method slots frame fault left) := by
  induction rest with
  | nil =>
      intro before current split copied
      rw [List.append_nil] at split
      exact ⟨.ok (), current, rfl, .inl ⟨rfl, split ▸ copied⟩⟩
  | cons parameter rest inductionHypothesis =>
      intro before current split copied
      have bound : before.length < (u.parameters method).length := by
        rw [split, List.length_append, List.length_cons]
        omega
      have declared : (u.parameters method)[before.length]? = some parameter := by simp [split]
      have further := inductionHypothesis (before ++ [parameter])
      rw [List.length_append, List.length_singleton, List.append_assoc, List.singleton_append]
        at further
      unfold writeBack
      by_cases copies : (parameter.direction.isByRef && current.isByRef before.length) = true
      · obtain ⟨byRef, addressed⟩ := Bool.and_eq_true_iff.mp copies
        -- The address is that of the frame at the start, since copying only sets cells.
        obtain ⟨cell, address⟩ := Frame.isByRef_iff.mp addressed
        rw [copied.arguments] at address
        have passes : u.Passes method frame before.length parameter cell :=
          ⟨declared, byRef, address⟩
        have range := inRange before.length cell bound address
        obtain ⟨slot, held⟩ : ∃ slot, slots[before.length]? = some slot :=
          ⟨_, List.getElem?_eq_getElem (sameSlots ▸ bound)⟩
        have chosen : slots.getD before.length .void = slot := by
          simp [List.getD_eq_getElem?_getD, held]
        rw [if_pos copies, chosen]
        cases narrowed : u.narrow slot (parameterType method parameter) with
        | error fault =>
            exact ⟨.error fault, current, rfl, .inr ⟨fault, rfl, before.length, parameter, cell,
              slot, passes, held, narrowed, copied⟩⟩
        | ok v =>
            obtain ⟨fits, rfl⟩ := (u.narrow_eq_ok_iff _ _ _).mp narrowed
            have stored : current.store before.length v =
                .ok { current with cells := current.cells.set cell v } := by
              rw [Frame.store, copied.arguments, address]
              exact if_pos (copied.size ▸ range)
            simp only [stored]
            exact further _ split (copied.store passes range held fits)
      · rw [if_neg copies]
        refine further current split (copied.skip fun other cell passes => copies ?_)
        obtain rfl := Option.some.inj (declared.symm.trans passes.declared)
        have addressed : current.isByRef before.length = true :=
          Frame.isByRef_iff.mpr ⟨cell, copied.arguments ▸ passes.address⟩
        rw [passes.byRef, addressed]
        rfl

/-- Handing over slots and result fails at a slot that does not fit, or because of the result
when all slots are in place. -/
private theorem conclude_failed (u : Universe) {method : Method} {slots : List Value}
    {result : Value} {frame left : Frame} {fault : Fault}
    (inRange : ∀ index cell, index < (u.parameters method).length →
      frame.arguments[index]? = some (.address cell) → cell < frame.cells.length)
    (sameSlots : slots.length = (u.parameters method).length)
    (failed : u.conclude method slots result frame = (.error fault, left)) :
    u.StoppedAt method slots frame fault left ∨
      (u.intercepted method result = .error fault ∧
        u.Copied method slots frame (u.parameters method).length left) := by
  obtain ⟨outcome, copiedTo, written, ended⟩ : ∃ outcome copiedTo,
      u.writeBack method slots (u.parameters method) 0 frame = (outcome, copiedTo) ∧
        ((outcome = .ok () ∧ u.Copied method slots frame (u.parameters method).length copiedTo) ∨
          ∃ fault, outcome = .error fault ∧ u.StoppedAt method slots frame fault copiedTo) :=
    u.writeBack_copied inRange sameSlots [] frame rfl (.start u method slots frame)
  rw [conclude, written] at failed
  rcases ended with ⟨rfl, copied⟩ | ⟨stop, rfl, stopped⟩
  · obtain ⟨misfit, rfl⟩ := Prod.mk.inj failed
    exact .inr ⟨misfit, copied⟩
  · cases failed
    exact .inl stopped

/-! ### How an intercepted call fails -/

/-- How an intercepted call fails, and what its caller is left with.  Before the interceptor
has answered nothing is copied; a slot that does not fit stops the copying; a result that does
not fit comes after all slots were copied. -/
inductive FailedCall (u : Universe) (call : VirtualCall) (this : ObjectRef) (slot : Slot)
    (dispatch : Dispatch) (factory : FactoryId) (frame : Frame) (w : World) (fault : Fault)
    (after : World) : Frame → Prop
  | consulting (refused : u.consult this slot dispatch factory frame w = (.error fault, after)) :
      FailedCall u call this slot dispatch factory frame w fault after frame
  | handling (interceptor : Interceptor) (context final : Interception) (between : World)
      (consulted : u.consult this slot dispatch factory frame w =
        (.ok (interceptor, context), between))
      (refused : interceptor.run (u.serveHook call) (context, between) =
        some (.error fault, final, after)) :
      FailedCall u call this slot dispatch factory frame w fault after frame
  | copying (interceptor : Interceptor) (context final : Interception) (between : World)
      (result : Value) (left : Frame)
      (consulted : u.consult this slot dispatch factory frame w =
        (.ok (interceptor, context), between))
      (handled : interceptor.run (u.serveHook call) (context, between) =
        some (.ok result, final, after))
      (stopped : u.StoppedAt context.method final.slots frame fault left) :
      FailedCall u call this slot dispatch factory frame w fault after left
  | returning (interceptor : Interceptor) (context final : Interception) (between : World)
      (result : Value) (left : Frame)
      (consulted : u.consult this slot dispatch factory frame w =
        (.ok (interceptor, context), between))
      (handled : interceptor.run (u.serveHook call) (context, between) =
        some (.ok result, final, after))
      (misfit : u.intercepted context.method result = .error fault)
      (copied : u.Copied context.method final.slots frame (u.parameters context.method).length
        left) :
      FailedCall u call this slot dispatch factory frame w fault after left

/-- A failed intercepted call leaves the frame of its caller as it was, unless the interceptor
succeeded and what it left does not fit. -/
theorem failed_call_leaves (u : Universe) {call : VirtualCall} {this : ObjectRef} {slot : Slot}
    {dispatch : Dispatch} {factory : FactoryId} {frame left : Frame} {w after : World}
    {fault : Fault}
    (ran : u.runIntercepted call this slot dispatch factory frame w =
      some (.error fault, left, after)) :
    u.FailedCall call this slot dispatch factory frame w fault after left := by
  unfold runIntercepted at ran
  split at ran
  · rename_i refused
    cases ran
    exact .consulting refused
  · rename_i interceptor context between consulted
    split at ran
    · cases ran
    · rename_i final last refused
      cases ran
      exact .handling interceptor context final between consulted refused
    · rename_i result final last handled
      obtain ⟨_, _, _, _, _, _, _, read, _⟩ := u.consult_ok consulted
      -- An interceptor sets slots but adds and removes none.
      have sameSlots : final.slots.length = (u.parameters context.method).length :=
        (u.length_slots_visited (Program.visits_of_run handled)).trans
          (Frame.length_readArguments read)
      obtain ⟨concluded, rest⟩ := Prod.mk.inj (Option.some.inj ran)
      obtain ⟨leftFrame, rfl⟩ := Prod.mk.inj rest
      rcases u.conclude_failed
        (fun index cell bound address => Frame.lt_of_readArguments read bound address) sameSlots
        (Prod.ext concluded leftFrame) with stopped | ⟨misfit, copied⟩
      · exact .copying interceptor context final between result left consulted handled stopped
      · exact .returning interceptor context final between result left consulted handled misfit
          copied

end Universe

/-! ### A gauge with two readings -/

namespace Session

/-- Hands out two readings. -/
def readings : Signature :=
  { name := "Read", parameters := [⟨"low", .int32, .byRef⟩, ⟨"high", .int32, .byRef⟩],
    returns := .int32 }

def gauge : TypeDeclaration :=
  (TypeDeclaration.ofClass "Gauge").addMethod readings
    (some (.native fun _ => .done (.ok (.int32 0))))

/-- One object of the class, and a proxy that stands in for it. -/
def overGauge (interceptor : Interceptor) : Session :=
  let (target, created) := (initial.define gauge).2.create 2 "gauge"
  (created.createProxy 0 ⟨2, [], Universe.everything⟩ (some target) interceptor).2

def twoReadings : Frame := ⟨[.address 0, .address 1], [.int32 1, .int32 2], []⟩

/-- The intercepted call on the proxy. -/
def readOver (interceptor : Interceptor) :
    Option (Except Fault Value × Frame × World) :=
  (overGauge interceptor).types.runIntercepted ((overGauge interceptor).types.callVirtual 3) ⟨1, 3⟩
    ⟨2, 0⟩ (.direct 0) 0 twoReadings (overGauge interceptor).world

/-- Leaves a first reading that fits and a second one that does not. -/
def misreading : Interceptor :=
  .ask (.setSlot 0 (.int32 9)) fun _ => .ask (.setSlot 1 (.string "nine")) fun _ =>
    .done (.ok (.int32 0))

/-- Leaves readings that fit and a result that does not. -/
def misreporting : Interceptor :=
  .ask (.setSlot 0 (.int32 9)) fun _ => .done (.ok (.string "nine"))

/-- Fails after it has changed a reading. -/
def refusing : Interceptor :=
  .ask (.setSlot 0 (.int32 9)) fun _ => .done (.error (.interceptor "no reading"))

/-- The interceptor fails, and the readings stay. -/
theorem failed_call_leaves_refusing :
    ∃ fault left after, readOver refusing = some (.error fault, left, after) ∧
      (overGauge refusing).types.FailedCall ((overGauge refusing).types.callVirtual 3) ⟨1, 3⟩
        ⟨2, 0⟩ (.direct 0) 0 twoReadings (overGauge refusing).world fault after left ∧
      left = twoReadings := by
  have ends : (readOver refusing).map (fun ended => (ended.1, ended.2.1)) =
      some (.error (.interceptor "no reading"), twoReadings) := by with_unfolding_all rfl
  obtain ⟨⟨result, left, after⟩, ran, same⟩ := Option.map_eq_some_iff.mp ends
  obtain ⟨rfl, rfl⟩ := Prod.mk.inj same
  exact ⟨_, _, after, ran, Universe.failed_call_leaves _ ran, rfl⟩

/-- With a slot or a result that does not fit the call fails, and the first reading was
replaced. -/
theorem failed_call_changes_cell :
    (∃ fault left after, readOver misreading = some (.error fault, left, after) ∧
      twoReadings.cells[0]? = some (.int32 1) ∧ left.cells[0]? = some (.int32 9)) ∧
    ∃ fault left after, readOver misreporting = some (.error fault, left, after) ∧
      twoReadings.cells[0]? = some (.int32 1) ∧ left.cells[0]? = some (.int32 9) := by
  constructor
  · exact ⟨_, _, _, by with_unfolding_all rfl, rfl, rfl⟩
  · exact ⟨_, _, _, by with_unfolding_all rfl, rfl, rfl⟩

end Session

end Interpose
