/-
Module: Interpose.Proofs.ThunkRuns
Purpose: What a compiled thunk does as a whole: receive the arguments, call, deliver the results.
Main exports: Universe.receiveAll, Frame.layOut, Frame.written, Universe.misfit?,
  Universe.writeBack_layOut, Thunk.invoke_assemble, Thunk.invoke_callVirtual
-/
import Mathlib.Data.List.Forall2
import Interpose.Call
import Interpose.Proofs.Programs

namespace Interpose

/-! ### Arguments on their way in -/

namespace Universe

/-- The value with which an argument enters a frame. -/
def receive (u : Universe) (method : Method) (parameter : Parameter) (argument : Value) :
    Except Fault Value :=
  if parameter.direction.isByRef then
    u.seed argument (parameterType method parameter) parameter.direction
  else u.narrow argument (parameterType method parameter)

/-- The values with which arguments enter a frame, or the fault of the first one
that does not fit. -/
def receiveAll (u : Universe) (method : Method) : List Parameter → List Value →
    Except Fault (List Value)
  | parameter :: parameters, argument :: arguments =>
      match u.receive method parameter argument with
      | .error fault => .error fault
      | .ok v =>
          match u.receiveAll method parameters arguments with
          | .error fault => .error fault
          | .ok values => .ok (v :: values)
  | _, _ => .ok []

/-- A value that was received is received again as it is.  An out argument that
became the default of its type stays the default, whether or not that fits. -/
theorem receive_received (u : Universe) {method : Method} {parameter : Parameter}
    {argument v : Value} (received : u.receive method parameter argument = .ok v) :
    u.receive method parameter v = .ok v := by
  have narrowed : ∀ type, u.narrow argument type = .ok v → u.narrow v type = .ok v := by
    intro type fits
    obtain ⟨held, rfl⟩ := (u.narrow_eq_ok_iff _ _ _).mp fits
    exact fits
  unfold receive at received ⊢
  by_cases address : parameter.direction.isByRef = true
  · rw [if_pos address] at received ⊢
    unfold seed at received ⊢
    cases first : u.narrow argument (parameterType method parameter) with
    | ok value =>
        rw [first] at received
        obtain rfl : value = v := Except.ok.inj received
        rw [narrowed _ first]
    | error fault =>
        rw [first] at received
        simp only [] at received
        split at received
        · rename_i isOut
          obtain rfl := Except.ok.inj received
          cases again : u.narrow (parameterType method parameter).defaultValue
              (parameterType method parameter) with
          | ok value =>
              obtain ⟨_, rfl⟩ := (u.narrow_eq_ok_iff _ _ _).mp again
              rfl
          | error fault => simp [isOut]
        · cases received
  · rw [if_neg address] at received ⊢
    exact narrowed _ received

/-- Arguments that are received are received one by one. -/
theorem receiveAll_cons_ok (u : Universe) {method : Method} {parameter : Parameter}
    {parameters : List Parameter} {argument : Value} {arguments values : List Value}
    (received : u.receiveAll method (parameter :: parameters) (argument :: arguments) =
      .ok values) :
    ∃ v rest, u.receive method parameter argument = .ok v ∧
      u.receiveAll method parameters arguments = .ok rest ∧ values = v :: rest := by
  unfold receiveAll at received
  cases first : u.receive method parameter argument with
  | error fault =>
      rw [first] at received
      cases received
  | ok v =>
      cases others : u.receiveAll method parameters arguments with
      | error fault =>
          rw [first, others] at received
          cases received
      | ok rest =>
          rw [first, others] at received
          exact ⟨v, rest, rfl, rfl, (Except.ok.inj received).symm⟩

/-- As many values enter a frame as there are parameters. -/
theorem length_receiveAll (u : Universe) {method : Method} {parameters : List Parameter} :
    ∀ {arguments values : List Value}, arguments.length = parameters.length →
      u.receiveAll method parameters arguments = .ok values →
      values.length = parameters.length := by
  induction parameters with
  | nil =>
      intro arguments values _ received
      obtain rfl := Except.ok.inj received
      rfl
  | cons parameter parameters inductionHypothesis =>
      intro arguments values sameLength received
      cases arguments with
      | nil => cases sameLength
      | cons argument arguments =>
          obtain ⟨v, rest, _, others, rfl⟩ := u.receiveAll_cons_ok received
          simp [inductionHypothesis (Nat.succ.inj sameLength) others]

/-- Values that were received are received again as they are: what has entered a frame fits. -/
theorem receiveAll_received (u : Universe) {method : Method} {parameters : List Parameter} :
    ∀ {arguments values : List Value}, arguments.length = parameters.length →
      u.receiveAll method parameters arguments = .ok values →
      u.receiveAll method parameters values = .ok values := by
  induction parameters with
  | nil =>
      intro arguments values _ received
      obtain rfl := Except.ok.inj received
      rfl
  | cons parameter parameters inductionHypothesis =>
      intro arguments values sameLength received
      cases arguments with
      | nil => cases sameLength
      | cons argument arguments =>
          obtain ⟨v, rest, first, others, rfl⟩ := u.receiveAll_cons_ok received
          have again := inductionHypothesis (Nat.succ.inj sameLength) others
          simp [receiveAll, u.receive_received first, again]

end Universe

/-! ### The frame of a call -/

namespace Frame

/-- How values are passed when `cells` cells have been declared before. -/
def passing : List Parameter → List Value → (cells : Nat) → List Argument
  | parameter :: parameters, v :: values, cells =>
      if parameter.direction.isByRef then .address cells :: passing parameters values (cells + 1)
      else .value v :: passing parameters values cells
  | _, _, _ => []

/-- The values of by-reference parameters. -/
def byRefs : List Parameter → List Value → List Value
  | parameter :: parameters, v :: values =>
      if parameter.direction.isByRef then v :: byRefs parameters values
      else byRefs parameters values
  | _, _ => []

/-- The frame in which a method is called with values for its parameters. -/
def layOut (parameters : List Parameter) (values : List Value) (generics : List RuntimeType) :
    Frame :=
  ⟨passing parameters values 0, byRefs parameters values, generics⟩

/-- Arguments with the cells of the by-reference parameters written over them. -/
def written : List Parameter → List Value → List Value → List Value
  | parameter :: parameters, argument :: arguments, cells =>
      if parameter.direction.isByRef then
        cells.headD argument :: written parameters arguments cells.tail
      else argument :: written parameters arguments cells
  | _, arguments, _ => arguments

/-- How many cells the by-reference parameters take. -/
def cellCount (parameters : List Parameter) : Nat := parameters.countP (·.direction.isByRef)

theorem cellCount_cons (parameter : Parameter) (parameters : List Parameter) :
    cellCount (parameter :: parameters) =
      cellCount parameters + if parameter.direction.isByRef then 1 else 0 :=
  List.countP_cons

/-- There is one cell for each by-reference parameter. -/
theorem length_byRefs {parameters : List Parameter} :
    ∀ {values : List Value}, values.length = parameters.length →
      (byRefs parameters values).length = cellCount parameters := by
  induction parameters with
  | nil => simp [byRefs, cellCount]
  | cons parameter parameters inductionHypothesis =>
      intro values sameLength
      cases values with
      | nil => cases sameLength
      | cons v values =>
          have others := inductionHypothesis (Nat.succ.inj sameLength)
          rw [cellCount_cons]
          by_cases address : parameter.direction.isByRef = true <;>
            simp [byRefs, address, others]

/-- Writing cells over arguments leaves as many arguments. -/
theorem length_written {parameters : List Parameter} :
    ∀ (arguments cells : List Value),
      (written parameters arguments cells).length = arguments.length := by
  induction parameters with
  | nil => simp [written]
  | cons parameter parameters inductionHypothesis =>
      intro arguments cells
      cases arguments with
      | nil => simp [written]
      | cons argument arguments =>
          unfold written
          split <;> simp [inductionHypothesis]

/-- What is written over arguments from the slots of by-reference parameters are
these slots; every other argument stays. -/
theorem getElem?_written_byRefs {parameters : List Parameter} :
    ∀ {arguments slots : List Value} {index : Nat} {parameter : Parameter},
      arguments.length = parameters.length → slots.length = parameters.length →
      parameters[index]? = some parameter →
      (written parameters arguments (byRefs parameters slots))[index]? =
        if parameter.direction.isByRef then slots[index]? else arguments[index]? := by
  induction parameters with
  | nil => simp
  | cons head parameters inductionHypothesis =>
      intro arguments slots index parameter sameLength sameSlots found
      cases arguments with
      | nil => cases sameLength
      | cons argument arguments =>
          cases slots with
          | nil => cases sameSlots
          | cons slot slots =>
              cases index with
              | zero =>
                  obtain rfl : head = parameter := by simpa using found
                  unfold written byRefs
                  split <;> simp
              | succ index =>
                  have others := inductionHypothesis (Nat.succ.inj sameLength)
                    (Nat.succ.inj sameSlots) (by simpa using found)
                  unfold written byRefs
                  split <;> simpa using others

/-- Cells that were written over some arguments and are read off again are the
same when they are written over others. -/
theorem written_byRefs_written {parameters : List Parameter} :
    ∀ {arguments others cells : List Value}, arguments.length = parameters.length →
      others.length = parameters.length → cellCount parameters ≤ cells.length →
      written parameters arguments (byRefs parameters (written parameters others cells)) =
        written parameters arguments cells := by
  induction parameters with
  | nil => simp [written]
  | cons parameter parameters inductionHypothesis =>
      intro arguments others cells sameLength otherLength enough
      cases arguments with
      | nil => cases sameLength
      | cons argument arguments =>
          cases others with
          | nil => cases otherLength
          | cons other others =>
              rw [cellCount_cons] at enough
              by_cases address : parameter.direction.isByRef = true
              · cases cells with
                | nil => simp [address] at enough
                | cons cell cells =>
                    have fewer : cellCount parameters ≤ cells.length := by
                      simpa [address] using enough
                    have further := inductionHypothesis (Nat.succ.inj sameLength)
                      (Nat.succ.inj otherLength) fewer
                    simp [written, byRefs, address, further]
              · have further := inductionHypothesis (Nat.succ.inj sameLength)
                  (Nat.succ.inj otherLength) (by simpa [address] using enough)
                simp [written, byRefs, address, further]

/-! ### Reading a frame that was laid out -/

/-- Each argument of a frame that is laid out reads the value that it was laid out with, by value or
through its cell. -/
private theorem argument_passing {parameters : List Parameter} {v : Value}
    (generics : List RuntimeType) :
    ∀ (values before : List Value) (arguments : List Argument) (index : Nat),
      values.length = parameters.length → values[index]? = some v →
      argument ⟨arguments ++ passing parameters values before.length,
        before ++ byRefs parameters values, generics⟩ (arguments.length + index) = .ok v := by
  induction parameters with
  | nil =>
      intro values before arguments index sameLength found
      simp [List.eq_nil_of_length_eq_zero sameLength] at found
  | cons parameter parameters inductionHypothesis =>
      intro values before arguments index sameLength found
      cases values with
      | nil => cases sameLength
      | cons head values =>
          cases index with
          | zero =>
              obtain rfl : head = v := by simpa using found
              unfold passing byRefs
              split <;> simp [argument, cell]
          | succ index =>
              have later : values[index]? = some v := by simpa using found
              unfold passing byRefs
              split
              · have others := inductionHypothesis values (before ++ [head])
                  (arguments ++ [.address before.length]) index (Nat.succ.inj sameLength) later
                simpa [Nat.add_assoc, Nat.add_comm 1] using others
              · have others := inductionHypothesis values before
                  (arguments ++ [.value head]) index (Nat.succ.inj sameLength) later
                simpa [Nat.add_assoc, Nat.add_comm 1] using others

private theorem mapM_eq_ok {α β : Type} {f : α → Except Fault β} {g : α → β} {items : List α}
    (each : ∀ item ∈ items, f item = .ok (g item)) : items.mapM f = .ok (items.map g) := by
  induction items with
  | nil => rfl
  | cons item rest inductionHypothesis =>
      have first := each item List.mem_cons_self
      have others := inductionHypothesis fun later member =>
        each later (List.mem_cons_of_mem item member)
      rw [List.mapM_cons, first, others]
      rfl

/-- Where a list is mapped without a fault, each value is that of its item. -/
theorem forall₂_of_mapM_ok {α β : Type} {f : α → Except Fault β} {items : List α} :
    ∀ {values : List β}, items.mapM f = .ok values →
      List.Forall₂ (fun item v => f item = .ok v) items values := by
  induction items with
  | nil =>
      intro values read
      obtain rfl := Except.ok.inj read
      exact .nil
  | cons item rest inductionHypothesis =>
      intro values read
      rw [List.mapM_cons] at read
      cases first : f item with
      | error fault =>
          rw [first] at read
          cases read
      | ok value =>
          cases others : rest.mapM f with
          | error fault =>
              rw [first, others] at read
              cases read
          | ok found =>
              rw [first, others] at read
              obtain rfl := Except.ok.inj read
              exact .cons first (inductionHypothesis others)

theorem length_readArguments {frame : Frame} {count : Nat} {values : List Value}
    (read : frame.readArguments count = .ok values) : values.length = count := by
  have sameLength := (forall₂_of_mapM_ok read).length_eq
  simpa using sameLength.symm

/-- Where all arguments can be read, every address among them names a cell. -/
theorem lt_of_readArguments {frame : Frame} {count : Nat} {values : List Value}
    (read : frame.readArguments count = .ok values) {index cell : Nat} (bound : index < count)
    (address : frame.arguments[index]? = some (.address cell)) : cell < frame.cells.length := by
  have current := (forall₂_of_mapM_ok read).get (by simpa using bound)
    (by simpa [length_readArguments read] using bound)
  simp only [List.get_eq_getElem, List.getElem_range, argument, address, Frame.cell] at current
  cases held : frame.cells[cell]? with
  | none =>
      rw [held] at current
      cases current
  | some contents => exact (List.getElem?_eq_some_iff.mp held).1

/-- A frame that was laid out reads as the values that it was made for. -/
theorem readArguments_layOut {parameters : List Parameter} {values : List Value}
    (generics : List RuntimeType) (sameLength : values.length = parameters.length) :
    (layOut parameters values generics).readArguments parameters.length = .ok values := by
  have each : ∀ index ∈ List.range parameters.length,
      (layOut parameters values generics).argument index = .ok (values.getD index .void) := by
    intro index member
    have bound : index < values.length := sameLength ▸ List.mem_range.mp member
    have found : values[index]? = some (values.getD index .void) := by
      simp [bound]
    have read := argument_passing generics values [] [] index sameLength found
    simp only [List.length_nil, Nat.zero_add] at read
    exact read
  have all : (List.range parameters.length).map (fun index => values.getD index .void) =
      values := by
    apply List.ext_getElem
    · simp [sameLength]
    · intro index one other
      simp [other]
  exact (mapM_eq_ok each).trans (congrArg Except.ok all)

end Frame

/-! ### Results on their way out -/

namespace Universe

/-- The fault of the first by-reference slot that does not fit its parameter. -/
def misfit? (u : Universe) (method : Method) : List Parameter → List Value → Option Fault
  | parameter :: parameters, slot :: slots =>
      if parameter.direction.isByRef then
        match u.narrow slot (parameterType method parameter) with
        | .error fault => some fault
        | .ok _ => u.misfit? method parameters slots
      else u.misfit? method parameters slots
  | _, _ => none

/-- Without a misfit every by-reference slot fits. -/
theorem fits_of_misfit? (u : Universe) {method : Method} {parameters : List Parameter} :
    ∀ {slots : List Value} {index : Nat} {parameter : Parameter} {slot : Value},
      u.misfit? method parameters slots = none → parameters[index]? = some parameter →
      slots[index]? = some slot → parameter.direction.isByRef = true →
      u.fits slot (parameterType method parameter) = true := by
  induction parameters with
  | nil => simp
  | cons head parameters inductionHypothesis =>
      intro slots index parameter slot fitting found held address
      cases slots with
      | nil => simp at held
      | cons first slots =>
          unfold misfit? at fitting
          cases index with
          | zero =>
              obtain rfl : head = parameter := by simpa using found
              obtain rfl : first = slot := by simpa using held
              rw [if_pos address] at fitting
              cases narrowed : u.narrow first (parameterType method head) with
              | error fault =>
                  rw [narrowed] at fitting
                  cases fitting
              | ok v => exact ((u.narrow_eq_ok_iff _ _ _).mp narrowed).1
          | succ index =>
              have further : u.misfit? method parameters slots = none := by
                split at fitting
                · split at fitting
                  · cases fitting
                  · exact fitting
                · exact fitting
              exact inductionHypothesis further (by simpa using found) (by simpa using held) address

/-- Writing slots back into a frame that was laid out fails with the first
misfit, or else replaces the cells by the slots.  What was passed and declared
before the parameters still to come is kept apart in `arguments` and `cells`. -/
theorem writeBack_passing (u : Universe) (method : Method) (generics : List RuntimeType)
    {parameters : List Parameter} :
    ∀ (values slots before cells : List Value) (arguments : List Argument),
      values.length = parameters.length → slots.length = parameters.length →
      before.length = arguments.length →
      let frame : List Value → Frame := fun left =>
        ⟨arguments ++ Frame.passing parameters values cells.length, cells ++ left, generics⟩
      let outcome := u.writeBack method (before ++ slots) parameters arguments.length
        (frame (Frame.byRefs parameters values))
      (∀ fault, u.misfit? method parameters slots = some fault → outcome.1 = .error fault) ∧
        (u.misfit? method parameters slots = none →
          outcome = (.ok (), frame (Frame.byRefs parameters slots))) := by
  induction parameters with
  | nil =>
      intro values slots before cells arguments _ _ _
      constructor
      · intro fault misfit
        cases misfit
      · intro _
        rfl
  | cons parameter parameters inductionHypothesis =>
      intro values slots before cells arguments sameLength sameSlots sameBefore
      cases values with
      | nil => cases sameLength
      | cons v values =>
          cases slots with
          | nil => cases sameSlots
          | cons slot slots =>
              -- The slot that belongs to this parameter, which comes after those that were copied.
              have current : (before ++ slot :: slots).getD arguments.length .void = slot := by
                simp [← sameBefore]
              by_cases address : parameter.direction.isByRef = true
              · have others := inductionHypothesis values slots (before ++ [slot])
                  (cells ++ [slot]) (arguments ++ [.address cells.length])
                  (Nat.succ.inj sameLength) (Nat.succ.inj sameSlots) (by simp [sameBefore])
                cases narrowed : u.narrow slot (parameterType method parameter) with
                | error fault =>
                    simp [writeBack, misfit?, Frame.passing, Frame.byRefs, Frame.isByRef, address,
                      narrowed, sameBefore]
                | ok fitting =>
                    obtain ⟨_, rfl⟩ := (u.narrow_eq_ok_iff _ _ _).mp narrowed
                    simpa [writeBack, misfit?, Frame.passing, Frame.byRefs, Frame.isByRef,
                      Frame.store, address, narrowed, sameBefore] using others
              · have others := inductionHypothesis values slots (before ++ [slot]) cells
                  (arguments ++ [.value v])
                  (Nat.succ.inj sameLength) (Nat.succ.inj sameSlots) (by simp [sameBefore])
                simpa [writeBack, misfit?, Frame.passing, Frame.byRefs, address] using others

/-- Writing slots back into a frame that is laid out fails at the first misfit, and else leaves the
frame laid out with the slots. -/
theorem writeBack_layOut (u : Universe) (method : Method) {parameters : List Parameter}
    {values slots : List Value} (generics : List RuntimeType)
    (sameLength : values.length = parameters.length)
    (sameSlots : slots.length = parameters.length) :
    let outcome := u.writeBack method slots parameters 0
      (Frame.layOut parameters values generics)
    (∀ fault, u.misfit? method parameters slots = some fault → outcome.1 = .error fault) ∧
      (u.misfit? method parameters slots = none → outcome.1 = .ok () ∧
        outcome.2.cells = Frame.byRefs parameters slots) := by
  have whole := u.writeBack_passing method generics values slots [] [] [] sameLength sameSlots rfl
  simp only [List.nil_append, List.length_nil] at whole
  refine ⟨whole.1, ?_⟩
  intro fitting
  have outcome := whole.2 fitting
  constructor
  · exact congrArg Prod.fst outcome
  · exact congrArg (fun result => result.2.cells) outcome

/-- A compiled thunk is the one that is assembled for its method. -/
theorem eq_assemble_of_compile (u : Universe) {method : Method} {thunk : Thunk}
    (compiled : u.compile method = .ok thunk) : thunk = Thunk.assemble u method := by
  unfold compile at compiled
  split at compiled
  · cases compiled
  · split at compiled
    · cases compiled
    · exact (Except.ok.inj compiled).symm

end Universe

/-! ### Runs of a thunk -/

namespace Thunk

variable {u : Universe} {call : VirtualCall} {on : ObjectRef} {method : Method}

/-- Whatever a thunk does, it hands back as many arguments as it got. -/
theorem length_execute {ops : List ThunkOp} :
    ∀ {arguments : List Value} {frame : Frame} {result : Value} {w after : World}
      {outcome : CallResult},
      execute u call on method ops arguments frame result w = some (outcome, after) →
      outcome.arguments.length = arguments.length := by
  induction ops with
  | nil =>
      intro arguments frame result w after outcome ran
      obtain ⟨rfl, _⟩ := Prod.mk.inj (Option.some.inj ran)
      rfl
  | cons op rest inductionHypothesis =>
      intro arguments frame result w after outcome ran
      cases op with
      | cast type =>
          simp only [execute] at ran
          split at ran
          · exact inductionHypothesis ran
          · obtain ⟨rfl, _⟩ := Prod.mk.inj (Option.some.inj ran)
            rfl
      | load index type =>
          simp only [execute] at ran
          split at ran
          · obtain ⟨rfl, _⟩ := Prod.mk.inj (Option.some.inj ran)
            rfl
          · exact inductionHypothesis ran
      | loadAddress index type cell direction =>
          simp only [execute] at ran
          split at ran
          · obtain ⟨rfl, _⟩ := Prod.mk.inj (Option.some.inj ran)
            rfl
          · exact inductionHypothesis ran
      | callVirtual =>
          simp only [execute] at ran
          split at ran
          · cases ran
          · obtain ⟨rfl, _⟩ := Prod.mk.inj (Option.some.inj ran)
            rfl
          · exact inductionHypothesis ran
      | storeBack index cell =>
          simp only [execute] at ran
          split at ran
          · obtain ⟨rfl, _⟩ := Prod.mk.inj (Option.some.inj ran)
            rfl
          · have sameLength := inductionHypothesis ran
            rw [List.length_set] at sameLength
            exact sameLength
      | returnValue type =>
          obtain ⟨rfl, _⟩ := Prod.mk.inj (Option.some.inj ran)
          rfl
      | returnVoid =>
          obtain ⟨rfl, _⟩ := Prod.mk.inj (Option.some.inj ran)
          rfl

/-- A thunk hands back as many arguments as it was given. -/
theorem length_invoke {thunk : Thunk} {arguments : List Value} {w after : World}
    {outcome : CallResult} (ran : thunk.invoke u call on arguments w = some (outcome, after)) :
    outcome.arguments.length = arguments.length := by
  unfold invoke at ran
  split at ran
  · exact length_execute ran
  · obtain ⟨rfl, _⟩ := Prod.mk.inj (Option.some.inj ran)
    rfl

/-- The loads of a thunk receive the arguments that are still to come and lay them
out after what the frame holds already. -/
private theorem execute_loads {rest : List ThunkOp} {result : Value} {w : World}
    {parameters : List Parameter} :
    ∀ (current before : List Value) (frame : Frame) (cells : Nat),
      current.length = parameters.length →
      execute u call on method (loads method.generics parameters before.length cells ++ rest)
          (before ++ current) frame result w =
        match u.receiveAll method parameters current with
        | .error fault => some (⟨.error fault, before ++ current⟩, w)
        | .ok values =>
            execute u call on method rest (before ++ current)
              ⟨frame.arguments ++ Frame.passing parameters values frame.cells.length,
                frame.cells ++ Frame.byRefs parameters values, frame.generics⟩ result w := by
  induction parameters with
  | nil =>
      intro current before frame cells sameLength
      obtain rfl := List.eq_nil_of_length_eq_zero sameLength
      simp [loads, Universe.receiveAll, Frame.passing, Frame.byRefs]
  | cons parameter parameters inductionHypothesis =>
      intro current before frame cells sameLength
      cases current with
      | nil => cases sameLength
      | cons argument arguments =>
          have here : (before ++ argument :: arguments).getD before.length .void = argument := by
            simp
          have regroup : before ++ argument :: arguments = (before ++ [argument]) ++ arguments := by
            simp
          have shorter := Nat.succ.inj sameLength
          by_cases address : parameter.direction.isByRef = true
          · have received : u.receive method parameter argument =
                u.seed argument (parameter.type.concrete method.generics) parameter.direction := by
              rw [Universe.receive, if_pos address]
              rfl
            cases seeded : u.seed argument (parameter.type.concrete method.generics)
                parameter.direction with
            | error fault =>
                simp [loads, execute, Universe.receiveAll, address, received, seeded]
            | ok v =>
                have others := inductionHypothesis arguments (before ++ [argument])
                  ((frame.declare v).pushAddress frame.cells.length) (cells + 1) shorter
                rw [← regroup, List.length_append] at others
                simp only [loads, address, if_true, List.cons_append, execute, here, seeded,
                  Universe.receiveAll, received]
                apply others.trans
                cases u.receiveAll method parameters arguments with
                | error fault => rfl
                | ok values =>
                    simp [Frame.passing, Frame.byRefs, Frame.declare, Frame.pushAddress, address]
          · have received : u.receive method parameter argument =
                u.narrow argument (parameter.type.concrete method.generics) := by
              rw [Universe.receive, if_neg address]
              rfl
            cases narrowed : u.narrow argument (parameter.type.concrete method.generics) with
            | error fault =>
                simp [loads, execute, Universe.receiveAll, address, received, narrowed]
            | ok v =>
                have others := inductionHypothesis arguments (before ++ [argument])
                  (frame.push v) cells shorter
                rw [← regroup, List.length_append] at others
                simp only [loads, address, Bool.false_eq_true, if_false, List.cons_append,
                  execute, here, narrowed, Universe.receiveAll, received]
                apply others.trans
                cases u.receiveAll method parameters arguments with
                | error fault => rfl
                | ok values =>
                    simp [Frame.passing, Frame.byRefs, Frame.push, address]

/-- The loads of a thunk lay out the frame of the call, or fail with the first argument that is not
received. -/
private theorem execute_allLoads {rest : List ThunkOp} {result : Value} {w : World}
    {parameters : List Parameter} {arguments : List Value}
    (sameLength : arguments.length = parameters.length) :
    execute u call on method (loads method.generics parameters 0 0 ++ rest) arguments
        (.empty method.generics) result w =
      match u.receiveAll method parameters arguments with
      | .error fault => some (⟨.error fault, arguments⟩, w)
      | .ok values =>
          execute u call on method rest arguments (.layOut parameters values method.generics)
            result w :=
  execute_loads arguments [] (.empty method.generics) 0 sameLength

/-- The copies back write the cells over the arguments that are still to come. -/
private theorem execute_stores {rest : List ThunkOp} {result : Value} {w : World} {frame : Frame}
    {parameters : List Parameter} :
    ∀ (current before : List Value) (cells : Nat), current.length = parameters.length →
      cells + Frame.cellCount parameters ≤ frame.cells.length →
      execute u call on method (stores parameters before.length cells ++ rest)
          (before ++ current) frame result w =
        execute u call on method rest
          (before ++ Frame.written parameters current (frame.cells.drop cells)) frame result w := by
  induction parameters with
  | nil => simp [stores, Frame.written]
  | cons parameter parameters inductionHypothesis =>
      intro current before cells sameLength enough
      cases current with
      | nil => cases sameLength
      | cons argument arguments =>
          have shorter := Nat.succ.inj sameLength
          rw [Frame.cellCount_cons] at enough
          by_cases address : parameter.direction.isByRef = true
          · rw [if_pos address] at enough
            have bound : cells < frame.cells.length := by omega
            have others := inductionHypothesis arguments (before ++ [frame.cells[cells]])
              (cells + 1) shorter (by omega)
            rw [List.length_append, List.append_assoc, List.append_assoc] at others
            have stored : (before ++ argument :: arguments).set before.length frame.cells[cells] =
                before ++ frame.cells[cells] :: arguments := by
              simp
            simp only [stores, address, if_true, List.cons_append, execute, Frame.cell,
              List.getElem?_eq_getElem bound, stored]
            apply others.trans
            rw [List.drop_eq_getElem_cons bound]
            simp [Frame.written, address, bound]
          · rw [if_neg address] at enough
            have others := inductionHypothesis arguments (before ++ [argument]) cells shorter
              (by omega)
            rw [List.length_append, List.append_assoc, List.append_assoc] at others
            simp only [stores, address, Bool.false_eq_true, if_false]
            apply others.trans
            simp [Frame.written, address]

private theorem execute_allStores {rest : List ThunkOp} {result : Value} {w : World} {frame : Frame}
    {parameters : List Parameter} {arguments : List Value}
    (sameLength : arguments.length = parameters.length)
    (enough : Frame.cellCount parameters ≤ frame.cells.length) :
    execute u call on method (stores parameters 0 0 ++ rest) arguments frame result w =
      execute u call on method rest (Frame.written parameters arguments frame.cells)
        frame result w :=
  execute_stores arguments [] 0 sameLength (by simpa using enough)

/-- What is left to do once the method has returned: write the cells over the
arguments, and hand over the result if it fits. -/
def deliver (u : Universe) (method : Method) (arguments cells : List Value) (v : Value) :
    CallResult :=
  ⟨u.intercepted method v, Frame.written (u.parameters method) arguments cells⟩

/-- What a thunk makes of the outcome of its call. -/
def finish (u : Universe) (method : Method) (arguments : List Value) :
    Option (Except Fault Value × Frame × World) → Option (CallResult × World)
  | none => none
  | some (.error fault, _, w) => some (⟨.error fault, arguments⟩, w)
  | some (.ok v, left, w) => some (deliver u method arguments left.cells v, w)

/-- A call through the thunk of a method. -/
theorem invoke_assemble {arguments : List Value} {w : World}
    (keeps : ∀ frame result left after, call on method frame w = some (result, left, after) →
      frame.cells.length ≤ left.cells.length) :
    (assemble u method).invoke u call on arguments w =
      if arguments.length = (u.parameters method).length then
        if u.isAssignable on.type method.parent then
          match u.receiveAll method (u.parameters method) arguments with
          | .error fault => some (⟨.error fault, arguments⟩, w)
          | .ok values =>
              finish u method arguments
                (call on method (.layOut (u.parameters method) values method.generics) w)
        else some (⟨.error (.typeMismatch (.runtime (.named method.parent))
          (.runtime (.named on.type))), arguments⟩, w)
      else some (⟨.error (.argumentCount (u.parameters method).length arguments.length),
        arguments⟩, w) := by
  unfold invoke
  by_cases sameLength : arguments.length = (u.parameters method).length
  · rw [if_pos sameLength]
    apply (if_pos sameLength).trans
    by_cases assignable : u.isAssignable on.type method.parent = true
    · rw [if_pos assignable]
      have cast : execute u call on method (assemble u method).ops arguments
          (.empty method.generics) .void w =
          execute u call on method
            (loads method.generics (u.parameters method) 0 0 ++
              .callVirtual :: (stores (u.parameters method) 0 0 ++
                [returnOp (u.returnType method)]))
            arguments (.empty method.generics) .void w := by
        simp [assemble, execute, assignable]
      -- The thunk is a cast, the loads, the call, the copies back and the return, in this order.
      refine cast.trans ((execute_allLoads sameLength).trans ?_)
      cases received : u.receiveAll method (u.parameters method) arguments with
      | error fault => rfl
      | ok values =>
          simp only [execute]
          cases called : call on method
              (.layOut (u.parameters method) values method.generics) w with
          | none => rfl
          | some outcome =>
              obtain ⟨result, left, after⟩ := outcome
              cases result with
              | error fault => rfl
              | ok v =>
                  -- The copies back read cells that the callee has left: there are still as many as
                  -- were declared.
                  have enough : Frame.cellCount (u.parameters method) ≤ left.cells.length := by
                    have kept := keeps _ _ _ _ called
                    have declared := Frame.length_byRefs (u.length_receiveAll sameLength received)
                    exact Nat.le_trans (Nat.le_of_eq declared.symm) kept
                  apply (execute_allStores sameLength enough).trans
                  unfold returnOp finish deliver Universe.intercepted
                  cases (u.returnType method).isVoid <;> rfl
    · simp [assemble, execute, assignable]
  · rw [if_neg sameLength]
    exact if_neg sameLength

end Thunk

/-! ### Calls keep the cells of a frame -/

/-- A store writes a cell that is there. -/
private theorem Frame.length_cells_store {frame stored : Frame} {index : Nat} {v : Value}
    (succeeds : frame.store index v = .ok stored) : stored.cells.length = frame.cells.length := by
  unfold Frame.store at succeeds
  split at succeeds
  · cases succeeds
  · cases succeeds
  · split at succeeds
    · obtain rfl := Except.ok.inj succeeds
      simp
    · cases succeeds

namespace Universe

/-- Writing back declares no cell. -/
theorem length_cells_writeBack (u : Universe) (method : Method) (slots : List Value)
    (parameters : List Parameter) :
    ∀ (index : Nat) (frame : Frame),
      (u.writeBack method slots parameters index frame).2.cells.length = frame.cells.length := by
  induction parameters with
  | nil => exact fun _ _ => rfl
  | cons parameter parameters inductionHypothesis =>
      intro index frame
      unfold writeBack
      split
      · split
        · rfl
        · split
          · rfl
          · rename_i stored succeeds
            rw [inductionHypothesis, Frame.length_cells_store succeeds]
      · exact inductionHypothesis (index + 1) frame

/-- What ends an intercepted call declares no cell. -/
private theorem length_cells_conclude (u : Universe) (method : Method) (slots : List Value)
    (result : Value) (frame : Frame) :
    (u.conclude method slots result frame).2.cells.length = frame.cells.length := by
  have written := u.length_cells_writeBack method slots (u.parameters method) 0 frame
  unfold conclude
  split
  · rename_i outcome
    rw [outcome] at written
    exact written
  · rename_i outcome
    rw [outcome] at written
    exact written

/-- What a method body does to its frame never takes a cell away. -/
private theorem length_cells_serveBody (u : Universe) (call : VirtualCall) {request : BodyRequest}
    {state after : Frame × World} {reply : request.Reply}
    (served : u.serveBody call request state = some (reply, after)) :
    state.1.cells.length ≤ after.1.cells.length := by
  obtain ⟨frame, w⟩ := state
  cases request with
  | world request =>
      simp only [serveBody] at served
      split at served
      · cases served
      · obtain ⟨_, rfl⟩ := Prod.mk.inj (Option.some.inj served)
        exact Nat.le_refl _
  | store index v =>
      simp only [serveBody] at served
      split at served
      · obtain ⟨_, rfl⟩ := Prod.mk.inj (Option.some.inj served)
        exact Nat.le_refl _
      · rename_i stored succeeds
        obtain ⟨_, rfl⟩ := Prod.mk.inj (Option.some.inj served)
        exact Nat.le_of_eq (Frame.length_cells_store succeeds).symm
  | declare v =>
      obtain ⟨_, rfl⟩ := Prod.mk.inj (Option.some.inj served)
      simp [Frame.declare]
  | _ =>
      obtain ⟨_, rfl⟩ := Prod.mk.inj (Option.some.inj served)
      exact Nat.le_refl _

/-- A call leaves at least the cells that its frame had. -/
theorem length_cells_callVirtual (u : Universe) (depth : Nat) :
    ∀ {on : ObjectRef} {method : Method} {frame left : Frame} {w after : World}
      {result : Except Fault Value},
      u.callVirtual depth on method frame w = some (result, left, after) →
      frame.cells.length ≤ left.cells.length := by
  induction depth with
  | zero =>
      intro on method frame left w after result called
      cases called
  | succ depth inductionHypothesis =>
      intro on method frame left w after result called
      unfold callVirtual dispatch at called
      split at called
      · cases called
        exact Nat.le_refl _
      · rename_i body found
        cases body with
        | native run =>
            have kept : ∀ request (state : Frame × World) reply after,
                frame.cells.length ≤ state.1.cells.length →
                u.serveBody (u.callVirtual depth) request state = some (reply, after) →
                frame.cells.length ≤ after.1.cells.length :=
              fun request state reply after held served =>
                Nat.le_trans held (u.length_cells_serveBody _ served)
            simp only [runBody] at called
            exact Program.kept_of_run kept called (Nat.le_refl _)
        | intercepted slot dispatch factory =>
            simp only [runBody, runIntercepted] at called
            split at called
            · cases called
              exact Nat.le_refl _
            · split at called
              · cases called
              · cases called
                exact Nat.le_refl _
              · cases called
                exact Nat.le_of_eq (u.length_cells_conclude _ _ _ frame).symm
        | passThrough slot factory =>
            simp only [runBody, forward] at called
            split at called
            · cases called
              exact Nat.le_refl _
            · split at called
              · cases called
                exact Nat.le_refl _
              · exact inductionHypothesis called
        | accessor which =>
            simp only [runBody] at called
            cases called
            exact Nat.le_refl _

end Universe

/-- A call through the thunk of a method, with the body that the receiver provides. -/
theorem Thunk.invoke_callVirtual (u : Universe) (depth : Nat) (on : ObjectRef) (method : Method)
    (arguments : List Value) (w : World) :
    (assemble u method).invoke u (u.callVirtual depth) on arguments w =
      if arguments.length = (u.parameters method).length then
        if u.isAssignable on.type method.parent then
          match u.receiveAll method (u.parameters method) arguments with
          | .error fault => some (⟨.error fault, arguments⟩, w)
          | .ok values =>
              finish u method arguments (u.callVirtual depth on method
                (.layOut (u.parameters method) values method.generics) w)
        else some (⟨.error (.typeMismatch (.runtime (.named method.parent))
          (.runtime (.named on.type))), arguments⟩, w)
      else some (⟨.error (.argumentCount (u.parameters method).length arguments.length),
        arguments⟩, w) :=
  invoke_assemble fun _ _ _ _ called => u.length_cells_callVirtual depth called

/-- A call that ends leaves its arguments as they were, or has returned from the
method and delivers what that left. -/
theorem Thunk.failed_or_delivered (u : Universe) {depth : Nat} {on : ObjectRef} {method : Method}
    {arguments : List Value} {w after : World} {outcome : CallResult}
    (invoked : (assemble u method).invoke u (u.callVirtual depth) on arguments w =
      some (outcome, after)) :
    (∃ fault, outcome = ⟨.error fault, arguments⟩) ∨
      ∃ values v left, arguments.length = (u.parameters method).length ∧
        values.length = (u.parameters method).length ∧
        u.callVirtual depth on method
            (.layOut (u.parameters method) values method.generics) w =
          some (.ok v, left, after) ∧
        outcome = deliver u method arguments left.cells v := by
  rw [invoke_callVirtual] at invoked
  split at invoked
  · rename_i sameLength
    split at invoked
    · split at invoked
      · rename_i fault _
        cases invoked
        exact .inl ⟨fault, rfl⟩
      · rename_i values received
        unfold finish at invoked
        split at invoked
        · cases invoked
        · rename_i fault _ _ _
          cases invoked
          exact .inl ⟨fault, rfl⟩
        · rename_i v left last called
          cases invoked
          exact .inr ⟨values, v, left, sameLength, u.length_receiveAll sameLength received,
            called, rfl⟩
    · cases invoked
      exact .inl ⟨_, rfl⟩
  · cases invoked
    exact .inl ⟨_, rfl⟩

end Interpose
