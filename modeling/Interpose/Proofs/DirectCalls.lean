/-
Module: Interpose.Proofs.DirectCalls
Purpose: What a call of a method means, told from its parameter list alone, and that the
  thunk of the method does just that.
Main exports: Universe.accept, Universe.admission, Universe.entry, Universe.directCall,
  Frame.Holds, Universe.thunk_refines_direct_call
-/
import Interpose.Proofs.ThunkRuns

namespace Interpose

/-! ### The meaning of a call -/

namespace Frame

/-- One more argument of a frame: a value, or the address of a new cell that holds
the value. -/
def enter (frame : Frame) (passed : Parameter × Value) : Frame :=
  if passed.1.direction.isByRef then (frame.declare passed.2).pushAddress frame.cells.length
  else frame.push passed.2

/-- An argument after a call: what its cell holds in the end if it was passed as an
address, else what it was before. -/
def settled (left : Frame) (argument : Value) : Argument → Value
  | .value _ => argument
  | .address cell => left.cells.getD cell argument

/-- All arguments after a call that was entered with one frame and left with another. -/
def settle (entered left : Frame) (arguments : List Value) : List Value :=
  arguments.zipWith left.settled entered.arguments

end Frame

namespace Universe

/-- The value with which an argument is accepted for a parameter: it must fit the
type of the parameter with the type arguments put in.  An out parameter takes the
default of that type in place of what does not fit. -/
def accept (u : Universe) (method : Method) (parameter : Parameter) (argument : Value) :
    Except Fault Value :=
  match u.narrow argument (parameterType method parameter) with
  | .ok v => .ok v
  | .error fault =>
      if parameter.direction = .out then .ok (parameterType method parameter).defaultValue
      else .error fault

/-- The values with which a call is admitted: the number of arguments is right, the
receiver is of the declaring type, and the arguments are accepted from left to
right. -/
def admission (u : Universe) (method : Method) (on : ObjectRef) (arguments : List Value) :
    Except Fault (List Value) :=
  let parameters := u.parameters method
  if arguments.length ≠ parameters.length then
    .error (.argumentCount parameters.length arguments.length)
  else if u.isAssignable on.type method.parent = false then
    .error (.typeMismatch (.runtime (.named method.parent)) (.runtime (.named on.type)))
  else (parameters.zip arguments).mapM fun pair => u.accept method pair.1 pair.2

/-- The frame of a call that was admitted. -/
def entry (u : Universe) (method : Method) (values : List Value) : Frame :=
  ((u.parameters method).zip values).foldl Frame.enter (.empty method.generics)

/-- A call of a method on an object.  It is admitted or refused; then the body that
the type of the receiver resolves runs on the frame.  Without a body, and when the
body fails, the arguments stay as they are.  When it returns, the by-reference
arguments are settled, and the result is nothing or a value of the return type. -/
def directCall (u : Universe) (depth : Nat) (method : Method) (on : ObjectRef)
    (arguments : List Value) (w : World) : Option (CallResult × World) :=
  match u.admission method on arguments with
  | .error fault => some (⟨.error fault, arguments⟩, w)
  | .ok values =>
  match u.require on.type method with
  | .error fault => some (⟨.error fault, arguments⟩, w)
  | .ok body =>
  match u.runBody (u.callVirtual depth) on body (u.entry method values) w with
  | none => none
  | some (.error fault, _, after) => some (⟨.error fault, arguments⟩, after)
  | some (.ok v, left, after) =>
      let result := if (u.returnType method).isVoid then .ok .void
        else u.narrow v (u.returnType method)
      some (⟨result, (u.entry method values).settle left arguments⟩, after)

end Universe

/-! ### What a frame of a call holds -/

/-- A frame holds values for parameters: a value for an input, and for every other
parameter the address of a cell of its own, which holds the value. -/
structure Frame.Holds (parameters : List Parameter) (values : List Value)
    (generics : List RuntimeType) (frame : Frame) : Prop where
  generics : frame.generics = generics
  count : frame.arguments.length = parameters.length
  value : ∀ (index : Nat) (parameter : Parameter) (v : Value),
    parameters[index]? = some parameter → values[index]? = some v →
    parameter.direction.isByRef = false → frame.arguments[index]? = some (.value v)
  address : ∀ (index : Nat) (parameter : Parameter) (v : Value),
    parameters[index]? = some parameter → values[index]? = some v →
    parameter.direction.isByRef = true →
    ∃ cell, frame.arguments[index]? = some (.address cell) ∧ frame.cells[cell]? = some v
  inside : ∀ (index cell : Nat), frame.arguments[index]? = some (.address cell) →
    cell < frame.cells.length
  distinct : ∀ (one other cell : Nat), frame.arguments[one]? = some (.address cell) →
    frame.arguments[other]? = some (.address cell) → one = other

namespace Frame

private theorem holds_empty (generics : List RuntimeType) : Holds [] [] generics
    (empty generics) where
  generics := rfl
  count := rfl
  value := by simp
  address := by simp
  inside := by simp [empty]
  distinct := by simp [empty]

/-- An item of a list with one more at its end is an earlier one, or the last. -/
private theorem getElem?_snoc {α : Type} {items : List α} {last item : α} {index : Nat}
    (found : (items ++ [last])[index]? = some item) :
    (index < items.length ∧ items[index]? = some item) ∨
      (index = items.length ∧ item = last) := by
  rcases Nat.lt_trichotomy index items.length with earlier | rfl | later
  · rw [List.getElem?_append_left earlier] at found
    exact .inl ⟨earlier, found⟩
  · rw [List.getElem?_concat_length] at found
    exact .inr ⟨rfl, (Option.some.inj found).symm⟩
  · have outside : (items ++ [last]).length ≤ index := by
      rw [List.length_append]
      exact later
    rw [List.getElem?_eq_none outside] at found
    cases found

section Entering

variable {parameters : List Parameter} {values : List Value} {generics : List RuntimeType}
  {frame : Frame} (holds : frame.Holds parameters values generics)
  (sameLength : values.length = parameters.length) {parameter : Parameter}

include holds sameLength

/-- A position after one more parameter is one of those before, or the new one. -/
private theorem Holds.earlier_or_last {v held : Value} {other : Parameter} {index : Nat}
    (found : (parameters ++ [parameter])[index]? = some other)
    (foundValue : (values ++ [v])[index]? = some held) :
    (parameters[index]? = some other ∧ values[index]? = some held ∧
        index < frame.arguments.length) ∨
      (index = frame.arguments.length ∧ other = parameter ∧ held = v) := by
  rcases getElem?_snoc found with ⟨earlier, before⟩ | ⟨last, rfl⟩
  · rcases getElem?_snoc foundValue with ⟨_, beforeValue⟩ | ⟨last, _⟩
    · exact .inl ⟨before, beforeValue, holds.count ▸ earlier⟩
    · omega
  · rcases getElem?_snoc foundValue with ⟨earlier, _⟩ | ⟨_, rfl⟩
    · omega
    · exact .inr ⟨last.trans holds.count.symm, rfl, rfl⟩

/-- An input is passed as a value. -/
theorem Holds.push (input : parameter.direction.isByRef = false) (v : Value) :
    Holds (parameters ++ [parameter]) (values ++ [v]) generics (frame.push v) := by
  unfold Frame.push
  constructor
  case generics => exact holds.generics
  case count => simp [holds.count]
  case value =>
    intro index other held found foundValue isInput
    rcases holds.earlier_or_last sameLength found foundValue with
      ⟨before, beforeValue, earlier⟩ | ⟨rfl, _, rfl⟩
    · rw [List.getElem?_append_left earlier]
      exact holds.value index other held before beforeValue isInput
    · exact List.getElem?_concat_length
  case address =>
    intro index other held found foundValue byRef
    rcases holds.earlier_or_last sameLength found foundValue with
      ⟨before, beforeValue, earlier⟩ | ⟨_, rfl, _⟩
    · rw [List.getElem?_append_left earlier]
      exact holds.address index other held before beforeValue byRef
    · rw [input] at byRef
      cases byRef
  case inside =>
    intro index cell passed
    rcases getElem?_snoc passed with ⟨_, before⟩ | ⟨_, last⟩
    · exact holds.inside index cell before
    · cases last
  case distinct =>
    intro one other cell passed passedOther
    rcases getElem?_snoc passed with ⟨_, before⟩ | ⟨_, impossible⟩
    · rcases getElem?_snoc passedOther with ⟨_, beforeOther⟩ | ⟨_, impossible⟩
      · exact holds.distinct one other cell before beforeOther
      · cases impossible
    · cases impossible

/-- Any other parameter is passed as the address of a cell that no argument named. -/
theorem Holds.pushAddress (address : parameter.direction.isByRef = true) (v : Value) :
    Holds (parameters ++ [parameter]) (values ++ [v]) generics
      ((frame.declare v).pushAddress frame.cells.length) := by
  unfold Frame.pushAddress Frame.declare
  constructor
  case generics => exact holds.generics
  case count => simp [holds.count]
  case value =>
    intro index other held found foundValue input
    rcases holds.earlier_or_last sameLength found foundValue with
      ⟨before, beforeValue, earlier⟩ | ⟨_, rfl, _⟩
    · rw [List.getElem?_append_left earlier]
      exact holds.value index other held before beforeValue input
    · rw [address] at input
      cases input
  case address =>
    intro index other held found foundValue byRef
    rcases holds.earlier_or_last sameLength found foundValue with
      ⟨before, beforeValue, earlier⟩ | ⟨rfl, _, rfl⟩
    · obtain ⟨cell, passed, stored⟩ := holds.address index other held before beforeValue byRef
      refine ⟨cell, ?_, ?_⟩
      · rw [List.getElem?_append_left earlier, passed]
      · rw [List.getElem?_append_left (holds.inside index cell passed), stored]
    · exact ⟨frame.cells.length, List.getElem?_concat_length, List.getElem?_concat_length⟩
  case inside =>
    intro index cell passed
    rw [List.length_append, List.length_singleton]
    rcases getElem?_snoc passed with ⟨_, before⟩ | ⟨_, last⟩
    · exact Nat.lt_succ_of_lt (holds.inside index cell before)
    · obtain rfl := Argument.address.inj last
      exact Nat.lt_succ_self _
  case distinct =>
    intro one other cell passed passedOther
    rcases getElem?_snoc passed with ⟨_, before⟩ | ⟨last, same⟩
    · rcases getElem?_snoc passedOther with ⟨_, beforeOther⟩ | ⟨_, same⟩
      · exact holds.distinct one other cell before beforeOther
      · obtain rfl := Argument.address.inj same
        exact absurd (holds.inside one _ before) (Nat.lt_irrefl _)
    · rcases getElem?_snoc passedOther with ⟨_, beforeOther⟩ | ⟨lastOther, _⟩
      · obtain rfl := Argument.address.inj same
        exact absurd (holds.inside other _ beforeOther) (Nat.lt_irrefl _)
      · exact last.trans lastOther.symm

/-- One more argument keeps what a frame holds and adds its value. -/
theorem Holds.enter (parameter : Parameter) (v : Value) :
    Holds (parameters ++ [parameter]) (values ++ [v]) generics (frame.enter (parameter, v)) := by
  by_cases address : parameter.direction.isByRef = true
  · rw [Frame.enter, if_pos address]
    exact holds.pushAddress sameLength address v
  · rw [Frame.enter, if_neg address]
    exact holds.push sameLength (Bool.eq_false_iff.mpr address) v

end Entering

/-- Entering parameters one after the other holds them all. -/
theorem Holds.foldl_enter {generics : List RuntimeType} {later : List Parameter} :
    ∀ {laterValues : List Value} {parameters : List Parameter} {values : List Value}
      {frame : Frame}, frame.Holds parameters values generics →
      values.length = parameters.length → laterValues.length = later.length →
      Holds (parameters ++ later) (values ++ laterValues) generics
        ((later.zip laterValues).foldl Frame.enter frame) := by
  induction later with
  | nil =>
      intro laterValues parameters values frame holds sameLength sameLater
      obtain rfl := List.eq_nil_of_length_eq_zero sameLater
      simpa using holds
  | cons parameter later inductionHypothesis =>
      intro laterValues parameters values frame holds sameLength sameLater
      cases laterValues with
      | nil => cases sameLater
      | cons v laterValues =>
          have entered := holds.enter sameLength parameter v
          have further := inductionHypothesis entered (by simp [sameLength])
            (Nat.succ.inj sameLater)
          simpa [List.append_assoc] using further

/-- Entering parameters passes and declares their values in order. -/
private theorem foldl_enter_eq {parameters : List Parameter} :
    ∀ (values : List Value) (frame : Frame), values.length = parameters.length →
      (parameters.zip values).foldl enter frame =
        ⟨frame.arguments ++ passing parameters values frame.cells.length,
          frame.cells ++ byRefs parameters values, frame.generics⟩ := by
  induction parameters with
  | nil => simp [passing, byRefs]
  | cons parameter parameters inductionHypothesis =>
      intro values frame sameLength
      cases values with
      | nil => cases sameLength
      | cons v values =>
          rw [List.zip_cons_cons, List.foldl_cons,
            inductionHypothesis values _ (Nat.succ.inj sameLength)]
          by_cases address : parameter.direction.isByRef = true
          · simp [enter, passing, byRefs, address, declare, pushAddress]
          · simp [enter, passing, byRefs, address, push]

/-- The arguments are settled from the cells that the by-reference parameters took. -/
private theorem zipWith_passing {parameters : List Parameter} (left : Frame) :
    ∀ (values arguments : List Value) (cells : Nat), values.length = parameters.length →
      arguments.length = parameters.length →
      arguments.zipWith left.settled (passing parameters values cells) =
        written parameters arguments (left.cells.drop cells) := by
  induction parameters with
  | nil =>
      intro values arguments cells _ sameArguments
      obtain rfl := List.eq_nil_of_length_eq_zero sameArguments
      rfl
  | cons parameter parameters inductionHypothesis =>
      intro values arguments cells sameLength sameArguments
      cases values with
      | nil => cases sameLength
      | cons v values =>
          cases arguments with
          | nil => cases sameArguments
          | cons argument arguments =>
              have others := fun cells => inductionHypothesis values arguments cells
                (Nat.succ.inj sameLength) (Nat.succ.inj sameArguments)
              by_cases address : parameter.direction.isByRef = true
              · have first : (left.cells.drop cells).headD argument =
                    left.cells.getD cells argument := by
                  simp [List.headD_eq_head?_getD, List.head?_drop]
                simp [passing, written, address, others, settled]
              · simp [passing, written, address, others, settled]

end Frame

namespace Universe

variable {u : Universe} {method : Method}

/-! ### The thunk of a method does what the call means -/

/-- Accepting does not depend on how the value is passed. -/
theorem accept_eq_receive (parameter : Parameter) (argument : Value) :
    u.accept method parameter argument = u.receive method parameter argument := by
  unfold accept receive seed
  cases direction : parameter.direction <;>
    cases u.narrow argument (parameterType method parameter) <;> simp [Direction.isByRef]

/-- Accepting all arguments comes to receiving them. -/
private theorem mapM_accept {parameters : List Parameter} :
    ∀ arguments : List Value,
      (parameters.zip arguments).mapM (fun pair => u.accept method pair.1 pair.2) =
        u.receiveAll method parameters arguments := by
  induction parameters with
  | nil =>
      intro arguments
      rfl
  | cons parameter parameters inductionHypothesis =>
      intro arguments
      cases arguments with
      | nil => rfl
      | cons argument arguments =>
          rw [List.zip_cons_cons, List.mapM_cons, inductionHypothesis, accept_eq_receive]
          simp only [receiveAll]
          cases u.receive method parameter argument with
          | error fault => rfl
          | ok v => cases u.receiveAll method parameters arguments <;> rfl

/-- The checks of a call in the order in which they are made. -/
theorem admission_eq (on : ObjectRef) (arguments : List Value) :
    u.admission method on arguments =
      if arguments.length = (u.parameters method).length then
        if u.isAssignable on.type method.parent = true then
          u.receiveAll method (u.parameters method) arguments
        else .error (.typeMismatch (.runtime (.named method.parent)) (.runtime (.named on.type)))
      else .error (.argumentCount (u.parameters method).length arguments.length) := by
  unfold admission
  simp only [mapM_accept]
  by_cases sameLength : arguments.length = (u.parameters method).length
  · by_cases assignable : u.isAssignable on.type method.parent = true <;>
      simp [sameLength, assignable]
  · simp [sameLength]

/-- What a call that is admitted has passed. -/
theorem admission_eq_ok_iff {on : ObjectRef} {arguments values : List Value} :
    u.admission method on arguments = .ok values ↔
      arguments.length = (u.parameters method).length ∧
        u.isAssignable on.type method.parent = true ∧
        u.receiveAll method (u.parameters method) arguments = .ok values := by
  rw [admission_eq]
  by_cases sameLength : arguments.length = (u.parameters method).length
  · by_cases assignable : u.isAssignable on.type method.parent = true <;>
      simp [sameLength, assignable]
  · simp [sameLength]

theorem length_of_admission {on : ObjectRef} {arguments values : List Value}
    (admitted : u.admission method on arguments = .ok values) :
    values.length = (u.parameters method).length := by
  obtain ⟨sameLength, _, received⟩ := admission_eq_ok_iff.mp admitted
  exact u.length_receiveAll sameLength received

theorem entry_eq_layOut {values : List Value}
    (sameLength : values.length = (u.parameters method).length) :
    u.entry method values = .layOut (u.parameters method) values method.generics := by
  apply (Frame.foldl_enter_eq values (.empty method.generics) sameLength).trans
  simp [Frame.empty, Frame.layOut]

/-- The frame of a call that was admitted holds its values. -/
theorem holds_entry {values : List Value}
    (sameLength : values.length = (u.parameters method).length) :
    (u.entry method values).Holds (u.parameters method) values method.generics :=
  (Frame.holds_empty method.generics).foldl_enter rfl sameLength

/-- Inputs are received as they are. -/
private theorem receiveAll_of_inputs {parameters : List Parameter}
    (inputs : ∀ parameter ∈ parameters, parameter.direction = .input) :
    ∀ {arguments values : List Value}, arguments.length = parameters.length →
      u.receiveAll method parameters arguments = .ok values → values = arguments := by
  induction parameters with
  | nil =>
      intro arguments values sameLength received
      obtain rfl := List.eq_nil_of_length_eq_zero sameLength
      exact (Except.ok.inj received).symm
  | cons parameter parameters inductionHypothesis =>
      intro arguments values sameLength received
      cases arguments with
      | nil => cases sameLength
      | cons argument arguments =>
          obtain ⟨v, rest, first, others, rfl⟩ := u.receiveAll_cons_ok received
          have input := inputs parameter List.mem_cons_self
          have laterInputs : ∀ later ∈ parameters, later.direction = .input :=
            fun later member => inputs later (List.mem_cons_of_mem _ member)
          simp only [receive, input, Direction.isByRef, Bool.false_eq_true, if_false] at first
          obtain ⟨_, rfl⟩ := (u.narrow_eq_ok_iff _ _ _).mp first
          rw [inductionHypothesis laterInputs (Nat.succ.inj sameLength) others]

/-- Inputs are passed as values and take no cells. -/
private theorem passing_of_inputs {parameters : List Parameter}
    (inputs : ∀ parameter ∈ parameters, parameter.direction = .input) :
    ∀ {values : List Value} (cells : Nat), values.length = parameters.length →
      Frame.passing parameters values cells = values.map .value ∧
        Frame.byRefs parameters values = [] := by
  induction parameters with
  | nil =>
      intro values cells sameLength
      obtain rfl := List.eq_nil_of_length_eq_zero sameLength
      exact ⟨rfl, rfl⟩
  | cons parameter parameters inductionHypothesis =>
      intro values cells sameLength
      cases values with
      | nil => cases sameLength
      | cons v values =>
          have input := inputs parameter List.mem_cons_self
          have others := inductionHypothesis
            (fun later member => inputs later (List.mem_cons_of_mem _ member)) cells
            (Nat.succ.inj sameLength)
          simp [Frame.passing, Frame.byRefs, input, Direction.isByRef, others]

/-- Without by-reference parameters a call that is admitted passes its arguments by
value, as they are: the frame is that of a virtual call on these values. -/
theorem entry_of_inputs {on : ObjectRef} {arguments values : List Value}
    (inputs : ∀ parameter ∈ u.parameters method, parameter.direction = .input)
    (admitted : u.admission method on arguments = .ok values) :
    values = arguments ∧
      u.entry method values = { Frame.ofValues arguments with generics := method.generics } := by
  obtain ⟨sameLength, _, received⟩ := admission_eq_ok_iff.mp admitted
  obtain rfl := receiveAll_of_inputs inputs sameLength received
  obtain ⟨passed, declared⟩ := passing_of_inputs inputs 0 sameLength
  refine ⟨rfl, ?_⟩
  rw [entry_eq_layOut sameLength, Frame.layOut, passed, declared]
  rfl

/-- A compiled thunk refines the direct call.  For every method that compiles, every
receiver and all arguments, running the steps of the thunk has the outcome and the
effect of the call as it is told from the parameters; and the frame that the body
gets holds the admitted values, every by-reference parameter in a cell of its own.
For a method with inputs only it is the frame of a virtual call on the arguments. -/
theorem thunk_refines_direct_call {thunk : Thunk} (compiled : u.compile method = .ok thunk)
    (on : ObjectRef) (arguments : List Value) :
    (∀ depth w, thunk.invoke u (u.callVirtual (depth + 1)) on arguments w =
      u.directCall depth method on arguments w) ∧
    ∀ values, u.admission method on arguments = .ok values →
      (u.entry method values).Holds (u.parameters method) values method.generics ∧
      ((∀ parameter ∈ u.parameters method, parameter.direction = .input) →
        u.entry method values =
          { Frame.ofValues arguments with generics := method.generics }) := by
  obtain rfl := u.eq_assemble_of_compile compiled
  constructor
  · intro depth w
    rw [Thunk.invoke_callVirtual]
    unfold directCall
    rw [admission_eq]
    by_cases sameLength : arguments.length = (u.parameters method).length
    · by_cases assignable : u.isAssignable on.type method.parent = true
      · simp only [if_pos sameLength, if_pos assignable]
        cases received : u.receiveAll method (u.parameters method) arguments with
        | error fault => rfl
        | ok values =>
            have sameValues := u.length_receiveAll sameLength received
            have laidOut := entry_eq_layOut sameValues
            simp only [callVirtual, dispatch, laidOut]
            cases u.require on.type method with
            | error fault => rfl
            | ok body =>
                simp only []
                cases u.runBody (u.callVirtual depth) on body
                    (.layOut (u.parameters method) values method.generics) w with
                | none => rfl
                | some outcome =>
                    obtain ⟨result, left, after⟩ := outcome
                    cases result with
                    | error fault => rfl
                    | ok v =>
                        have settled := Frame.zipWith_passing left values arguments 0
                          sameValues sameLength
                        rw [List.drop_zero] at settled
                        simp only [Thunk.finish, Thunk.deliver, ← settled]
                        rfl
      · simp only [if_pos sameLength, if_neg assignable]
    · simp only [if_neg sameLength]
  · intro values admitted
    refine ⟨holds_entry (length_of_admission admitted), ?_⟩
    intro inputs
    exact (entry_of_inputs inputs admitted).2

/-- Takes a step, moves a total on and says how far that is. -/
def measure : Signature where
  name := "Measure"
  parameters := [⟨"step", .int32, .input⟩, ⟨"total", .int32, .byRef⟩, ⟨"label", .string, .out⟩]

/-- A class whose method leaves nine and a word, whatever it gets. -/
def gauges : Universe :=
  initial.define ((TypeDeclaration.ofClass "Gauge").addMethod measure (some (.native fun _ =>
    .ask (.store 1 (.int32 9)) fun _ => .ask (.store 2 (.string "full")) fun _ =>
      .done (.ok .void))))

/-- The out argument is a number where a text belongs.  The method is called all the
same, and what it leaves comes back. -/
theorem thunk_refines_direct_call_measure :
    gauges.compile ⟨⟨2, 0⟩, []⟩ = .ok (.assemble gauges ⟨⟨2, 0⟩, []⟩) ∧
      ((Thunk.assemble gauges ⟨⟨2, 0⟩, []⟩).invoke gauges (gauges.callVirtual 1) ⟨0, 2⟩
          [.int32 3, .int32 4, .int32 5] .empty).map (·.1) =
        some ⟨.ok .void, [.int32 3, .int32 9, .string "full"]⟩ := by
  have compiled : gauges.compile ⟨⟨2, 0⟩, []⟩ = .ok (.assemble gauges ⟨⟨2, 0⟩, []⟩) := by
    with_unfolding_all rfl
  have refined := (thunk_refines_direct_call compiled ⟨0, 2⟩
    [.int32 3, .int32 4, .int32 5]).1 0 .empty
  refine ⟨compiled, ?_⟩
  rw [refined]
  with_unfolding_all rfl

end Universe

end Interpose
