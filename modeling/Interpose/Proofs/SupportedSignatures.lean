/-
Module: Interpose.Proofs.SupportedSignatures
Purpose: Which methods compile, told from their signatures with the type arguments put in, and
  the one kind of signature on which the check and that condition part.
Main exports: RuntimeType.concrete_of_closed, Universe.checkSignature_eq_ok_iff,
  Universe.Compilable, Universe.TakesVoid, ThunkOp.loaded?, Universe.compile_supported
-/
import Interpose.Proofs.ThunkRuns

namespace Interpose

namespace RuntimeType

/-! ### Types with the type arguments put in -/

/-- A type that mentions no type argument is what it is, whatever the type arguments. -/
theorem concrete_of_closed {type : RuntimeType} (closed : type.isOpen = false)
    (arguments : List RuntimeType) : type.concrete arguments = type := by
  induction type with
  | nullable inner inductionHypothesis =>
      rw [concrete, inductionHypothesis closed]
  | methodParameter index => cases closed
  | _ => rfl

private theorem isVoid_iff {type : RuntimeType} : type.isVoid = true ↔ type = void := by
  cases type <;> simp [isVoid]

/-- A type becomes `void` if it is declared so, or if it stands for a type argument
that is `void`.  Below `nullable` neither counts. -/
private theorem concrete_eq_void_iff {type : RuntimeType} {arguments : List RuntimeType} :
    type.concrete arguments = void ↔
      type = void ∨ ∃ index, type = methodParameter index ∧ arguments[index]? = some void := by
  cases type with
  | methodParameter index =>
      cases supplied : arguments[index]? with
      | none => simp [concrete, supplied]
      | some argument => simp [concrete, supplied]
  | _ => simp [concrete]

end RuntimeType

/-- The type that a step of a thunk narrows an argument to. -/
def ThunkOp.loaded? : ThunkOp → Option RuntimeType
  | .load _ type | .loadAddress _ type _ _ => some type
  | _ => none

namespace Universe

/-! ### What the check accepts -/

/-- What a supported signature has to be. -/
theorem checkSignature_eq_ok_iff (u : Universe) (method : Method) :
    u.checkSignature method = .ok () ↔
      (u.signature method.slot).convention ≠ .variableArguments ∧
        (u.parameters method).find? (·.type.isVoid) = none ∧
        (u.isGenericDefinition method = true ∨
          (u.openParameter? method = none ∧ (u.returnType method).isOpen = false)) := by
  unfold checkSignature
  by_cases variadic : (u.signature method.slot).convention = .variableArguments
  · simp [variadic]
  · cases void : (u.parameters method).find? (·.type.isVoid) with
    | some parameter => simp [variadic]
    | none =>
        by_cases definition : u.isGenericDefinition method = true
        · simp [variadic, definition]
        · cases opens : u.openParameter? method with
          | some parameter => simp [variadic, definition]
          | none =>
              by_cases returns : (u.returnType method).isOpen = true <;>
                simp [variadic, definition, returns]

/-- A plain method with a supported signature mentions no type argument. -/
theorem closed_of_checkSignature (u : Universe) {slot : Slot}
    (supported : u.checkSignature slot.toMethod = .ok ()) (plain : u.isGeneric slot = false) :
    (∀ parameter ∈ (u.signature slot).parameters, parameter.type.isOpen = false) ∧
      (u.signature slot).returns.isOpen = false := by
  obtain ⟨_, _, generic | ⟨closed, returns⟩⟩ := (u.checkSignature_eq_ok_iff _).mp supported
  · simp [isGenericDefinition, plain] at generic
  · constructor
    · intro parameter member
      have passed := List.find?_eq_none.mp closed parameter member
      simpa [parameterType] using passed
    · simpa [returnType] using returns

/-- A signature that fails the check is unsupported for some reason. -/
private theorem exists_reason_of_checkSignature (u : Universe) {method : Method} {fault : Fault}
    (refused : u.checkSignature method = .error fault) :
    ∃ reason, fault = .unsupported method reason := by
  unfold checkSignature at refused
  split at refused
  · exact ⟨_, (Except.error.inj refused).symm⟩
  · split at refused
    · exact ⟨_, (Except.error.inj refused).symm⟩
    · split at refused
      · cases refused
      · split at refused
        · exact ⟨_, (Except.error.inj refused).symm⟩
        · split at refused
          · exact ⟨_, (Except.error.inj refused).symm⟩
          · cases refused

/-- What compilation looks at.  Whether a parameter is `void` is told from its declaration,
whether it is open with the type arguments put in. -/
structure Accepts (u : Universe) (method : Method) : Prop where
  convention : (u.signature method.slot).convention = .standard
  complete : u.isGenericDefinition method = false
  declared : ∀ parameter ∈ u.parameters method, parameter.type ≠ .void
  closed : ∀ parameter ∈ u.parameters method, (parameterType method parameter).isOpen = false
  returns : (u.returnType method).isOpen = false

/-- A method that a thunk can be made for: arguments are laid out in the standard way, type
arguments are there if they are needed, and with them no parameter is `void` and nothing is
open. -/
structure Compilable (u : Universe) (method : Method) : Prop where
  convention : (u.signature method.slot).convention = .standard
  complete : u.isGenericDefinition method = false
  parameters : ∀ parameter ∈ u.parameters method,
    parameterType method parameter ≠ .void ∧ (parameterType method parameter).isOpen = false
  returns : (u.returnType method).isOpen = false

/-- A parameter is declared to be of the type of a type argument, and that is `void`. -/
def TakesVoid (u : Universe) (method : Method) : Prop :=
  ∃ parameter ∈ u.parameters method, ∃ index,
    parameter.type = .methodParameter index ∧ method.generics[index]? = some .void

variable {u : Universe} {method : Method}

/-- Compilation looks at what the check of a signature looks at, and at whether the method is a
generic definition. -/
theorem accepts_iff_checkSignature :
    u.Accepts method ↔
      u.checkSignature method = .ok () ∧ u.isGenericDefinition method = false := by
  have convention : (u.signature method.slot).convention = .standard ↔
      (u.signature method.slot).convention ≠ .variableArguments := by
    cases (u.signature method.slot).convention <;> simp
  have declared : (u.parameters method).find? (·.type.isVoid) = none ↔
      ∀ parameter ∈ u.parameters method, parameter.type ≠ .void := by
    simp [List.find?_eq_none, RuntimeType.isVoid_iff]
  have closed : u.openParameter? method = none ↔
      ∀ parameter ∈ u.parameters method, (parameterType method parameter).isOpen = false := by
    simp [openParameter?, List.find?_eq_none]
  rw [checkSignature_eq_ok_iff]
  constructor
  · intro accepts
    exact ⟨⟨convention.mp accepts.convention, declared.mpr accepts.declared,
      .inr ⟨closed.mpr accepts.closed, accepts.returns⟩⟩, accepts.complete⟩
  · rintro ⟨⟨standard, valued, definition | ⟨mentionsNone, returns⟩⟩, complete⟩
    · rw [complete] at definition
      cases definition
    · exact ⟨convention.mpr standard, complete, declared.mp valued, closed.mp mentionsNone,
        returns⟩

/-- The two conditions on a signature differ in methods that take `void` for a type argument. -/
theorem compilable_iff_accepts :
    u.Compilable method ↔ u.Accepts method ∧ ¬ u.TakesVoid method := by
  constructor
  · intro compilable
    refine ⟨⟨compilable.convention, compilable.complete, ?_,
      fun parameter member => (compilable.parameters parameter member).2, compilable.returns⟩, ?_⟩
    · intro parameter member void
      exact (compilable.parameters parameter member).1
        (RuntimeType.concrete_eq_void_iff.mpr (.inl void))
    · rintro ⟨parameter, member, index, stands, supplied⟩
      exact (compilable.parameters parameter member).1
        (RuntimeType.concrete_eq_void_iff.mpr (.inr ⟨index, stands, supplied⟩))
  · rintro ⟨accepts, valued⟩
    refine ⟨accepts.convention, accepts.complete, ?_, accepts.returns⟩
    intro parameter member
    refine ⟨?_, accepts.closed parameter member⟩
    intro void
    rcases RuntimeType.concrete_eq_void_iff.mp void with declared | ⟨index, stands, supplied⟩
    · exact accepts.declared parameter member declared
    · exact valued ⟨parameter, member, index, stands, supplied⟩

/-! ### What compiles -/

/-- Compilation adds to the check that a generic definition is refused. -/
private theorem compile_of_complete (complete : u.isGenericDefinition method = false) :
    u.compile method = (u.checkSignature method).map fun _ => Thunk.assemble u method := by
  unfold compile
  cases u.checkSignature method with
  | error fault => rfl
  | ok done => simp [complete, Except.map]

/-- A method compiles exactly if compilation finds nothing to object to. -/
theorem exists_compile_iff : (∃ thunk, u.compile method = .ok thunk) ↔ u.Accepts method := by
  rw [accepts_iff_checkSignature]
  unfold compile
  cases u.checkSignature method with
  | error fault => simp
  | ok done =>
      by_cases definition : u.isGenericDefinition method = true <;> simp [definition]

/-- The only fault of a compilation is that the signature is not supported. -/
private theorem exists_reason_of_compile {fault : Fault}
    (refused : u.compile method = .error fault) :
    ∃ reason, fault = .unsupported method reason := by
  unfold compile at refused
  split at refused
  · rename_i failed
    obtain rfl := Except.error.inj refused
    exact u.exists_reason_of_checkSignature failed
  · split at refused
    · exact ⟨_, (Except.error.inj refused).symm⟩
    · cases refused

/-! ### The loads of a thunk -/

/-- The loads narrow each argument to the type of its parameter, in order. -/
private theorem loaded?_loads (generics : List RuntimeType) (parameters : List Parameter) :
    ∀ index cells, (Thunk.loads generics parameters index cells).filterMap ThunkOp.loaded? =
      parameters.map (·.type.concrete generics) := by
  induction parameters with
  | nil => exact fun _ _ => rfl
  | cons parameter rest inductionHypothesis =>
      intro index cells
      unfold Thunk.loads
      split <;> simp [ThunkOp.loaded?, inductionHypothesis]

/-- The copies back narrow no argument. -/
private theorem loaded?_stores (parameters : List Parameter) :
    ∀ index cells, (Thunk.stores parameters index cells).filterMap ThunkOp.loaded? = [] := by
  induction parameters with
  | nil => exact fun _ _ => rfl
  | cons parameter rest inductionHypothesis =>
      intro index cells
      unfold Thunk.stores
      split
      · exact inductionHypothesis (index + 1) (cells + 1)
      · exact inductionHypothesis (index + 1) cells

/-- A thunk loads an argument for every parameter, and narrows it to the type of the
parameter with the type arguments put in. -/
private theorem loaded?_assemble (u : Universe) (method : Method) :
    (Thunk.assemble u method).ops.filterMap ThunkOp.loaded? =
      (u.parameters method).map (parameterType method) := by
  have returned : [Thunk.returnOp (u.returnType method)].filterMap ThunkOp.loaded? = [] := by
    unfold Thunk.returnOp
    split <;> rfl
  have loads := loaded?_loads method.generics (u.parameters method) 0 0
  have stores := loaded?_stores (u.parameters method) 0 0
  have cast : (ThunkOp.cast method.parent).loaded? = none := rfl
  have call : ThunkOp.callVirtual.loaded? = none := rfl
  simp only [Thunk.assemble, List.filterMap_cons_none cast, List.filterMap_append, loads,
    List.filterMap_cons_none call, stores, returned, List.append_nil]
  rfl

/-- No argument is narrowed to an open type, and to `void` only where a type argument says so. -/
private theorem loaded_of_compile {thunk : Thunk} (compiled : u.compile method = .ok thunk)
    {op : ThunkOp} {type : RuntimeType} (member : op ∈ thunk.ops)
    (loaded : op.loaded? = some type) :
    type.isOpen = false ∧ (type = .void → u.TakesVoid method) := by
  have accepts := exists_compile_iff.mp ⟨thunk, compiled⟩
  obtain rfl := u.eq_assemble_of_compile compiled
  have narrowed : type ∈ (u.parameters method).map (parameterType method) := by
    rw [← loaded?_assemble]
    exact List.mem_filterMap.mpr ⟨op, member, loaded⟩
  obtain ⟨parameter, declared, rfl⟩ := List.mem_map.mp narrowed
  refine ⟨accepts.closed parameter declared, ?_⟩
  intro void
  rcases RuntimeType.concrete_eq_void_iff.mp void with plain | ⟨index, stands, supplied⟩
  · exact absurd plain (accepts.declared parameter declared)
  · exact ⟨parameter, declared, index, stands, supplied⟩

/-! ### Compiling in a factory -/

/-- A factory compiles what compiles, and counts it. -/
private theorem factory_compile_ok {f : Factory} {shared : SharedThunk}
    (made : (f.compile u method).1 = .ok shared) :
    u.compile method = .ok shared.thunk ∧
      (f.compile u method).2.counters.thunkCompilations =
        f.counters.thunkCompilations + 1 := by
  unfold Factory.compile at made ⊢
  cases compiled : u.compile method with
  | error fault =>
      rw [compiled] at made
      cases made
  | ok thunk =>
      rw [compiled] at made
      obtain rfl := Except.ok.inj made
      exact ⟨rfl, rfl⟩

/-- What does not compile leaves no trace in a factory. -/
private theorem factory_compile_error {f : Factory} {fault : Fault}
    (refused : (f.compile u method).1 = .error fault) :
    u.compile method = .error fault ∧ (f.compile u method).2 = f := by
  unfold Factory.compile at refused ⊢
  cases compiled : u.compile method with
  | error other =>
      rw [compiled] at refused
      obtain rfl := Except.error.inj refused
      exact ⟨rfl, rfl⟩
  | ok thunk =>
      rw [compiled] at refused
      cases refused

/-- A method compiles exactly if its arguments are laid out in the standard way, its type
arguments are there if it needs them, no parameter is declared `void`, and with the type
arguments put in nothing is open.  So thunks are made for the methods that they can be made
for, and beside these only for methods that take `void` for a type argument.

The thunk narrows each argument to the type of its parameter: to none that is open, and to
`void` for such a parameter only.  Each compilation is counted.  A method that does not
compile is unsupported, and the factory is left as it was.  Generic definitions apart, the
check alone tells whether a method compiles, and with which fault it does not. -/
theorem compile_supported (u : Universe) (f : Factory) (method : Method) :
    ((∃ shared, (f.compile u method).1 = .ok shared) ↔ u.Accepts method) ∧
    (u.Compilable method ↔
      (∃ shared, (f.compile u method).1 = .ok shared) ∧ ¬ u.TakesVoid method) ∧
    (∀ shared, (f.compile u method).1 = .ok shared →
      shared.thunk.ops.filterMap ThunkOp.loaded? =
        (u.parameters method).map (parameterType method) ∧
      (∀ op ∈ shared.thunk.ops, ∀ type, op.loaded? = some type →
        type.isOpen = false ∧ (type = .void → u.TakesVoid method)) ∧
      (f.compile u method).2.counters.thunkCompilations = f.counters.thunkCompilations + 1) ∧
    (∀ fault, (f.compile u method).1 = .error fault →
      (∃ reason, fault = .unsupported method reason) ∧ (f.compile u method).2 = f) ∧
    (u.isGenericDefinition method = false →
      u.checkSignature method = ((f.compile u method).1).map fun _ => ()) := by
  have succeeds : (∃ shared, (f.compile u method).1 = .ok shared) ↔ u.Accepts method := by
    rw [← exists_compile_iff]
    unfold Factory.compile
    cases u.compile method <;> simp
  refine ⟨succeeds, ?_, ?_, ?_, ?_⟩
  · rw [succeeds]
    exact compilable_iff_accepts
  · intro shared made
    obtain ⟨compiled, counted⟩ := factory_compile_ok made
    refine ⟨?_, fun op member type => loaded_of_compile compiled member, counted⟩
    rw [u.eq_assemble_of_compile compiled]
    exact loaded?_assemble u method
  · intro fault refused
    obtain ⟨failed, same⟩ := factory_compile_error refused
    exact ⟨exists_reason_of_compile failed, same⟩
  · intro complete
    unfold Factory.compile
    rw [compile_of_complete complete]
    cases u.checkSignature method <;> rfl

/-- An interface with a generic method that takes one argument of any type. -/
def fillers : Universe :=
  initial.define ((TypeDeclaration.interface "IFiller").addMethod
    { name := "Fill", parameters := [⟨"item", .methodParameter 0, .input⟩],
      genericParameters := ["T"] } none)

/-- Closed over `void` the parameter is `void`, and the method compiles all the same: the
thunk narrows an argument to `void`. -/
theorem compile_void_argument :
    fillers.makeGeneric ⟨⟨2, 0⟩, []⟩ [.void] = .ok ⟨⟨2, 0⟩, [.void]⟩ ∧
      ¬ fillers.Compilable ⟨⟨2, 0⟩, [.void]⟩ ∧
      ∃ shared, ((default : Factory).compile fillers ⟨⟨2, 0⟩, [.void]⟩).1 = .ok shared ∧
        .load 0 .void ∈ shared.thunk.ops := by
  refine ⟨by with_unfolding_all rfl, ?_, ⟨0, .assemble fillers ⟨⟨2, 0⟩, [.void]⟩⟩,
    by with_unfolding_all rfl, by decide +kernel⟩
  intro compilable
  have declared : ⟨"item", .methodParameter 0, .input⟩ ∈ fillers.parameters ⟨⟨2, 0⟩, [.void]⟩ := by
    decide +kernel
  exact (compilable.parameters _ declared).1 rfl

end Universe

end Interpose
