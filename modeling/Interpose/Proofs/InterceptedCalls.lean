/-
Module: Interpose.Proofs.InterceptedCalls
Purpose: Calls that a proxy intercepts: what the interceptor is given, and what it can leave.
Main exports: Universe.SameTypes, Universe.Built.carrier, Session.Sound.carrier,
  Universe.consult_ok, Universe.length_slots_visited,
  Universe.callVirtual_intercepted, Universe.conclude_layOut, Session.intercepted_call_atomic
-/
import Interpose.Proofs.Reachability
import Interpose.Proofs.SupportedSignatures
import Interpose.Proofs.ThunkRuns

namespace Interpose

namespace Universe

/-- Two methods take the same types and return the same type. -/
structure SameTypes (u : Universe) (method other : Method) : Prop where
  parameters : u.parameters method = u.parameters other
  types : ∀ parameter ∈ u.parameters method,
    parameterType method parameter = parameterType other parameter
  returns : u.returnType method = u.returnType other

/-- The misfits of a slot list are told by the types of the parameters alone. -/
theorem misfit?_congr (u : Universe) {method other : Method} {parameters : List Parameter} :
    ∀ slots : List Value,
      (∀ parameter ∈ parameters, parameterType method parameter = parameterType other parameter) →
      u.misfit? method parameters slots = u.misfit? other parameters slots := by
  induction parameters with
  | nil => exact fun _ _ => rfl
  | cons parameter parameters inductionHypothesis =>
      intro slots same
      cases slots with
      | nil => rfl
      | cons slot slots =>
          have others := inductionHypothesis slots fun later member =>
            same later (List.mem_cons_of_mem parameter member)
          simp only [misfit?, same parameter List.mem_cons_self, others]

/-- What enters a frame depends on the types of the parameters only. -/
theorem receiveAll_congr (u : Universe) {method other : Method} {parameters : List Parameter} :
    ∀ arguments : List Value,
      (∀ parameter ∈ parameters, parameterType method parameter = parameterType other parameter) →
      u.receiveAll method parameters arguments = u.receiveAll other parameters arguments := by
  induction parameters with
  | nil => exact fun _ _ => rfl
  | cons parameter parameters inductionHypothesis =>
      intro arguments same
      cases arguments with
      | nil => rfl
      | cons argument arguments =>
          have others := inductionHypothesis arguments fun later member =>
            same later (List.mem_cons_of_mem parameter member)
          simp only [receiveAll, receive, same parameter List.mem_cons_self, others]

end Universe

/-! ### What stands behind the body of a proxy member -/

/-- The method that a body of a proxy member was made for. -/
def MethodBody.carried? : MethodBody → Option Slot
  | .intercepted carried _ _ | .passThrough carried _ => some carried
  | _ => none

theorem Universe.Built.kind {u : Universe} {proxyType : ProxyType} (built : u.Built proxyType) :
    u.kind proxyType.type = .proxyType := by
  obtain ⟨before, factoryId, descriptor, members, declaration, assembly, rfl, extended, defined⟩ :=
    built.exists_assembly
  rw [extended.kind_eq defined, Universe.kind, assembly.declaration_eq, assembly.kind]

/-- A body in the table of a proxy type that was built was made for a method with a
supported signature, which has the shape of the method for which the table holds it. -/
theorem Universe.Built.carrier {u : Universe} {proxyType : ProxyType} (built : u.Built proxyType)
    {slot carried : Slot} {body : MethodBody}
    (held : (u.methodTable proxyType.type).find? slot = some body)
    (carries : body.carried? = some carried) :
    u.checkSignature carried.toMethod = .ok () ∧
      (u.signature slot).parameters = (u.signature carried).parameters ∧
      (u.signature slot).returns = (u.signature carried).returns ∧
      (u.signature slot).arity = (u.signature carried).arity := by
  obtain ⟨before, factoryId, descriptor, members, declaration, assembly, rfl, extended, defined⟩ :=
    built.exists_assembly
  have older : slot.parent < (before.define declaration).size :=
    Nat.lt_of_le_of_lt (u.parent_le_of_find? held) defined
  have grown := (before.extends_define declaration).trans extended
  rw [extended.find?_methodTable slot defined] at held
  rcases assembly.carrier_of_find? held with ⟨which, rfl⟩ | ⟨member, listed, rfl, shape⟩
  · cases carries
  · obtain rfl : member.target.slot = carried := by
      rcases assembly.routed member listed with ⟨_, _, body⟩ | ⟨_, body⟩
      · rw [body] at carries
        exact Option.some.inj carries
      · rw [body] at carries
        exact Option.some.inj carries
    have declared := before.lt_size_of_mem_slots (assembly.wellPlaced listed).declared
    refine ⟨grown.checkSignature_of_ok (assembly.supported member listed), ?_⟩
    rw [extended.signature_eq older, grown.signature_eq declared]
    exact shape

/-- An intercepted body in the table of a proxy type that was built is linked,
and has the shape of the method for which the table holds it. -/
theorem Session.Sound.carrier {s : Session} (sound : s.Sound) {proxyType : ProxyType}
    (built : s.types.Built proxyType) {slot carried : Slot} {dispatch : Dispatch}
    {factory : FactoryId}
    (held : (s.types.methodTable proxyType.type).find? slot =
      some (.intercepted carried dispatch factory)) :
    s.types.checkSignature carried.toMethod = .ok () ∧
      dispatch.Linked s.types (s.world.factory factory) carried ∧
      (s.types.signature slot).parameters = (s.types.signature carried).parameters ∧
      (s.types.signature slot).returns = (s.types.signature carried).returns ∧
      (s.types.signature slot).arity = (s.types.signature carried).arity := by
  obtain ⟨supported, shape⟩ := built.carrier held rfl
  have linked := sound.linked _ built.kind _ (s.types.mem_bodies_of_find? held)
  exact ⟨supported, linked.2, shape⟩

namespace Universe

/-- What an intercepted call proceeds with: the plain method, or the generic one
closed over the type arguments of the call. -/
private theorem selectProceed_ok (u : Universe) {slot : Slot} {dispatch : Dispatch}
    {factory : FactoryId} {generics : List RuntimeType} {w after : World} {method : Method}
    {entry : EntryId} (coherent : (w.factory factory).Coherent u)
    (linked : dispatch.Linked u (w.factory factory) slot)
    (selected : u.selectProceed slot dispatch factory generics w = (.ok (method, entry), after)) :
    (u.isGeneric slot = false ∧ method = slot.toMethod) ∨ method = ⟨slot, generics⟩ := by
  cases dispatch with
  | direct id =>
      obtain ⟨same, _⟩ := Prod.mk.inj selected
      exact .inl ⟨linked.1, (Prod.mk.inj (Except.ok.inj same)).1.symm⟩
  | generic cache =>
      right
      obtain ⟨_, _, sameSlot⟩ := linked
      obtain ⟨closed, _⟩ := Factory.evolves_specialize coherent cache generics
      have first : (w.onFactory factory fun f => f.specialize u cache generics).1 =
          ((w.factory factory).specialize u cache generics).1 := rfl
      rw [← first, sameSlot] at closed
      simp only [selectProceed] at selected
      generalize (w.onFactory factory fun f => f.specialize u cache generics) = outcome
        at selected closed
      obtain ⟨result, between⟩ := outcome
      cases result with
      | error fault => cases selected
      | ok specialization =>
          obtain ⟨same, _⟩ := Prod.mk.inj selected
          obtain ⟨rfl, _⟩ := Prod.mk.inj (Except.ok.inj same)
          have made : u.makeGeneric slot.toMethod generics = .ok specialization.method :=
            closed.symm
          simp only [makeGeneric] at made
          split at made
          · cases made
          · exact (Except.ok.inj made).symm

/-- A method that a body was made for takes and returns what the method called does, once both are
closed over the same type arguments. -/
private theorem sameTypes_of_carrier (u : Universe) {slot carried : Slot} {method : Method}
    {generics : List RuntimeType} (supported : u.checkSignature carried.toMethod = .ok ())
    (parameters : (u.signature slot).parameters = (u.signature carried).parameters)
    (returns : (u.signature slot).returns = (u.signature carried).returns)
    (selected : (u.isGeneric carried = false ∧ method = carried.toMethod) ∨
      method = ⟨carried, generics⟩) : u.SameTypes method ⟨slot, generics⟩ := by
  rcases selected with ⟨plain, rfl⟩ | rfl
  · obtain ⟨closedParameters, closedReturns⟩ := u.closed_of_checkSignature supported plain
    refine ⟨parameters.symm, ?_, ?_⟩
    · intro parameter member
      have closed := closedParameters parameter member
      simp [parameterType, RuntimeType.concrete_of_closed closed]
    · simp [returnType, returns, RuntimeType.concrete_of_closed closedReturns]
  · refine ⟨parameters.symm, fun _ _ => rfl, ?_⟩
    simp [returnType, returns]

/-- What the interceptor of a proxy is given. -/
theorem consult_ok (u : Universe) {this : ObjectRef} {slot : Slot} {dispatch : Dispatch}
    {factory : FactoryId} {frame : Frame} {w after : World} {interceptor : Interceptor}
    {context : Interception}
    (consulted : u.consult this slot dispatch factory frame w =
      (.ok (interceptor, context), after)) :
    ∃ proxy between, w.proxy? this = some proxy ∧ proxy.interceptor = some interceptor ∧
      context.target = proxy.target ∧ context.factory = factory ∧
      u.selectProceed slot dispatch factory frame.generics w =
        (.ok (context.method, context.entry), between) ∧
      frame.readArguments (u.parameters context.method).length = .ok context.slots ∧
      after = (between.onFactory factory fun f => ((), f.countIntercepted)).2 := by
  unfold consult at consulted
  split at consulted
  · cases consulted
  · rename_i proxy found
    split at consulted
    · cases consulted
    · rename_i held handles
      split at consulted
      · cases consulted
      · rename_i method entry between selected
        split at consulted
        · cases consulted
        · rename_i slots read
          obtain ⟨same, rfl⟩ := Prod.mk.inj consulted
          obtain ⟨rfl, rfl⟩ := Prod.mk.inj (Except.ok.inj same)
          exact ⟨proxy, between, found, handles, rfl, rfl, selected, read, rfl⟩

/-! ### Argument slots -/

/-- A call through a factory hands back as many arguments as it was given. -/
private theorem length_invokeVia (u : Universe) {call : VirtualCall} {factory : FactoryId}
    {lookup : Factory → Except Fault SharedThunk × Factory} {on : ObjectRef}
    {arguments : List Value} {w after : World} {outcome : CallResult}
    (ran : u.invokeVia call factory lookup on arguments w = some (outcome, after)) :
    outcome.arguments.length = arguments.length := by
  unfold invokeVia at ran
  split at ran
  · obtain ⟨rfl, _⟩ := Prod.mk.inj (Option.some.inj ran)
    rfl
  · exact Thunk.length_invoke ran

/-- Whatever an interceptor asks for, the number of its slots stays. -/
private theorem length_slots_serveHook (u : Universe) (call : VirtualCall) {request : HookRequest}
    {state after : Interception × World} {reply : request.Reply}
    (served : u.serveHook call request state = some (reply, after)) :
    after.1.slots.length = state.1.slots.length := by
  obtain ⟨context, w⟩ := state
  cases request with
  | world request =>
      simp only [serveHook] at served
      split at served
      · cases served
      · obtain ⟨_, rfl⟩ := Prod.mk.inj (Option.some.inj served)
        rfl
  | setSlot index v =>
      simp only [serveHook] at served
      split at served
      · obtain ⟨_, rfl⟩ := Prod.mk.inj (Option.some.inj served)
        simp
      · obtain ⟨_, rfl⟩ := Prod.mk.inj (Option.some.inj served)
        rfl
  | proceed =>
      simp only [serveHook] at served
      split at served
      · obtain ⟨_, rfl⟩ := Prod.mk.inj (Option.some.inj served)
        rfl
      · split at served
        · cases served
        · rename_i invoked
          obtain ⟨_, rfl⟩ := Prod.mk.inj (Option.some.inj served)
          exact u.length_invokeVia invoked
  | proceedWith on arguments =>
      simp only [serveHook] at served
      split at served
      · cases served
      · obtain ⟨_, rfl⟩ := Prod.mk.inj (Option.some.inj served)
        rfl
  | _ =>
      obtain ⟨_, rfl⟩ := Prod.mk.inj (Option.some.inj served)
      rfl

/-- In every state that an interceptor passes through it has one slot for each
parameter of the method that it handles. -/
theorem length_slots_visited (u : Universe) {call : VirtualCall} {interceptor : Interceptor}
    {start visited : Interception × World}
    (visits : interceptor.Visits (u.serveHook call) start visited) :
    visited.1.slots.length = start.1.slots.length := by
  have kept : ∀ request (state : Interception × World) reply after,
      state.1.slots.length = start.1.slots.length →
      u.serveHook call request state = some (reply, after) →
      after.1.slots.length = start.1.slots.length :=
    fun request state reply after held served =>
      (u.length_slots_serveHook call served).trans held
  exact Program.kept_of_visits kept visits rfl

/-! ### Leaving an intercepted call -/

/-- A virtual call of a method that is intercepted runs an interceptor. -/
theorem callVirtual_intercepted (u : Universe) {o : ObjectRef} {method : Method} {carried : Slot}
    {dispatch : Dispatch} {factory : FactoryId}
    (found : u.require o.type method = .ok (.intercepted carried dispatch factory)) (depth : Nat)
    (frame : Frame) (w : World) :
    u.callVirtual (depth + 1) o method frame w =
      u.runIntercepted (u.callVirtual depth) o carried dispatch factory frame w := by
  rw [callVirtual, Universe.dispatch, found]
  rfl

/-- An intercepted call that ends well was handled to its end by the interceptor. -/
private theorem runIntercepted_ok (u : Universe) {call : VirtualCall} {this : ObjectRef}
    {slot : Slot} {dispatch : Dispatch} {factory : FactoryId} {frame left : Frame} {w after : World}
    {v : Value}
    (ran : u.runIntercepted call this slot dispatch factory frame w =
      some (.ok v, left, after)) :
    ∃ interceptor context between final result,
      u.consult this slot dispatch factory frame w = (.ok (interceptor, context), between) ∧
      interceptor.run (u.serveHook call) (context, between) = some (.ok result, final, after) ∧
      u.conclude context.method final.slots result frame = (.ok v, left) := by
  unfold runIntercepted at ran
  split at ran
  · cases ran
  · rename_i interceptor context between consulted
    split at ran
    · cases ran
    · cases ran
    · rename_i result final last handled
      have outcome := Option.some.inj ran
      obtain ⟨concluded, rest⟩ := Prod.mk.inj outcome
      obtain ⟨leftFrame, rfl⟩ := Prod.mk.inj rest
      exact ⟨interceptor, context, between, final, result, consulted, handled,
        Prod.ext concluded leftFrame⟩

/-- Slots are handed over as a whole or not at all: the first misfit is the fault of
the call, and without one every cell is the slot of its parameter. -/
theorem conclude_layOut (u : Universe) {method : Method} {values slots : List Value}
    (generics : List RuntimeType) (result : Value)
    (sameLength : values.length = (u.parameters method).length)
    (sameSlots : slots.length = (u.parameters method).length) :
    let outcome := u.conclude method slots result (.layOut (u.parameters method) values generics)
    (∀ fault, u.misfit? method (u.parameters method) slots = some fault →
      outcome.1 = .error fault) ∧
    (u.misfit? method (u.parameters method) slots = none →
      outcome.1 = u.intercepted method result ∧
        outcome.2.cells = Frame.byRefs (u.parameters method) slots) := by
  obtain ⟨failing, fitting⟩ := u.writeBack_layOut method generics sameLength sameSlots
  unfold conclude
  generalize u.writeBack method slots (u.parameters method) 0
    (.layOut (u.parameters method) values generics) = copied at failing fitting
  obtain ⟨outcome, left⟩ := copied
  cases outcome with
  | error fault =>
      refine ⟨fun other misfit => ?_, fun fits => ?_⟩
      · obtain rfl := Except.error.inj (failing other misfit)
        rfl
      · cases (fitting fits).1
  | ok done =>
      refine ⟨fun fault misfit => ?_, fun fits => ⟨rfl, (fitting fits).2⟩⟩
      cases failing fault misfit

/-- A method may return a value: nothing if it returns nothing, else one that fits. -/
def MayReturn (u : Universe) (method : Method) (v : Value) : Prop :=
  if (u.returnType method).isVoid then v = .void else u.fits v (u.returnType method) = true

/-- A caller is left with the slots of by-reference parameters, which fit, in place
of these arguments, and with its other arguments. -/
structure HandsOver (u : Universe) (method : Method) (slots arguments left : List Value) :
    Prop where
  length : left.length = arguments.length
  byReference : ∀ (index : Nat) (parameter : Parameter),
    (u.parameters method)[index]? = some parameter → parameter.direction.isByRef = true →
    ∃ slot, slots[index]? = some slot ∧ left[index]? = some slot ∧
      u.fits slot (parameterType method parameter) = true
  byValue : ∀ (index : Nat) (parameter : Parameter),
    (u.parameters method)[index]? = some parameter → parameter.direction.isByRef = false →
    left[index]? = arguments[index]?

/-- Writing slots that fit over the arguments is what handing them over means. -/
private theorem handsOver_written (u : Universe) {method : Method} {slots arguments : List Value}
    (sameLength : arguments.length = (u.parameters method).length)
    (sameSlots : slots.length = (u.parameters method).length)
    (fitting : u.misfit? method (u.parameters method) slots = none) :
    u.HandsOver method slots arguments
      (Frame.written (u.parameters method) arguments
        (Frame.byRefs (u.parameters method) slots)) where
  length := Frame.length_written arguments _
  byReference := by
    intro index parameter found address
    have bound : index < slots.length := by
      rw [sameSlots]
      exact (List.getElem?_eq_some_iff.mp found).1
    have present : slots[index]? = some slots[index] := List.getElem?_eq_getElem bound
    refine ⟨slots[index], present, ?_, u.fits_of_misfit? fitting found present address⟩
    rw [Frame.getElem?_written_byRefs sameLength sameSlots found, if_pos address]
    exact present
  byValue := by
    intro index parameter found value
    rw [Frame.getElem?_written_byRefs sameLength sameSlots found, value]
    rfl

/-- The result of an intercepted call passes any further check for its type. -/
theorem intercepted_again (u : Universe) {method : Method} (other : Method) {result v : Value}
    (same : u.returnType method = u.returnType other)
    (delivered : u.intercepted method result = .ok v) :
    u.intercepted other v = .ok v ∧ u.MayReturn other v := by
  unfold MayReturn
  unfold intercepted at delivered ⊢
  rw [same] at delivered
  by_cases void : (u.returnType other).isVoid = true
  · rw [if_pos void] at delivered
    obtain rfl := Except.ok.inj delivered
    exact ⟨if_pos void, by rw [if_pos void]⟩
  · rw [if_neg void] at delivered
    obtain ⟨fits, rfl⟩ := (u.narrow_eq_ok_iff _ _ _).mp delivered
    exact ⟨(if_neg void).trans delivered, by rw [if_neg void]; exact fits⟩

end Universe

namespace Session

variable {s : Session} {proxyType : ProxyType} {o : ObjectRef} {method : Method} {carried : Slot}
  {dispatch : Dispatch} {factory : FactoryId}

/-- The context of an intercepted call is of the types of the method called, and
has a slot for each of its parameters. -/
theorem Sound.context (sound : s.Sound) (built : s.types.Built proxyType)
    (held : (s.types.methodTable proxyType.type).find? method.slot =
      some (.intercepted carried dispatch factory))
    {frame : Frame} {interceptor : Interceptor} {context : Interception} {w : World}
    (consulted : s.types.consult o carried dispatch factory frame s.world =
      (.ok (interceptor, context), w)) :
    s.types.SameTypes context.method ⟨method.slot, frame.generics⟩ ∧
      frame.readArguments (s.types.parameters method).length = .ok context.slots := by
  obtain ⟨supported, linked, parameters, returns, _⟩ := sound.carrier built held
  obtain ⟨_, _, _, _, _, _, selected, read, _⟩ := s.types.consult_ok consulted
  have proceeds := s.types.selectProceed_ok (sound.coherent factory) linked selected
  have same := s.types.sameTypes_of_carrier supported parameters returns proceeds
  refine ⟨same, ?_⟩
  rw [same.parameters] at read
  exact read

/-- A run that comes to an end in a session comes to an end in its world. -/
theorem exists_of_running {α : Type} {run : World → Option (α × World)} {outcome : α}
    {after : Session} (ran : s.running run = some (outcome, after)) :
    ∃ w, run s.world = some (outcome, w) ∧ after = { s with world := w } := by
  unfold running at ran
  cases called : run s.world with
  | none =>
      rw [called] at ran
      cases ran
  | some final =>
      rw [called] at ran
      obtain ⟨rfl, rfl⟩ := Prod.mk.inj (Option.some.inj ran)
      exact ⟨final.2, rfl, rfl⟩

/-- A virtual call of an intercepted method that ends well.  The result needs no
further check, and the cells of the frame are what the interceptor left. -/
theorem Sound.ended (sound : s.Sound) (built : s.types.Built proxyType)
    (ofType : o.type = proxyType.type)
    (held : (s.types.methodTable proxyType.type).find? method.slot =
      some (.intercepted carried dispatch factory))
    {depth : Nat} {values : List Value} {v : Value} {left : Frame} {last : World}
    (sameValues : values.length = (s.types.parameters method).length)
    (called : s.types.callVirtual depth o method
      (.layOut (s.types.parameters method) values method.generics) s.world =
        some (.ok v, left, last)) :
    s.types.intercepted method v = .ok v ∧ s.types.MayReturn method v ∧
      ∃ (inner : Nat) (interceptor : Interceptor) (context final : Interception) (w : World)
        (result : Value), depth = inner + 1 ∧
        s.types.consult o carried dispatch factory
            (.layOut (s.types.parameters method) values method.generics) s.world =
          (.ok (interceptor, context), w) ∧
        interceptor.run (s.types.serveHook (s.types.callVirtual inner)) (context, w) =
          some (.ok result, final, last) ∧
        final.slots.length = (s.types.parameters method).length ∧
        s.types.misfit? method (s.types.parameters method) final.slots = none ∧
        left.cells = Frame.byRefs (s.types.parameters method) final.slots := by
  cases depth with
  | zero => cases called
  | succ inner =>
      have found : s.types.require o.type method = .ok (.intercepted carried dispatch factory) := by
        rw [ofType]
        exact s.types.require_of_find? held
      rw [s.types.callVirtual_intercepted found] at called
      obtain ⟨interceptor, context, between, final, result, consulted, handled, concluded⟩ :=
        s.types.runIntercepted_ok called
      obtain ⟨same, read⟩ := sound.context built held consulted
      rw [Frame.readArguments_layOut _ sameValues] at read
      have slots : values = context.slots := Except.ok.inj read
      have sameSlots : final.slots.length = (s.types.parameters method).length := by
        have kept := s.types.length_slots_visited (Program.visits_of_run handled)
        rw [kept, ← slots]
        exact sameValues
      -- The frame is laid out for the method called, the slots are checked for
      -- the method that the body carries: both read the same parameters.
      have sameParameters : s.types.parameters context.method = s.types.parameters method :=
        same.parameters
      have sameTypes : ∀ parameter ∈ s.types.parameters method,
          Universe.parameterType context.method parameter =
            Universe.parameterType method parameter := by
        rw [← sameParameters]
        exact same.types
      rw [← sameParameters] at concluded sameValues
      obtain ⟨failing, fitting⟩ := s.types.conclude_layOut method.generics result sameValues
        (by rw [sameParameters]; exact sameSlots)
      rw [concluded] at failing fitting
      -- A misfit would have failed the call, and it returned.
      have misfit : s.types.misfit? context.method (s.types.parameters context.method)
          final.slots = none := by
        by_contra misfits
        obtain ⟨fault, misfit⟩ := Option.ne_none_iff_exists'.mp misfits
        cases failing fault misfit
      obtain ⟨delivered, cells⟩ := fitting misfit
      obtain ⟨again, fits⟩ := s.types.intercepted_again method same.returns delivered.symm
      rw [sameParameters, s.types.misfit?_congr final.slots sameTypes] at misfit
      rw [sameParameters] at cells
      exact ⟨again, fits, inner, interceptor, context, final, between, result, rfl, consulted,
        handled, sameSlots, misfit, cells⟩

/-! ### A proxy over one object -/

/-- Takes a position, moves it on and returns where it was. -/
def advance : Signature :=
  { name := "Advance", parameters := [⟨"position", .int32, .byRef⟩], returns := .int32 }

def cursor : TypeDeclaration :=
  (TypeDeclaration.ofClass "Cursor").addMethod advance (some (.native fun _ =>
    .ask (.argument 0) fun position => .ask (.store 0 (.int32 8)) fun _ => .done position))

/-- One object of the class, and a proxy that stands in for it. -/
def standIn (interceptor : Interceptor) : Session :=
  let (target, created) := (initial.define cursor).2.create 2 "cursor"
  (created.createProxy 0 ⟨2, [], Universe.everything⟩ (some target) interceptor).2

theorem reachable_standIn (interceptor : Interceptor) : Reachable (standIn interceptor) := by
  have defined : Reachable (initial.define cursor).2 :=
    .step .initial (.define cursor (by decide) fun _ held => MethodBody.alike_of_mem_native held)
  have created := defined.step (.create 2 "cursor")
  exact created.step (.createProxy 0 _ _ interceptor (by decide))

theorem proxy?_standIn (interceptor : Interceptor) :
    (standIn interceptor).world.proxy? ⟨1, 3⟩ =
      some ⟨⟨3, 2, [], Universe.everything⟩, some ⟨0, 2⟩, some interceptor⟩ := by
  with_unfolding_all rfl

/-- Proceeds, and then puts another position into the slot. -/
def correcting : Interceptor :=
  .ask .proceed fun result => .ask (.setSlot 0 (.int32 3)) fun _ => .done result

/-- Interception is a type barrier, and it is atomic through thunks.  While the
interceptor handles a call, whatever it does, it has one slot for each parameter.
A call that fails leaves every argument as it was.  A call that succeeds returns
nothing or a value that fits, as the method wants it; each by-reference argument
is then the slot that the interceptor left, which fits its parameter, and every
other argument is as it was. -/
theorem intercepted_call_atomic (reachable : Reachable s) (built : s.types.Built proxyType)
    (ofType : o.type = proxyType.type)
    (held : (s.types.methodTable proxyType.type).find? method.slot =
      some (.intercepted carried dispatch factory))
    {thunk : Thunk} (compiled : s.types.compile method = .ok thunk) (depth : Nat)
    (arguments : List Value) :
    (∀ frame interceptor context w,
      s.types.consult o carried dispatch factory frame s.world = (.ok (interceptor, context), w) →
      ∀ visited,
        interceptor.Visits (s.types.serveHook (s.types.callVirtual depth)) (context, w) visited →
        visited.1.slots.length = thunk.parameterCount) ∧
    ∀ outcome after, s.invokeThunk depth thunk o arguments = some (outcome, after) →
      (∀ fault, outcome.result = .error fault → outcome.arguments = arguments) ∧
      ∀ v, outcome.result = .ok v → s.types.MayReturn method v ∧
        ∃ (inner : Nat) (values : List Value) (interceptor : Interceptor)
          (context final : Interception) (w : World) (result : Value), depth = inner + 1 ∧
          s.types.consult o carried dispatch factory
              (.layOut (s.types.parameters method) values method.generics) s.world =
            (.ok (interceptor, context), w) ∧
          interceptor.run (s.types.serveHook (s.types.callVirtual inner)) (context, w) =
            some (.ok result, final, after.world) ∧
          s.types.HandsOver method final.slots arguments outcome.arguments := by
  have sound := sound_of_reachable reachable
  obtain rfl := s.types.eq_assemble_of_compile compiled
  constructor
  · intro frame interceptor context w consulted visited visits
    have read := (sound.context built held consulted).2
    exact (s.types.length_slots_visited visits).trans (Frame.length_readArguments read)
  · intro outcome after ran
    obtain ⟨w, invoked, rfl⟩ := exists_of_running ran
    rcases Thunk.failed_or_delivered s.types invoked with
      ⟨fault, rfl⟩ | ⟨values, v, left, sameLength, sameValues, called, rfl⟩
    · exact ⟨fun _ _ => rfl, fun _ impossible => by cases impossible⟩
    · obtain ⟨again, fits, inner, interceptor, context, final, between, result, deeper, consulted,
        handled, sameSlots, misfit, cells⟩ := sound.ended built ofType held sameValues called
      constructor
      · intro fault failed
        cases again.symm.trans failed
      · intro returned succeeded
        obtain rfl := Except.ok.inj (again.symm.trans succeeded)
        have handsOver := s.types.handsOver_written sameLength sameSlots misfit
        rw [← cells] at handsOver
        exact ⟨fits, inner, values, interceptor, context, final, between, result, deeper,
          consulted, handled, handsOver⟩

/-- The interceptor corrects the position, and the caller is left with that. -/
theorem intercepted_call_atomic_correcting :
    ∃ outcome after, (standIn correcting).invokeThunk 3
        (.assemble (standIn correcting).types ⟨⟨2, 0⟩, []⟩) ⟨1, 3⟩ [.int32 7] =
          some (outcome, after) ∧
      outcome.result = .ok (.int32 7) ∧ outcome.arguments = [.int32 3] ∧
      (standIn correcting).types.MayReturn ⟨⟨2, 0⟩, []⟩ (.int32 7) := by
  have reachable := reachable_standIn correcting
  have built := (sound_of_reachable reachable).proxies _ _ (proxy?_standIn correcting)
  have ofType : (⟨1, 3⟩ : ObjectRef).type = 3 := rfl
  have held : ((standIn correcting).types.methodTable 3).find? ⟨2, 0⟩ =
      some (.intercepted ⟨2, 0⟩ (.direct 0) 0) := by with_unfolding_all rfl
  have compiled : (standIn correcting).types.compile ⟨⟨2, 0⟩, []⟩ =
      .ok (.assemble (standIn correcting).types ⟨⟨2, 0⟩, []⟩) := by with_unfolding_all rfl
  have ends : ((standIn correcting).invokeThunk 3
      (.assemble (standIn correcting).types ⟨⟨2, 0⟩, []⟩) ⟨1, 3⟩ [.int32 7]).map
        (fun ended => (ended.1.result, ended.1.arguments)) =
      some (.ok (.int32 7), [.int32 3]) := by with_unfolding_all rfl
  obtain ⟨⟨outcome, after⟩, ran, same⟩ := Option.map_eq_some_iff.mp ends
  obtain ⟨result, arguments⟩ := Prod.mk.inj same
  have barrier := (intercepted_call_atomic reachable built ofType held compiled 3 [.int32 7]).2
  exact ⟨outcome, after, ran, result, arguments, ((barrier outcome after ran).2 _ result).1⟩

end Session

end Interpose
