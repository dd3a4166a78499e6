/-
Module: Interpose.Proofs.TargetAccessors
Purpose: What reading and writing the target of a proxy comes to, for the body of an accessor and
  for a call of it through a thunk.
Main exports: ProxyType.Takes, World.held, Universe.Accesses, Universe.accesses_runAccessor,
  Universe.Built.require_accessor, Session.invoke_getter, Session.invoke_setter
-/
import Interpose.Proofs.Assignability
import Interpose.Proofs.InterceptedCalls
import Interpose.Proofs.Transparency

namespace Interpose

/-! ### What is held and what is taken -/

/-- The target of a proxy as its accessors pass it: null when there is none. -/
def ProxyState.held (state : ProxyState) : Value := .ofOption (state.target.map .object)

/-- What a proxy of a type takes as its target: null, or an object of the type that it stands
in for. -/
inductive ProxyType.Takes (u : Universe) (proxyType : ProxyType) : Value → Prop where
  | null : Takes u proxyType .null
  | object {target : ObjectRef}
      (assignable : u.isAssignable target.type proxyType.primary = true) :
      Takes u proxyType (.object target)

/-- The target that the object with an identity holds; null when it is no proxy. -/
def World.held (w : World) (id : Nat) : Value :=
  match w.objects[id]? with
  | some (.proxy state) => state.held
  | _ => .null

/-- What a proxy holds is what its type takes exactly if its target, where there is one, is of the
primary type. -/
theorem ProxyState.takes_held_iff {u : Universe} {state : ProxyState} :
    state.proxyType.Takes u state.held ↔
      ∀ target, state.target = some target →
        u.isAssignable target.type state.proxyType.primary = true := by
  obtain ⟨proxyType, target, interceptor⟩ := state
  constructor
  · rintro takes o rfl
    cases takes with
    | object assignable => exact assignable
  · intro fits
    cases target with
    | none => exact .null
    | some o => exact .object (fits o rfl)

/-- What a proxy takes it holds once it is put in place. -/
theorem ProxyType.Takes.held_put {u : Universe} {state : ProxyState} {v : Value}
    (takes : state.proxyType.Takes u v) :
    ProxyState.held { state with target := v.object? } = v := by
  cases takes <;> rfl

/-- A proxy takes exactly what it can be given as a target. -/
theorem ProxyState.setTarget_eq_ok_iff {u : Universe} {state changed : ProxyState}
    {target : Option ObjectRef} :
    state.setTarget u target = .ok changed ↔
      state.proxyType.Takes u (.ofOption (target.map .object)) ∧
        changed = { state with target := target } := by
  cases target with
  | none =>
      constructor
      · intro placed
        exact ⟨.null, (Except.ok.inj placed).symm⟩
      · rintro ⟨_, rfl⟩
        rfl
  | some o =>
      constructor
      · intro placed
        have assignable := Universe.isAssignable_of_setTarget placed
        simp only [setTarget, assignable, if_true] at placed
        exact ⟨.object assignable, (Except.ok.inj placed).symm⟩
      · rintro ⟨takes, rfl⟩
        cases takes with
        | object assignable => exact if_pos assignable

namespace World

variable {w later : World} {o : ObjectRef} {state : ProxyState}

private theorem held_eq (w : World) (o : ObjectRef) :
    w.held o.id = (w.proxy? o).elim .null ProxyState.held := by
  unfold held proxy? state?
  rcases w.objects[o.id]? with _ | ⟨tag, cells⟩ | state <;> rfl

theorem held_of_proxy? (found : w.proxy? o = some state) : w.held o.id = state.held := by
  rw [held_eq, found]
  rfl

theorem held_congr (same : ∀ o, later.proxy? o = w.proxy? o) : later.held = w.held := by
  funext id
  have alike := same ⟨id, objectType⟩
  rw [w.held_eq ⟨id, objectType⟩, later.held_eq ⟨id, objectType⟩, alike]

/-- Putting the state of a proxy that is there changes what is found for that proxy, and for no
other. -/
theorem proxy?_putProxy_of_found (found : w.proxy? o = some state) (changed : ProxyState)
    (other : ObjectRef) :
    (w.putProxy o changed).proxy? other =
      if o.id = other.id then some changed else w.proxy? other := by
  have known : o.id < w.objects.size := by
    by_contra absent
    simp [proxy?, state?, Array.getElem?_eq_none (Nat.le_of_not_lt absent)] at found
  rw [proxy?_putProxy_eq]
  by_cases same : o.id = other.id
  · rw [if_pos same, if_pos ⟨same, same ▸ known⟩]
  · rw [if_neg same, if_neg fun hit => same hit.1]

/-- Putting the state of a proxy that is there is an update of what proxies hold, at one identity.
-/
theorem held_putProxy (found : w.proxy? o = some state) (changed : ProxyState) :
    (w.putProxy o changed).held = Function.update w.held o.id changed.held := by
  funext id
  rw [held_eq _ ⟨id, objectType⟩, proxy?_putProxy_of_found found, Function.update_apply,
    w.held_eq ⟨id, objectType⟩]
  by_cases same : o.id = id
  · rw [if_pos same, if_pos same.symm]
    rfl
  · rw [if_neg same, if_neg (Ne.symm same)]

/-- A new proxy is an update of what proxies hold, at the next identity. -/
theorem held_createProxy (w : World) (state : ProxyState) :
    (w.createProxy state).2.held = Function.update w.held w.objects.size state.held := by
  funext id
  rw [held_eq _ ⟨id, objectType⟩, proxy?_createProxy_eq, Function.update_apply,
    w.held_eq ⟨id, objectType⟩]
  split <;> rfl

theorem held_size (w : World) : w.held w.objects.size = .null := by
  unfold held
  rw [Array.getElem?_eq_none (Nat.le_refl _)]

/-- Another target is refused, and nothing changes, or it is put in place. -/
theorem setTarget_cases (u : Universe) (w : World) (o : ObjectRef) (target : Option ObjectRef) :
    (∃ fault, w.setTarget u o target = (.error fault, w)) ∨
      ∃ state, w.proxy? o = some state ∧ state.proxyType.Takes u (.ofOption (target.map .object)) ∧
        w.setTarget u o target = (.ok (), w.putProxy o { state with target := target }) := by
  unfold setTarget
  cases found : w.proxy? o with
  | none => exact .inl ⟨_, rfl⟩
  | some state =>
      cases placed : state.setTarget u target with
      | error fault => exact .inl ⟨fault, by simp only [placed]⟩
      | ok changed =>
          obtain ⟨takes, rfl⟩ := ProxyState.setTarget_eq_ok_iff.mp placed
          exact .inr ⟨state, rfl, takes, by simp only [placed]⟩

end World

/-! ### Bodies of accessors -/

/-- What an accessor body does on an object: it fails and changes nothing, it returns what the
proxy holds, or it puts what it is given in place. -/
inductive Universe.Accesses (u : Universe) (w : World) (o : ObjectRef) (frame : Frame) :
    Accessor → Except Fault Value × World → Prop where
  | failed (which : Accessor) (fault : Fault) : Accesses u w o frame which (.error fault, w)
  | read {state : ProxyState} (found : w.proxy? o = some state) :
      Accesses u w o frame .get (.ok state.held, w)
  | wrote {state : ProxyState} {v : Value} (found : w.proxy? o = some state)
      (argument : frame.argument 0 = .ok v) (takes : state.proxyType.Takes u v) :
      Accesses u w o frame .set (.ok .void, w.putProxy o { state with target := v.object? })

namespace Universe

variable {u : Universe} {w : World} {o : ObjectRef} {frame : Frame} {state : ProxyState}

private theorem runAccessor_get (found : w.proxy? o = some state) :
    u.runAccessor o .get frame w = (.ok state.held, w) := by
  simp only [runAccessor, found]
  rfl

/-- Setting a target that the type takes changes the state of that proxy, and answers with nothing.
-/
private theorem runAccessor_set_taken {v : Value} (found : w.proxy? o = some state)
    (argument : frame.argument 0 = .ok v) (takes : state.proxyType.Takes u v) :
    u.runAccessor o .set frame w =
      (.ok .void, w.putProxy o { state with target := v.object? }) := by
  cases takes with
  | null => simp [runAccessor, found, argument, World.setTarget, ProxyState.setTarget,
      Value.object?, Except.map]
  | object assignable => simp [runAccessor, found, argument, World.setTarget,
      ProxyState.setTarget, assignable, Value.object?, Except.map]

/-- Setting a target that the type does not take fails and changes nothing. -/
private theorem runAccessor_set_refused {v : Value} (found : w.proxy? o = some state)
    (argument : frame.argument 0 = .ok v) (refused : ¬ state.proxyType.Takes u v) :
    ∃ fault, u.runAccessor o .set frame w = (.error fault, w) := by
  cases v with
  | null => exact absurd .null refused
  | object target =>
      have unassignable : u.isAssignable target.type state.proxyType.primary ≠ true :=
        fun assignable => refused (.object assignable)
      simp [runAccessor, found, argument, World.setTarget, ProxyState.setTarget, unassignable,
        Except.map]
  | _ => simp [runAccessor, found, argument]

/-- An accessor body reads what the proxy holds, sets it to what the type takes, or fails and
changes nothing; there is no fourth way. -/
theorem accesses_runAccessor (u : Universe) (w : World) (o : ObjectRef) (frame : Frame)
    (which : Accessor) : u.Accesses w o frame which (u.runAccessor o which frame w) := by
  cases found : w.proxy? o with
  | none =>
      have failed : u.runAccessor o which frame w = (.error (World.notProxy o), w) := by
        simp only [runAccessor, found]
      rw [failed]
      exact .failed which _
  | some state =>
      cases which with
      | get =>
          rw [runAccessor_get found]
          exact .read found
      | set =>
          cases argument : frame.argument 0 with
          | error fault =>
              have failed : u.runAccessor o .set frame w = (.error fault, w) := by
                simp only [runAccessor, found, argument]
              rw [failed]
              exact .failed .set fault
          | ok v =>
              by_cases takes : state.proxyType.Takes u v
              · rw [runAccessor_set_taken found argument takes]
                exact .wrote found argument takes
              · obtain ⟨fault, failed⟩ := runAccessor_set_refused found argument takes
                rw [failed]
                exact .failed .set fault

end Universe

/-! ### Accessors of proxies through thunks -/

namespace Universe

/-- The predefined types are there in every universe. -/
private theorem extends_initial (u : Universe) : initial.Extends u where
  size_le := u.proxyCapability_lt_size
  declaration_eq := by
    intro id defined
    match id with
    | 0 => exact congrArg (·.getD undefined) u.objectType_declared
    | 1 => exact congrArg (·.getD undefined) u.proxyCapability_declared
    | further + 2 => exact absurd defined (Nat.not_lt.mpr (Nat.le_add_left 2 further))

private theorem parent_accessorSlot (which : Accessor) :
    (Universal.accessorSlot which).parent = proxyCapability := by
  cases which <;> rfl

/-- The accessors have in every universe the signatures that they are predefined with. -/
private theorem signature_accessorSlot (u : Universe) (which : Accessor) :
    u.signature (Universal.accessorSlot which) =
      initial.signature (Universal.accessorSlot which) := by
  apply u.extends_initial.signature_eq
  rw [parent_accessorSlot]
  exact initial.proxyCapability_lt_size

/-- The accessors have supported signatures, so their thunks are there. -/
theorem compile_accessor (u : Universe) (which : Accessor) :
    u.compile (Universal.accessorSlot which).toMethod =
      .ok (.assemble u (Universal.accessorSlot which).toMethod) := by
  have compiled : initial.compile (Universal.accessorSlot which).toMethod =
      .ok (.assemble initial (Universal.accessorSlot which).toMethod) := by
    cases which <;> rfl
  have kept := u.extends_initial.compile_of_ok compiled
  rw [kept, u.eq_assemble_of_compile kept]

/-- Proxies can be used as what they all are capable of. -/
theorem Built.isAssignable_proxyCapability {u : Universe} {proxyType : ProxyType}
    (built : u.Built proxyType) : u.isAssignable proxyType.type proxyCapability = true := by
  obtain ⟨before, factoryId, descriptor, members, declaration, assembly, rfl, extended, defined⟩ :=
    built.exists_assembly
  have listed : proxyCapability ∈ (before.define declaration).interfaces before.size := by
    rw [interfaces, assembly.declaration_eq]
    exact (assembly.interfaces _).mpr (.inr (.inr rfl))
  have isInterface : (before.define declaration).isInterface proxyCapability = true := by
    rw [(before.define declaration).extends_initial.isInterface_eq initial.proxyCapability_lt_size]
    rfl
  have found : proxyCapability ∈ (before.define declaration).allInterfaces before.size :=
    mem_allInterfaces _ |>.mpr ⟨_, mem_chain_self _ _, _, listed, .refl⟩
  rw [extended.isAssignable_eq defined]
  exact (isAssignable_iff _).mpr (.inr (.inr ⟨isInterface, found⟩))

/-- The accessors of a proxy are bodies that read or write its target. -/
theorem Built.require_accessor {u : Universe} {proxyType : ProxyType}
    (built : u.Built proxyType) (which : Accessor) :
    u.require proxyType.type (Universal.accessorSlot which).toMethod = .ok (.accessor which) := by
  obtain ⟨before, factoryId, descriptor, members, declaration, assembly, rfl, extended, defined⟩ :=
    built.exists_assembly
  have other : (Universal.accessorSlot which).parent ≠ before.size := by
    rw [parent_accessorSlot]
    exact Nat.ne_of_lt before.proxyCapability_lt_size
  apply u.require_of_find?
  rw [extended.find?_methodTable _ defined]
  exact (find?_methodTable_inherited _ other).trans (by rw [assembly.explicitBody_accessor]; rfl)

private theorem parameters_getter (u : Universe) :
    u.parameters (Universal.accessorSlot .get).toMethod = [] :=
  congrArg (·.parameters) (u.signature_accessorSlot .get)

private theorem parameters_setter (u : Universe) :
    u.parameters (Universal.accessorSlot .set).toMethod = [⟨"value", .object, .input⟩] :=
  congrArg (·.parameters) (u.signature_accessorSlot .set)

private theorem intercepted_getter (u : Universe) (state : ProxyState) :
    u.intercepted (Universal.accessorSlot .get).toMethod state.held = .ok state.held := by
  have returns : u.returnType (Universal.accessorSlot .get).toMethod = .object :=
    congrArg (·.returns.concrete []) (u.signature_accessorSlot .get)
  rw [intercepted, returns]
  obtain ⟨proxyType, _ | target, interceptor⟩ := state <;> rfl

private theorem intercepted_setter (u : Universe) (v : Value) :
    u.intercepted (Universal.accessorSlot .set).toMethod v = .ok .void := by
  have returns : u.returnType (Universal.accessorSlot .set).toMethod = .void :=
    congrArg (·.returns.concrete []) (u.signature_accessorSlot .set)
  rw [intercepted, returns]
  rfl

namespace Built

variable {u : Universe} {proxyType : ProxyType} (built : u.Built proxyType) {o : ObjectRef}
  (ofType : o.type = proxyType.type) {w : World} {state : ProxyState}
  (found : w.proxy? o = some state)

include built ofType

/-- A call of an accessor on a proxy runs its body on the values that the thunk admits. -/
private theorem invoke_accessor (which : Accessor) (depth : Nat) {arguments : List Value}
    (sameLength :
      arguments.length = (u.parameters (Universal.accessorSlot which).toMethod).length) :
    (Thunk.assemble u (Universal.accessorSlot which).toMethod).invoke u
        (u.callVirtual (depth + 1)) o arguments w =
      match u.receiveAll (Universal.accessorSlot which).toMethod
          (u.parameters (Universal.accessorSlot which).toMethod) arguments with
      | .error fault => some (⟨.error fault, arguments⟩, w)
      | .ok values =>
          let frame :=
            Frame.layOut (u.parameters (Universal.accessorSlot which).toMethod) values []
          Thunk.finish u (Universal.accessorSlot which).toMethod arguments
            (some ((u.runAccessor o which frame w).1, frame,
              (u.runAccessor o which frame w).2)) := by
  have assignable :
      u.isAssignable o.type (Universal.accessorSlot which).toMethod.parent = true := by
    have home : (Universal.accessorSlot which).toMethod.parent = proxyCapability :=
      parent_accessorSlot which
    rw [ofType, home]
    exact built.isAssignable_proxyCapability
  rw [Thunk.invoke_callVirtual, if_pos sameLength, if_pos assignable]
  simp only [callVirtual, dispatch, ofType, built.require_accessor which, runBody]
  rfl

include found

theorem invoke_getter (depth : Nat) :
    (Thunk.assemble u (Universal.accessorSlot .get).toMethod).invoke u
        (u.callVirtual (depth + 1)) o [] w = some (⟨.ok state.held, []⟩, w) := by
  have noParameters := u.parameters_getter
  rw [built.invoke_accessor ofType .get depth (by rw [noParameters]; rfl), noParameters]
  simp only [receiveAll, runAccessor_get found, Thunk.finish, Thunk.deliver, intercepted_getter,
    noParameters, Frame.written]

/-- A call of the setter with a target that the type takes. -/
private theorem invoke_setter_taken (depth : Nat) {v : Value} (takes : state.proxyType.Takes u v) :
    (Thunk.assemble u (Universal.accessorSlot .set).toMethod).invoke u
        (u.callVirtual (depth + 1)) o [v] w =
      some (⟨.ok .void, [v]⟩, w.putProxy o { state with target := v.object? }) := by
  have oneParameter := u.parameters_setter
  have argument : (Frame.layOut [⟨"value", .object, .input⟩] [v] []).argument 0 = .ok v := rfl
  have received : u.receiveAll (Universal.accessorSlot .set).toMethod
      [⟨"value", .object, .input⟩] [v] = .ok [v] := by
    cases takes <;> rfl
  rw [built.invoke_accessor ofType .set depth (by rw [oneParameter]; rfl), oneParameter, received]
  simp only [runAccessor_set_taken found argument takes, Thunk.finish, Thunk.deliver,
    intercepted_setter, oneParameter]
  rfl

/-- The thunk of the setter refuses `void`, and its body whatever else the proxy does not take. -/
private theorem invoke_setter_refused (depth : Nat) {v : Value}
    (refused : ¬ state.proxyType.Takes u v) :
    ∃ fault, (Thunk.assemble u (Universal.accessorSlot .set).toMethod).invoke u
        (u.callVirtual (depth + 1)) o [v] w = some (⟨.error fault, [v]⟩, w) := by
  have oneParameter := u.parameters_setter
  have argument : (Frame.layOut [⟨"value", .object, .input⟩] [v] []).argument 0 = .ok v := rfl
  rw [built.invoke_accessor ofType .set depth (by rw [oneParameter]; rfl), oneParameter]
  cases received : u.receiveAll (Universal.accessorSlot .set).toMethod
      [⟨"value", .object, .input⟩] [v] with
  | error fault => exact ⟨fault, rfl⟩
  | ok values =>
      obtain rfl : values = [v] := by
        obtain ⟨value, rest, accepted, others, rfl⟩ := u.receiveAll_cons_ok received
        obtain ⟨_, rfl⟩ := (u.narrow_eq_ok_iff _ _ _).mp accepted
        obtain rfl := Except.ok.inj others
        rfl
      obtain ⟨fault, failed⟩ := runAccessor_set_refused found argument refused
      exact ⟨fault, by simp only [failed, Thunk.finish]⟩

end Built

end Universe

namespace Session

variable {s : Session} (sound : s.Sound) {o : ObjectRef} {state : ProxyState}
  (found : s.world.proxy? o = some state) (ofType : o.type = state.proxyType.type)

include sound

/-- A factory finds the thunk of an accessor. -/
theorem exists_invoke_accessor (which : Accessor) (depth : Nat) (factory : FactoryId)
    (o : ObjectRef) (arguments : List Value) :
    ∃ w, (∀ other, w.proxy? other = s.world.proxy? other) ∧
      s.invoke depth factory (Universal.accessorSlot which).toMethod o arguments =
        ((Thunk.assemble s.types (Universal.accessorSlot which).toMethod).invoke s.types
          (s.types.callVirtual depth) o arguments w).map
            fun (outcome, after) => (outcome, { s with world := after }) := by
  have fresh := (Factory.evolves_getOrCompile (sound.coherent factory)
    (Universal.accessorSlot which).toMethod).1
  rw [s.types.compile_accessor which] at fresh
  refine ⟨(s.world.onFactory factory
    (·.getOrCompile s.types (Universal.accessorSlot which).toMethod)).2, World.proxy?_eq rfl, ?_⟩
  unfold invoke running
  rw [Universe.invokeThrough, Universe.invokeVia_ok s.types _ fresh]

include found ofType

/-- Reading the target of a proxy returns what it holds. -/
theorem invoke_getter (depth : Nat) (factory : FactoryId) :
    ∃ after, s.invoke (depth + 1) factory (Universal.accessorSlot .get).toMethod o [] =
        some (⟨.ok state.held, []⟩, after) ∧
      after.world.held = s.world.held := by
  obtain ⟨w, same, ran⟩ := exists_invoke_accessor sound .get (depth + 1) factory o []
  have built := sound.proxies o state found
  rw [built.invoke_getter ofType ((same o).trans found)] at ran
  exact ⟨_, ran, World.held_congr same⟩

/-- Writing the target of a proxy puts in place what the proxy takes.  It fails for anything
else, and nothing that is held changes. -/
theorem invoke_setter (depth : Nat) (factory : FactoryId) (v : Value) :
    ∃ outcome after, s.invoke (depth + 1) factory (Universal.accessorSlot .set).toMethod o [v] =
        some (outcome, after) ∧
      ((state.proxyType.Takes s.types v ∧ outcome.result = .ok .void ∧
          after.world.held = Function.update s.world.held o.id v) ∨
        (¬ state.proxyType.Takes s.types v ∧ (∃ fault, outcome.result = .error fault) ∧
          after.world.held = s.world.held)) := by
  obtain ⟨w, same, ran⟩ := exists_invoke_accessor sound .set (depth + 1) factory o [v]
  have built := sound.proxies o state found
  have foundThen := (same o).trans found
  by_cases takes : state.proxyType.Takes s.types v
  · rw [built.invoke_setter_taken ofType foundThen depth takes] at ran
    refine ⟨_, _, ran, .inl ⟨takes, rfl, ?_⟩⟩
    rw [World.held_putProxy foundThen, World.held_congr same, takes.held_put]
  · obtain ⟨fault, refused⟩ := built.invoke_setter_refused ofType foundThen depth takes
    rw [refused] at ran
    exact ⟨_, _, ran, .inr ⟨takes, ⟨fault, rfl⟩, World.held_congr same⟩⟩

end Session

end Interpose
