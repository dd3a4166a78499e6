/-
Module: Interpose.Proofs.Specializations
Purpose: Every list of type arguments has a specialization of its own, and a generic call that is
  intercepted proceeds with the one for the type arguments that it was made with.
Main exports: Universe.typedCall, Interception.Proceeds, Session.Specializes,
  Session.ProceedsClosed, Session.specializations_never_mixed
-/
import Interpose.Proofs.DirectCalls
import Interpose.Proofs.FactoryHistories
import Interpose.Proofs.Transparency

namespace Interpose

namespace Universe

/-- A generic definition is closed over as many type arguments as it takes, and nothing else can be
closed. -/
theorem makeGeneric_eq_ok_iff (u : Universe) {method closed : Method}
    {arguments : List RuntimeType} :
    u.makeGeneric method arguments = .ok closed ↔
      (arguments.length = (u.signature method.slot).arity ∧
        (u.signature method.slot).arity ≠ 0) ∧ closed = ⟨method.slot, arguments⟩ := by
  unfold makeGeneric
  simp only []
  split
  · rename_i refused
    constructor
    · intro impossible
      cases impossible
    · rintro ⟨⟨right, generic⟩, _⟩
      rcases refused with plain | wrong
      · exact absurd plain generic
      · exact absurd right wrong
  · rename_i taken
    rw [not_or, not_not] at taken
    constructor
    · intro made
      exact ⟨⟨taken.2, taken.1⟩, (Except.ok.inj made).symm⟩
    · rintro ⟨_, rfl⟩
      rfl

/-! ### Calls that the types of a method decide -/

/-- A call of a method by its types alone.  It is refused if the method does not compile or if
the arguments do not fit the parameters.  Else the method is called on what was admitted, its
result is narrowed to the return type, and the by-reference arguments are written back. -/
def typedCall (u : Universe) (call : VirtualCall) (method : Method) (on : ObjectRef)
    (arguments : List Value) (w : World) : Option (CallResult × World) :=
  match u.compile method with
  | .error fault => some (⟨.error fault, arguments⟩, w)
  | .ok _ =>
  match u.admission method on arguments with
  | .error fault => some (⟨.error fault, arguments⟩, w)
  | .ok values => Thunk.finish u method arguments (call on method (u.entry method values) w)

/-- The thunk of a method calls it by its types. -/
theorem invoke_eq_typedCall (u : Universe) {method : Method} {thunk : Thunk}
    (compiled : u.compile method = .ok thunk) (depth : Nat) (on : ObjectRef)
    (arguments : List Value) (w : World) :
    thunk.invoke u (u.callVirtual depth) on arguments w =
      u.typedCall (u.callVirtual depth) method on arguments w := by
  obtain rfl := u.eq_assemble_of_compile compiled
  unfold typedCall
  rw [compiled, Thunk.invoke_callVirtual, admission_eq]
  by_cases sameLength : arguments.length = (u.parameters method).length
  · by_cases assignable : u.isAssignable on.type method.parent = true
    · simp only [if_pos sameLength, if_pos assignable]
      cases received : u.receiveAll method (u.parameters method) arguments with
      | error fault => rfl
      | ok values =>
          simp only []
          rw [entry_eq_layOut (u.length_receiveAll sameLength received)]
    · simp only [if_pos sameLength, if_neg assignable]
  · simp only [if_neg sameLength]

/-- An entry calls its method by its types. -/
theorem invokeEntry_eq_typedCall (u : Universe) {w : World} {factory : FactoryId}
    (coherent : (w.factory factory).Coherent u) {entry : EntryId} {method : Method}
    (denotes : ((w.factory factory).entry entry).method = method) (depth : Nat) (on : ObjectRef)
    (arguments : List Value) :
    u.invokeEntry (u.callVirtual depth) factory entry on arguments w =
      u.typedCall (u.callVirtual depth) method on arguments
        (w.onFactory factory (·.entryThunk u entry)).2 := by
  have found := (Factory.evolves_entryThunk coherent entry).1
  rw [denotes] at found
  unfold invokeEntry
  cases compiled : u.compile method with
  | error fault =>
      rw [compiled] at found
      rw [u.invokeVia_error _ found, typedCall, compiled]
  | ok thunk =>
      rw [compiled] at found
      rw [u.invokeVia_ok _ found, u.invoke_eq_typedCall compiled]

end Universe

/-! ### Specializations of one cache -/

namespace Factory

variable {u : Universe} {f : Factory} {cache : CacheId} {arguments : List RuntimeType}
  {specialization : Specialization}

/-- A specialization that was asked for is in its cache. -/
private theorem find?_specialize (known : cache < f.specializationCaches.size)
    (made : (f.specialize u cache arguments).1 = .ok specialization) :
    ((f.specialize u cache arguments).2.specializationCache cache).specializations.find? arguments =
      some specialization := by
  cases found : (f.specializationCache cache).specializations.find? arguments with
  | some older =>
      rw [specialize_of_some found] at made ⊢
      obtain rfl := Except.ok.inj made
      exact found
  | none =>
      cases closed : u.makeGeneric (f.specializationCache cache).slot.toMethod arguments with
      | error fault =>
          rw [specialize_of_error found closed] at made
          cases made
      | ok method =>
          rw [specialize_of_ok found closed] at made ⊢
          obtain rfl := Except.ok.inj made
          have stored := specializationCache_store f cache cache arguments
            ⟨arguments, method, f.entries.size⟩
          have same : (f.addSpecialization cache arguments method).specializationCache cache = _ :=
            stored
          rw [same, if_pos ⟨rfl, known⟩]
          exact Table.find?_insert_self _ _ _

private theorem specialize_of_find?
    (found : (f.specializationCache cache).specializations.find? arguments = some specialization)
    (u : Universe) : (f.specialize u cache arguments).1 = .ok specialization := by
  rw [specialize_of_some found]

/-- Type arguments that are turned down leave the factory as it was. -/
private theorem specialize_rejected {fault : Fault}
    (rejected : (f.specialize u cache arguments).1 = .error fault) :
    (f.specialize u cache arguments).2 = f := by
  cases found : (f.specializationCache cache).specializations.find? arguments with
  | some older =>
      rw [specialize_of_some found] at rejected
      cases rejected
  | none =>
      cases closed : u.makeGeneric (f.specializationCache cache).slot.toMethod arguments with
      | error fault => rw [specialize_of_error found closed]
      | ok method =>
          rw [specialize_of_ok found closed] at rejected
          cases rejected

private theorem lt_of_find?_specializations
    (found : (f.specializationCache cache).specializations.find? arguments =
      some specialization) : cache < f.specializationCaches.size := by
  by_contra absent
  rw [f.specializationCache_of_size_le (Nat.le_of_not_lt absent)] at found
  cases found

theorem Coherent.method_eq (coherent : f.Coherent u)
    (found : (f.specializationCache cache).specializations.find? arguments =
      some specialization) :
    specialization.method = ⟨(f.specializationCache cache).slot, arguments⟩ :=
  (u.makeGeneric_eq_ok_iff.mp (coherent.specialized cache arguments specialization found).1).2

/-- Different type arguments have specializations with different entries. -/
private theorem Coherent.eq_of_entry (coherent : f.Coherent u) {others : List RuntimeType}
    {other : Specialization}
    (found : (f.specializationCache cache).specializations.find? arguments = some specialization)
    (foundOther : (f.specializationCache cache).specializations.find? others = some other)
    (same : other.entry = specialization.entry) : others = arguments := by
  obtain ⟨_, _, _, denotes⟩ := coherent.specialized cache arguments specialization found
  obtain ⟨_, _, _, denotesOther⟩ := coherent.specialized cache others other foundOther
  have sameMethod : other.method = specialization.method := by
    rw [← denotes, ← denotesOther, same]
  rw [coherent.method_eq found, coherent.method_eq foundOther] at sameMethod
  exact (Method.mk.inj sameMethod).2

end Factory

/-! ### Intercepted calls and what they proceed with -/

/-- An intercepted call is one of a method, and so is the entry that it proceeds with. -/
structure Interception.Proceeds (w : World) (method : Method) (context : Interception) :
    Prop where
  same : context.method = method
  known : context.entry < (w.factory context.factory).entries.size
  denotes : ((w.factory context.factory).entry context.entry).method = method

/-- A call goes on proceeding with its method while factories add to what they hold. -/
theorem Interception.Proceeds.grow {w later : World} {method : Method} {context : Interception}
    (proceeds : context.Proceeds w method) (grows : w.Grows later) :
    context.Proceeds later method := by
  have growsFactory := grows.factories context.factory
  refine ⟨proceeds.same, Nat.lt_of_lt_of_le proceeds.known growsFactory.entries, ?_⟩
  rw [growsFactory.methods _ proceeds.known]
  exact proceeds.denotes

namespace Universe

variable {u : Universe}

/-- No interceptor changes what its call is a call of. -/
theorem identity_serveHook {call : VirtualCall} {request : HookRequest}
    {state after : Interception × World} {reply : request.Reply}
    (served : u.serveHook call request state = some (reply, after)) :
    after.1.method = state.1.method ∧ after.1.factory = state.1.factory ∧
      after.1.entry = state.1.entry := by
  obtain ⟨context, w⟩ := state
  cases request with
  | world request =>
      simp only [serveHook] at served
      split at served
      · cases served
      · obtain ⟨_, rfl⟩ := Prod.mk.inj (Option.some.inj served)
        exact ⟨rfl, rfl, rfl⟩
  | setSlot index v =>
      simp only [serveHook] at served
      split at served <;>
      · obtain ⟨_, rfl⟩ := Prod.mk.inj (Option.some.inj served)
        exact ⟨rfl, rfl, rfl⟩
  | proceed =>
      simp only [serveHook] at served
      split at served
      · obtain ⟨_, rfl⟩ := Prod.mk.inj (Option.some.inj served)
        exact ⟨rfl, rfl, rfl⟩
      · split at served
        · cases served
        · obtain ⟨_, rfl⟩ := Prod.mk.inj (Option.some.inj served)
          exact ⟨rfl, rfl, rfl⟩
  | proceedWith on arguments =>
      simp only [serveHook] at served
      split at served
      · cases served
      · obtain ⟨_, rfl⟩ := Prod.mk.inj (Option.some.inj served)
        exact ⟨rfl, rfl, rfl⟩
  | _ =>
      obtain ⟨_, rfl⟩ := Prod.mk.inj (Option.some.inj served)
      exact ⟨rfl, rfl, rfl⟩

/-- In every state that an interceptor passes through its call proceeds as at first. -/
private theorem proceeds_visited {depth : Nat} {interceptor : Interceptor} {method : Method}
    {start visited : Interception × World}
    (visits : interceptor.Visits (u.serveHook (u.callVirtual depth)) start visited)
    (alike : start.2.Alike u start.2) (proceeds : start.1.Proceeds start.2 method) :
    visited.2.Alike u visited.2 ∧ visited.1.Proceeds visited.2 method := by
  have kept : ∀ request (state : Interception × World) reply after,
      (state.2.Alike u state.2 ∧ state.1.Proceeds state.2 method) →
      u.serveHook (u.callVirtual depth) request state = some (reply, after) →
      after.2.Alike u after.2 ∧ after.1.Proceeds after.2 method := by
    rintro request state reply after ⟨alike, proceeds⟩ served
    have contexts : (World.progress u).Contexts state.2 state.2 state.1 state.1 :=
      ⟨⟨rfl, rfl, rfl, rfl, proceeds.known, proceeds.known, rfl⟩, rfl⟩
    have side := World.Simulation.rel_serveHook ((World.progress u).respects_callVirtual depth)
      request state state ⟨contexts, rfl, rfl, .refl alike⟩
    rw [served] at side
    obtain ⟨_, _, _, _, progresses⟩ := Option.rel_some_some.mp side
    obtain ⟨sameMethod, sameFactory, sameEntry⟩ := identity_serveHook served
    obtain ⟨same, known, denotes⟩ := proceeds.grow progresses.grows
    rw [← sameFactory, ← sameEntry] at known denotes
    exact ⟨progresses.alike, sameMethod.trans same, known, denotes⟩
  exact Program.kept_of_visits kept visits ⟨alike, proceeds⟩

/-- An interceptor of a generic method is consulted only on a call with the right number of
type arguments, and then the call proceeds with the method closed over these. -/
theorem proceeds_consult {w after : World} (alike : w.Alike u w) {o : ObjectRef} {carried : Slot}
    {dispatch : Dispatch} {factory : FactoryId} (generic : u.isGeneric carried = true)
    (linked : dispatch.Linked u (w.factory factory) carried) {frame : Frame}
    {interceptor : Interceptor} {context : Interception}
    (consulted : u.consult o carried dispatch factory frame w =
      (.ok (interceptor, context), after)) :
    frame.generics.length = (u.signature carried).arity ∧ after.Alike u after ∧
      context.Proceeds after ⟨carried, frame.generics⟩ := by
  obtain ⟨_, between, _, _, _, sameFactory, selected, _, rfl⟩ := u.consult_ok consulted
  -- The call comes with as many type arguments as the definition takes, or there would be no
  -- specialization to proceed with.
  have closed : frame.generics.length = (u.signature carried).arity := by
    cases dispatch with
    | direct entry =>
        have plain : u.isGeneric carried = false := linked.1
        rw [plain] at generic
        cases generic
    | generic cache =>
        obtain ⟨_, _, sameSlot⟩ := linked
        have made := (Factory.evolves_specialize (alike.coherent factory) cache frame.generics).1
        have first : (w.onFactory factory fun f => f.specialize u cache frame.generics).1 =
            ((w.factory factory).specialize u cache frame.generics).1 := rfl
        rw [← first, sameSlot] at made
        simp only [selectProceed] at selected
        generalize (w.onFactory factory fun f => f.specialize u cache frame.generics) = outcome
          at selected made
        obtain ⟨result, further⟩ := outcome
        cases result with
        | error fault => cases selected
        | ok specialization => exact (u.makeGeneric_eq_ok_iff.mp made.symm).1.1
  obtain ⟨entry, chosen, same, known, denotes, parallel⟩ :=
    exists_selectProceed alike linked closed
  obtain ⟨chosenMethod, rfl⟩ := Prod.mk.inj (selected.symm.trans same)
  obtain ⟨sameMethod, sameEntry⟩ := Prod.mk.inj (Except.ok.inj chosenMethod)
  have selectedProceeds : context.Proceeds between ⟨carried, frame.generics⟩ := by
    rw [← sameEntry, ← sameFactory] at known denotes
    exact ⟨sameMethod, known, denotes⟩
  have counted := Factory.evolves_countIntercepted (parallel.alike.coherentOther factory)
  obtain ⟨⟨_, _, progresses⟩, _⟩ := (World.progress u).rel_consult o carried frame
    ⟨rfl, alike⟩ (Dispatch.Linked.alike linked)
  rw [consulted] at progresses
  exact ⟨closed, progresses.alike, selectedProceeds.grow (World.grows_putFactory counted)⟩

end Universe

namespace Session

/-- What a specialization cache makes of a list of type arguments. -/
structure Specializes (s : Session) (id : FactoryId) (cache : CacheId)
    (arguments : List RuntimeType) : Prop where
  succeeds : (∃ specialization, ((s.world.factory id).specialize s.types cache arguments).1 =
      .ok specialization) ↔
    arguments.length =
        (s.types.signature ((s.world.factory id).specializationCache cache).slot).arity ∧
      (s.types.signature ((s.world.factory id).specializationCache cache).slot).arity ≠ 0
  /-- The method of the specialization, and of its entry, is the definition closed over the
  type arguments. -/
  closed : ∀ specialization, ((s.world.factory id).specialize s.types cache arguments).1 =
      .ok specialization →
    specialization.typeArguments = arguments ∧
      s.types.makeGeneric ((s.world.factory id).specializationCache cache).slot.toMethod arguments =
        .ok specialization.method ∧
      specialization.method = ⟨((s.world.factory id).specializationCache cache).slot, arguments⟩ ∧
      (((s.world.factory id).specialize s.types cache arguments).2.entry
        specialization.entry).method = specialization.method
  /-- A request that fails leaves no trace. -/
  rejected : ∀ fault, ((s.world.factory id).specialize s.types cache arguments).1 = .error fault →
    ((s.world.factory id).specialize s.types cache arguments).2 = s.world.factory id
  /-- From then on equal type arguments lead to this specialization, and others to one with
  another entry. -/
  lasting : ∀ specialization, ((s.world.factory id).specialize s.types cache arguments).1 =
      .ok specialization →
    ∀ later : Session, (s.onFactory id (·.specialize s.types cache arguments)).2.Leads later →
      ((later.world.factory id).specialize later.types cache arguments).1 = .ok specialization ∧
      ∀ others other, ((later.world.factory id).specialize later.types cache others).1 =
          .ok other → (other.entry = specialization.entry ↔ others = arguments)

/-- The calls that an intercepted body makes of a generic method.  Whenever its interceptor is
consulted, the number of type arguments is right.  All the time that it runs the method is the
one closed over them, and whatever it proceeds with is called by the types that they determine. -/
def ProceedsClosed (s : Session) (carried : Slot) (dispatch : Dispatch) (factory : FactoryId) :
    Prop :=
  ∀ o frame interceptor context w,
    s.types.consult o carried dispatch factory frame s.world = (.ok (interceptor, context), w) →
    frame.generics.length = (s.types.signature carried).arity ∧
    ∀ depth visited,
      interceptor.Visits (s.types.serveHook (s.types.callVirtual depth)) (context, w) visited →
      visited.1.method = ⟨carried, frame.generics⟩ ∧
      ∀ on arguments,
        s.types.invokeEntry (s.types.callVirtual depth) visited.1.factory visited.1.entry on
            arguments visited.2 =
          s.types.typedCall (s.types.callVirtual depth) ⟨carried, frame.generics⟩ on arguments
            (visited.2.onFactory visited.1.factory (·.entryThunk s.types visited.1.entry)).2

section Sound

variable {s : Session} (sound : s.Sound)

include sound

/-- In a sound session a cache gives for type arguments the closed method, the same one ever after,
and a different one for different type arguments. -/
theorem specializes {id : FactoryId} (known : id < s.world.factories.size) {cache : CacheId}
    (there : cache < (s.world.factory id).specializationCaches.size)
    (arguments : List RuntimeType) : s.Specializes id cache arguments := by
  have coherent := sound.coherent id
  obtain ⟨made, evolved, _⟩ := Factory.evolves_specialize coherent cache arguments
  have stays := evolved.grows.slots cache there
  refine ⟨?_, ?_, fun _ rejected => Factory.specialize_rejected rejected, ?_⟩
  · constructor
    · rintro ⟨specialization, given⟩
      rw [given] at made
      exact (s.types.makeGeneric_eq_ok_iff.mp made.symm).1
    · intro right
      have closed : s.types.makeGeneric
          ((s.world.factory id).specializationCache cache).slot.toMethod arguments =
            .ok ⟨((s.world.factory id).specializationCache cache).slot, arguments⟩ :=
        s.types.makeGeneric_eq_ok_iff.mpr ⟨right, rfl⟩
      generalize ((s.world.factory id).specialize s.types cache arguments).1 = given at made
      cases given with
      | error fault => cases made.trans closed
      | ok specialization => exact ⟨specialization, rfl⟩
  · intro specialization given
    have found := Factory.find?_specialize there given
    obtain ⟨closed, same, _, denotes⟩ := evolved.coherent.specialized cache arguments _ found
    have method := evolved.coherent.method_eq found
    rw [stays] at closed method
    exact ⟨same, closed, method, denotes⟩
  · intro specialization given later leads
    -- What the cache holds it goes on holding, so the later request is a hit.
    have becomes := sound.becomes_after known evolved leads
    have found := (Factory.retains_of_becomes becomes).specializations cache arguments _
      (Factory.find?_specialize there given)
    refine ⟨Factory.specialize_of_find? found later.types, ?_⟩
    intro others other givenOther
    constructor
    · intro same
      have coherentLater := ((sound.onFactory evolved).leads leads).coherent id
      have evolvedLater := (Factory.evolves_specialize coherentLater cache others).2.1
      have further := Factory.retains_of_becomes
        (Factory.becomes_specialize later.types cache others (later.world.factory id))
      have thereLater := Factory.lt_of_find?_specializations found
      exact evolvedLater.coherent.eq_of_entry (further.specializations cache arguments _ found)
        (Factory.find?_specialize thereLater givenOther) same
    · rintro rfl
      rw [Factory.specialize_of_find? found later.types] at givenOther
      rw [Except.ok.inj givenOther]

/-- An intercepted body of a generic method proceeds with the method closed over the type arguments
of its call. -/
theorem proceedsClosed {carried : Slot} {dispatch : Dispatch} {factory : FactoryId}
    (generic : s.types.isGeneric carried = true)
    (linked : dispatch.Linked s.types (s.world.factory factory) carried) :
    s.ProceedsClosed carried dispatch factory := by
  intro o frame interceptor context w consulted
  obtain ⟨closed, alike, proceeds⟩ :=
    Universe.proceeds_consult sound.alike generic linked consulted
  refine ⟨closed, ?_⟩
  intro depth visited visits
  obtain ⟨alikeVisited, same, _, denotes⟩ := Universe.proceeds_visited visits alike proceeds
  exact ⟨same, fun on arguments =>
    s.types.invokeEntry_eq_typedCall (alikeVisited.coherent _) denotes depth on arguments⟩

end Sound

/-- Generic dispatch never mixes specializations, in any session that can come about.  A cache
leads each list of type arguments to one specialization, which is that of the method closed
over them, and keeps it.  An interceptor of a generic method is told of the method closed over
the type arguments of the call, and proceeds with that method. -/
theorem specializations_never_mixed {s : Session} (occurs : s.Occurs) :
    (∀ id cache, id < s.world.factories.size →
      cache < (s.world.factory id).specializationCaches.size →
      ∀ arguments, s.Specializes id cache arguments) ∧
    ∀ proxyType slot carried dispatch factory, s.types.Built proxyType →
      (s.types.methodTable proxyType.type).find? slot =
        some (.intercepted carried dispatch factory) →
      s.types.isGeneric carried = true → s.ProceedsClosed carried dispatch factory := by
  have sound := sound_of_occurs occurs
  constructor
  · exact fun id cache known there arguments => specializes sound known there arguments
  · intro proxyType slot carried dispatch factory built held generic
    exact proceedsClosed sound generic (sound.carrier built held).2.1

/-- One object with a generic method, and a proxy that intercepts it. -/
def filling : Session :=
  let (target, created) := (initial.define box).2.create 2 "box"
  (created.createProxy 0 ⟨2, [], Universe.everything⟩ (some target) transparent).2

private theorem reachable_filling : Reachable filling := by
  have defined : Reachable (initial.define box).2 :=
    .step .initial (.define box (by decide) fun _ held => MethodBody.alike_of_mem_native held)
  have created := defined.step (.create 2 "box")
  exact created.step (.createProxy 0 _ _ transparent (by decide))

/-- A number and a text have specializations of their own, and a call with a number is
intercepted as one of the method for numbers. -/
theorem specializations_never_mixed_fill :
    (∃ specialization, ((filling.world.factory 0).specialize filling.types 0 [.int32]).1 =
        .ok specialization ∧ specialization.method = ⟨⟨2, 0⟩, [.int32]⟩ ∧
      ∀ other, (((filling.onFactory 0 (·.specialize filling.types 0 [.int32])).2.world.factory
          0).specialize filling.types 0 [.string]).1 = .ok other →
        other.entry ≠ specialization.entry) ∧
    ∃ interceptor context w,
      filling.types.consult ⟨1, 3⟩ ⟨2, 0⟩ (.generic 0) 0 ⟨[.address 0], [.int32 0], [.int32]⟩
        filling.world = (.ok (interceptor, context), w) ∧
      context.method = ⟨⟨2, 0⟩, [.int32]⟩ := by
  have known : 0 < filling.world.factories.size := by with_unfolding_all decide
  have there : 0 < (filling.world.factory 0).specializationCaches.size := by
    with_unfolding_all decide
  have stored : filling.world.proxy? ⟨1, 3⟩ =
      some ⟨⟨3, 2, [], Universe.everything⟩, some ⟨0, 2⟩, some transparent⟩ := by
    with_unfolding_all rfl
  have built := (sound_of_reachable reachable_filling).proxies _ _ stored
  have held : (filling.types.methodTable 3).find? ⟨2, 0⟩ =
      some (.intercepted ⟨2, 0⟩ (.generic 0) 0) := by with_unfolding_all rfl
  have generic : filling.types.isGeneric ⟨2, 0⟩ = true := by with_unfolding_all rfl
  obtain ⟨specializes, proceeds⟩ :=
    specializations_never_mixed (occurs_of_reachable reachable_filling)
  have numbers := specializes 0 0 known there [.int32]
  constructor
  · obtain ⟨specialization, given⟩ := numbers.succeeds.mpr ⟨by with_unfolding_all rfl,
      by with_unfolding_all decide⟩
    have ofFill : ((filling.world.factory 0).specializationCache 0).slot = ⟨2, 0⟩ := by
      with_unfolding_all rfl
    have closed := (numbers.closed specialization given).2.2.1
    rw [ofFill] at closed
    refine ⟨specialization, given, closed, ?_⟩
    intro other givenOther same
    have equal := ((numbers.lasting specialization given _ .refl).2 _ other givenOther).mp same
    cases equal
  · have consulted : ∃ interceptor context w,
        filling.types.consult ⟨1, 3⟩ ⟨2, 0⟩ (.generic 0) 0 ⟨[.address 0], [.int32 0], [.int32]⟩
          filling.world = (.ok (interceptor, context), w) :=
      ⟨transparent, _, _, by with_unfolding_all rfl⟩
    obtain ⟨interceptor, context, w, same⟩ := consulted
    have closed := proceeds _ ⟨2, 0⟩ ⟨2, 0⟩ _ _ built held generic _ _ _ _ _ same
    exact ⟨interceptor, context, w, same, (closed.2 0 _ (.start _ _)).1⟩

end Session

end Interpose
