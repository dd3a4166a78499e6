/-
Module: Interpose.Proofs.SimulatedRuns
Purpose: Relations of worlds that factory operations keep are kept by whole calls.
Main exports: World.Simulation, World.Simulation.Respects, World.Simulation.respects_callVirtual
-/
import Interpose.Proofs.ParallelWorlds
import Interpose.Proofs.Programs

namespace Interpose

/-- A relation of worlds that calls keep, with what a run of calls does to two related
worlds.  The worlds are alike at the least, and it is enough to say what the operations of
a factory do: everything else happens to both worlds in the same way. -/
structure World.Simulation (u : Universe) where
  /-- Two worlds side by side. -/
  related : World → World → Prop
  /-- Two worlds side by side, and two later ones that a run of both led to. -/
  carried : World → World → World → World → Prop
  /-- Two entries that take each other's place. -/
  matched : EntryId → EntryId → Prop
  alike : ∀ {w other}, related w other → w.Alike u other
  refl : ∀ {w other}, related w other → carried w other w other
  trans : ∀ {w other later laterOther further furtherOther}, carried w other later laterOther →
    carried later laterOther further furtherOther → carried w other further furtherOther
  after : ∀ {w other later laterOther}, carried w other later laterOther → related later laterOther
  grows : ∀ {w other later laterOther}, carried w other later laterOther →
    w.Grows later ∧ other.Grows laterOther
  same : ∀ entry, matched entry entry
  /-- The same change to everything but the factories. -/
  change : ∀ {w other later laterOther : World}, related w other →
    later.factories = w.factories → laterOther.factories = other.factories →
    later.objects = laterOther.objects → later.scope = laterOther.scope →
    later.journal = laterOther.journal →
    (∀ o after, later.proxy? o = some after →
      ∃ before, w.proxy? o = some before ∧ before.proxyType = after.proxyType) →
    carried w other later laterOther
  intercepted : ∀ {w other}, related w other → ∀ factory,
    carried w other (w.onFactory factory fun f => ((), f.countIntercepted)).2
      (other.onFactory factory fun f => ((), f.countIntercepted)).2
  passedThrough : ∀ {w other}, related w other → ∀ factory,
    carried w other (w.onFactory factory fun f => ((), f.countPassThrough)).2
      (other.onFactory factory fun f => ((), f.countPassThrough)).2
  compiled : ∀ {w other}, related w other → ∀ factory method,
    carried w other (w.onFactory factory (·.getOrCompile u method)).2
      (other.onFactory factory (·.getOrCompile u method)).2
  /-- Entries of one method that take each other's place. -/
  opened : ∀ {w other}, related w other → ∀ factory entry entryOther,
    entry < (w.factory factory).entries.size →
    entryOther < (other.factory factory).entries.size →
    ((w.factory factory).entry entry).method = ((other.factory factory).entry entryOther).method →
    matched entry entryOther →
    carried w other (w.onFactory factory (·.entryThunk u entry)).2
      (other.onFactory factory (·.entryThunk u entryOther)).2
  /-- Caches of one definition. -/
  specialized : ∀ {w other}, related w other → ∀ factory cache arguments,
    cache < (w.factory factory).specializationCaches.size →
    cache < (other.factory factory).specializationCaches.size →
    ((w.factory factory).specializationCache cache).slot =
      ((other.factory factory).specializationCache cache).slot →
    carried w other (w.onFactory factory (·.specialize u cache arguments)).2
        (other.onFactory factory (·.specialize u cache arguments)).2 ∧
      ∀ one two, ((w.factory factory).specialize u cache arguments).1 = .ok one →
        ((other.factory factory).specialize u cache arguments).1 = .ok two →
        matched one.entry two.entry

namespace World.Simulation

variable {u : Universe} (simulation : Simulation u)

/-- Two outcomes of the same step from two worlds. -/
def Same {α : Type} (w other : World) (one two : α × World) : Prop :=
  one.1 = two.1 ∧ simulation.carried w other one.2 two.2

/-- Two outcomes of the same call from two worlds. -/
def Returned (w other : World) (one two : Except Fault Value × Frame × World) : Prop :=
  one.1 = two.1 ∧ one.2.1 = two.2.1 ∧ simulation.carried w other one.2.2 two.2.2

/-- Two intercepted calls whose entries take each other's place. -/
def Contexts (w other : World) (one two : Interception) : Prop :=
  Interception.Alike w other one two ∧ simulation.matched one.entry two.entry

/-- A call that keeps related worlds related. -/
def Respects (call : VirtualCall) : Prop :=
  ∀ on method frame w other, simulation.related w other →
    Option.Rel (simulation.Returned w other) (call on method frame w) (call on method frame other)

variable {simulation}

/-- Outcomes of a later step are outcomes of all the steps. -/
private theorem rel_trans {α : Type} {w other later laterOther : World}
    {one two : Option (α × World)} (first : simulation.carried w other later laterOther)
    (second : Option.Rel (simulation.Same later laterOther) one two) :
    Option.Rel (simulation.Same w other) one two := by
  cases second with
  | none => exact .none
  | some same => exact .some ⟨same.1, simulation.trans first same.2⟩

private theorem Contexts.carry {w other later laterOther : World} {one two : Interception}
    (contexts : simulation.Contexts w other one two)
    (carried : simulation.carried w other later laterOther) :
    simulation.Contexts later laterOther one two := by
  obtain ⟨grows, growsOther⟩ := simulation.grows carried
  exact ⟨contexts.1.grow grows growsOther, contexts.2⟩

variable (simulation) in
/-- Another target changes nothing but the proxy. -/
theorem same_setTarget {w other : World} (related : simulation.related w other) (on : ObjectRef)
    (target : Option ObjectRef) :
    simulation.Same w other (w.setTarget u on target) (other.setTarget u on target) := by
  have alike := simulation.alike related
  have same := proxy?_eq alike.objects on
  have untouched : ∀ world : World, (world.setTarget u on target).2.factories = world.factories ∧
      (world.setTarget u on target).2.scope = world.scope ∧
      (world.setTarget u on target).2.journal = world.journal := by
    intro world
    unfold setTarget
    split
    · exact ⟨rfl, rfl, rfl⟩
    · split <;> exact ⟨rfl, rfl, rfl⟩
  have results : (w.setTarget u on target).1 = (other.setTarget u on target).1 ∧
      (w.setTarget u on target).2.objects = (other.setTarget u on target).2.objects := by
    unfold setTarget
    rw [same]
    split
    · exact ⟨rfl, alike.objects⟩
    · split
      · exact ⟨rfl, alike.objects⟩
      · simp [putProxy, alike.objects]
  obtain ⟨factories, scope, journal⟩ := untouched w
  obtain ⟨factoriesOther, scopeOther, journalOther⟩ := untouched other
  refine ⟨results.1, simulation.change related factories factoriesOther results.2 ?_ ?_ ?_⟩
  · rw [scope, scopeOther, alike.scope]
  · rw [journal, journalOther, alike.journal]
  · exact fun o after held => proxy?_setTarget held

/-! ### Thunks -/

section Calls

variable {call : VirtualCall} (respects : simulation.Respects call)

include respects

/-- A call with the frame that it leaves as part of its result. -/
theorem rel_framed (on : ObjectRef) (method : Method) (frame : Frame) {w other : World}
    (related : simulation.related w other) :
    Option.Rel (simulation.Same w other)
      ((call on method frame w).map fun (result, frame, w) => ((result, frame), w))
      ((call on method frame other).map fun (result, frame, w) => ((result, frame), w)) := by
  have called := respects on method frame w other related
  generalize call on method frame w = one at called
  generalize call on method frame other = two at called
  cases called with
  | none => exact .none
  | some same => exact .some ⟨congrArg₂ Prod.mk same.1 same.2.1, same.2.2⟩

/-- The steps of a thunk keep worlds related: they touch the world by their call only. -/
private theorem rel_execute (on : ObjectRef) (method : Method) {ops : List ThunkOp} :
    ∀ (arguments : List Value) (frame : Frame) (result : Value) {w other : World},
      simulation.related w other →
      Option.Rel (simulation.Same w other)
        (Thunk.execute u call on method ops arguments frame result w)
        (Thunk.execute u call on method ops arguments frame result other) := by
  induction ops with
  | nil =>
      intro arguments frame result w other related
      exact .some ⟨rfl, simulation.refl related⟩
  | cons op rest inductionHypothesis =>
      intro arguments frame result w other related
      cases op with
      | cast type =>
          simp only [Thunk.execute]
          split
          · exact inductionHypothesis _ _ _ related
          · exact .some ⟨rfl, simulation.refl related⟩
      | load index type =>
          simp only [Thunk.execute]
          split
          · exact .some ⟨rfl, simulation.refl related⟩
          · exact inductionHypothesis _ _ _ related
      | loadAddress index type cell direction =>
          simp only [Thunk.execute]
          split
          · exact .some ⟨rfl, simulation.refl related⟩
          · exact inductionHypothesis _ _ _ related
      | callVirtual =>
          have called := respects on method frame w other related
          simp only [Thunk.execute]
          generalize call on method frame w = one at called
          generalize call on method frame other = two at called
          cases called with
          | none => exact .none
          | some same =>
              rename_i first second
              obtain ⟨outcome, left, after⟩ := first
              obtain ⟨outcomeOther, leftOther, afterOther⟩ := second
              obtain ⟨rfl, rfl, carried⟩ := same
              cases outcome with
              | error fault => exact .some ⟨rfl, carried⟩
              | ok v =>
                  exact rel_trans carried (inductionHypothesis _ _ _ (simulation.after carried))
      | storeBack index cell =>
          simp only [Thunk.execute]
          split
          · exact .some ⟨rfl, simulation.refl related⟩
          · exact inductionHypothesis _ _ _ related
      | returnValue type => exact .some ⟨rfl, simulation.refl related⟩
      | returnVoid => exact .some ⟨rfl, simulation.refl related⟩

/-- A call through a thunk keeps worlds related. -/
theorem rel_invoke (thunk : Thunk) (on : ObjectRef) (arguments : List Value)
    {w other : World} (related : simulation.related w other) :
    Option.Rel (simulation.Same w other) (thunk.invoke u call on arguments w)
      (thunk.invoke u call on arguments other) := by
  unfold Thunk.invoke
  split
  · exact rel_execute respects on thunk.method _ _ _ related
  · exact .some ⟨rfl, simulation.refl related⟩

/-- Thunks that factories look up are the same as soon as they are compiled from
the same method; their serial numbers do not count. -/
theorem rel_invokeVia {factory : FactoryId}
    {lookup lookupOther : Factory → Except Fault SharedThunk × Factory}
    (on : ObjectRef) (arguments : List Value) {w other : World}
    (same : (w.onFactory factory lookup).1.map (·.thunk) =
      (other.onFactory factory lookupOther).1.map (·.thunk))
    (carried : simulation.carried w other (w.onFactory factory lookup).2
      (other.onFactory factory lookupOther).2) :
    Option.Rel (simulation.Same w other) (u.invokeVia call factory lookup on arguments w)
      (u.invokeVia call factory lookupOther on arguments other) := by
  unfold Universe.invokeVia
  generalize w.onFactory factory lookup = one at same carried
  generalize other.onFactory factory lookupOther = two at same carried
  obtain ⟨found, after⟩ := one
  obtain ⟨foundOther, afterOther⟩ := two
  cases found with
  | error fault =>
      cases foundOther with
      | error faultOther =>
          obtain rfl : fault = faultOther := Except.error.inj same
          exact .some ⟨rfl, carried⟩
      | ok shared => cases same
  | ok shared =>
      cases foundOther with
      | error fault => cases same
      | ok sharedOther =>
          have sameThunk : shared.thunk = sharedOther.thunk := Except.ok.inj same
          simp only [sameThunk]
          exact rel_trans carried
            (rel_invoke respects sharedOther.thunk on arguments (simulation.after carried))

/-- A call through the thunk cache keeps worlds related, whichever of the two factories holds the
thunk already. -/
theorem rel_invokeThrough (factory : FactoryId) (method : Method) (on : ObjectRef)
    (arguments : List Value) {w other : World} (related : simulation.related w other) :
    Option.Rel (simulation.Same w other) (u.invokeThrough call factory method on arguments w)
      (u.invokeThrough call factory method on arguments other) := by
  have alike := simulation.alike related
  have fresh := (Factory.evolves_getOrCompile (alike.coherent factory) method).1
  have freshOther := (Factory.evolves_getOrCompile (alike.coherentOther factory) method).1
  exact rel_invokeVia respects on arguments (fresh.trans freshOther.symm)
    (simulation.compiled related factory method)

/-- Entries of one method that take each other's place are called alike. -/
theorem rel_invokeEntry {factory : FactoryId} {entry entryOther : EntryId} (on : ObjectRef)
    (arguments : List Value) {w other : World} (related : simulation.related w other)
    (known : entry < (w.factory factory).entries.size)
    (knownOther : entryOther < (other.factory factory).entries.size)
    (sameMethod : ((w.factory factory).entry entry).method =
      ((other.factory factory).entry entryOther).method)
    (matched : simulation.matched entry entryOther) :
    Option.Rel (simulation.Same w other) (u.invokeEntry call factory entry on arguments w)
      (u.invokeEntry call factory entryOther on arguments other) := by
  have alike := simulation.alike related
  have fresh := (Factory.evolves_entryThunk (alike.coherent factory) entry).1
  have freshOther := (Factory.evolves_entryThunk (alike.coherentOther factory) entryOther).1
  refine rel_invokeVia respects on arguments (fresh.trans (Eq.trans ?_ freshOther.symm)) ?_
  · rw [sameMethod]
  · exact simulation.opened related factory entry entryOther known knownOther sameMethod matched

/-- Intercepted calls that stand for each other proceed alike. -/
private theorem rel_proceed {one two : Interception} (on : ObjectRef) (arguments : List Value)
    {w other : World} (related : simulation.related w other)
    (contexts : simulation.Contexts w other one two) :
    Option.Rel (simulation.Same w other)
      (u.invokeEntry call one.factory one.entry on arguments w)
      (u.invokeEntry call two.factory two.entry on arguments other) := by
  obtain ⟨alike, matched⟩ := contexts
  obtain ⟨known, knownOther, sameMethod⟩ := alike.dispatch
  have factory := alike.factory
  rw [factory] at known sameMethod ⊢
  exact rel_invokeEntry respects on arguments related known knownOther sameMethod matched

/-! ### Requests -/

/-- A request about the world keeps worlds related: both have the same objects, so both give the
same reply. -/
private theorem rel_serveWorld (request : WorldRequest) {w other : World}
    (related : simulation.related w other) :
    Option.Rel (simulation.Same w other) (u.serveWorld call request w)
      (u.serveWorld call request other) := by
  have alike := simulation.alike related
  cases request with
  | create type tag =>
      refine .some ⟨?_, simulation.change related rfl rfl ?_ alike.scope alike.journal ?_⟩
      · exact congrArg (fun objects => ObjectRef.mk (Array.size objects) type) alike.objects
      · simp [World.create, World.allocate, alike.objects]
      · exact fun o after held => ⟨after, World.proxy?_create held, rfl⟩
  | tag o => exact .some ⟨World.tag?_eq alike.objects o, simulation.refl related⟩
  | cell o key => exact .some ⟨World.cell?_eq alike.objects o key, simulation.refl related⟩
  | setCell o key v =>
      refine .some ⟨rfl, simulation.change related rfl rfl ?_ alike.scope alike.journal ?_⟩
      · simp [World.setCell, alike.objects]
      · exact fun o after held => ⟨after, World.proxy?_setCell held, rfl⟩
  | report entry =>
      refine .some ⟨rfl, simulation.change related rfl rfl alike.objects ?_ ?_ ?_⟩
      · simp [World.report, alike.scope]
      · simp [World.report, alike.journal]
      · exact fun o after held => ⟨after, held, rfl⟩
  | invoke factory method on arguments =>
      exact rel_invokeThrough respects factory method on arguments related
  | callVirtual method on arguments =>
      have called := respects on method (.ofValues arguments) w other related
      simp only [Universe.serveWorld]
      generalize call on method (.ofValues arguments) w = one at called
      generalize call on method (.ofValues arguments) other = two at called
      cases called with
      | none => exact .none
      | some same =>
          obtain ⟨result, _, carried⟩ := same
          exact .some ⟨result, carried⟩
  | narrow v type => exact .some ⟨rfl, simulation.refl related⟩
  | describe subject => exact .some ⟨rfl, simulation.refl related⟩
  | resolve reference =>
      exact .some ⟨congrArg (fun scope => scope.resolve u reference) alike.scope,
        simulation.refl related⟩

/-- A request of a method body keeps frames equal and worlds related. -/
theorem rel_serveBody {start startOther : World} (request : BodyRequest)
    (state stateOther : Frame × World)
    (running : state.1 = stateOther.1 ∧
      simulation.carried start startOther state.2 stateOther.2) :
    Option.Rel (fun one two => one.1 = two.1 ∧ one.2.1 = two.2.1 ∧
        simulation.carried start startOther one.2.2 two.2.2)
      (u.serveBody call request state) (u.serveBody call request stateOther) := by
  obtain ⟨frame, w⟩ := state
  obtain ⟨frameOther, other⟩ := stateOther
  obtain ⟨rfl, carried⟩ := running
  cases request with
  | world request =>
      have served := rel_serveWorld respects request (simulation.after carried)
      simp only [Universe.serveBody]
      generalize u.serveWorld call request w = one at served
      generalize u.serveWorld call request other = two at served
      cases served with
      | none => exact .none
      | some same => exact .some ⟨same.1, rfl, simulation.trans carried same.2⟩
  | store index v =>
      simp only [Universe.serveBody]
      split <;> exact .some ⟨rfl, rfl, carried⟩
  | _ => exact .some ⟨rfl, rfl, carried⟩

/-- A request of an interceptor keeps contexts alike and worlds related. -/
theorem rel_serveHook {start startOther : World} (request : HookRequest)
    (state stateOther : Interception × World)
    (running : simulation.Contexts state.2 stateOther.2 state.1 stateOther.1 ∧
      simulation.carried start startOther state.2 stateOther.2) :
    Option.Rel (fun one two => one.1 = two.1 ∧
        simulation.Contexts one.2.2 two.2.2 one.2.1 two.2.1 ∧
        simulation.carried start startOther one.2.2 two.2.2)
      (u.serveHook call request state) (u.serveHook call request stateOther) := by
  obtain ⟨context, w⟩ := state
  obtain ⟨contextOther, other⟩ := stateOther
  obtain ⟨contexts, carried⟩ := running
  have related := simulation.after carried
  have alike := contexts.1
  cases request with
  | world request =>
      have served := rel_serveWorld respects request related
      simp only [Universe.serveHook]
      generalize u.serveWorld call request w = one at served
      generalize u.serveWorld call request other = two at served
      cases served with
      | none => exact .none
      | some same =>
          exact .some ⟨same.1, contexts.carry same.2, simulation.trans carried same.2⟩
  | method => exact .some ⟨alike.method, contexts, carried⟩
  | target => exact .some ⟨alike.target, contexts, carried⟩
  | setTarget target =>
      exact .some ⟨rfl,
        ⟨⟨alike.method, rfl, alike.slots, alike.factory, alike.dispatch⟩, contexts.2⟩, carried⟩
  | slots => exact .some ⟨alike.slots, contexts, carried⟩
  | setSlot index v =>
      have slots : context.slots = contextOther.slots := alike.slots
      simp only [Universe.serveHook, slots]
      split
      · exact .some ⟨rfl,
          ⟨⟨alike.method, alike.target, rfl, alike.factory, alike.dispatch⟩, contexts.2⟩, carried⟩
      · exact .some ⟨rfl, contexts, carried⟩
  | proceed =>
      have target : context.target = contextOther.target := alike.target
      have slots : context.slots = contextOther.slots := alike.slots
      have method : context.method = contextOther.method := alike.method
      simp only [Universe.serveHook, target, slots, method]
      split
      · exact .some ⟨rfl, contexts, carried⟩
      · rename_i on _
        -- The two entries may differ, but they are entries of one method, so the calls have the
        -- same outcome.
        have invoked := rel_proceed respects on contextOther.slots related contexts
        generalize u.invokeEntry call context.factory context.entry on contextOther.slots w = one
          at invoked
        generalize u.invokeEntry call contextOther.factory contextOther.entry on
          contextOther.slots other = two at invoked
        cases invoked with
        | none => exact .none
        | some same =>
            rename_i first second
            obtain ⟨outcome, after⟩ := first
            obtain ⟨outcomeOther, afterOther⟩ := second
            obtain ⟨rfl, further⟩ := same
            obtain ⟨grown, matched⟩ := contexts.carry further
            exact .some ⟨rfl, ⟨⟨rfl, rfl, rfl, grown.factory, grown.dispatch⟩, matched⟩,
              simulation.trans carried further⟩
  | proceedWith on arguments =>
      have invoked := rel_proceed respects on arguments related contexts
      simp only [Universe.serveHook]
      generalize u.invokeEntry call context.factory context.entry on arguments w = one at invoked
      generalize u.invokeEntry call contextOther.factory contextOther.entry on arguments other =
        two at invoked
      cases invoked with
      | none => exact .none
      | some same =>
          exact .some ⟨same.1, contexts.carry same.2, simulation.trans carried same.2⟩

omit respects

/-! ### Bodies -/

variable (simulation) in
/-- The choice of what to proceed with depends on the body and on the type
arguments, not on what is cached. -/
private theorem rel_selectProceed (slot : Slot) {dispatch : Dispatch} {factory : FactoryId}
    (generics : List RuntimeType) {w other : World} (related : simulation.related w other)
    (same : dispatch.Alike (w.factory factory) (other.factory factory)) :
    let one := u.selectProceed slot dispatch factory generics w
    let two := u.selectProceed slot dispatch factory generics other
    simulation.carried w other one.2 two.2 ∧
      ((∃ fault, one.1 = .error fault ∧ two.1 = .error fault) ∨
        ∃ method entry entryOther, one.1 = .ok (method, entry) ∧ two.1 = .ok (method, entryOther) ∧
          simulation.matched entry entryOther ∧
          entry < (one.2.factory factory).entries.size ∧
          entryOther < (two.2.factory factory).entries.size ∧
          ((one.2.factory factory).entry entry).method =
            ((two.2.factory factory).entry entryOther).method) := by
  have alike := simulation.alike related
  cases dispatch with
  | direct entry =>
      exact ⟨simulation.refl related,
        .inr ⟨slot.toMethod, entry, entry, rfl, rfl, simulation.same entry, same⟩⟩
  -- Either cache may hold the specialization already. Both make it of the same definition and type
  -- arguments, so they agree on whether there is one and on its method.
  | generic cache =>
      obtain ⟨known, knownOther, sameSlot⟩ := same
      have stored := World.factory_onFactory (w := w) (fun f => f.specialize u cache generics)
        (World.lt_of_lt_caches known)
      have storedOther := World.factory_onFactory (w := other)
        (fun f => f.specialize u cache generics) (World.lt_of_lt_caches knownOther)
      obtain ⟨closed, _, entries⟩ :=
        Factory.evolves_specialize (alike.coherent factory) cache generics
      obtain ⟨closedOther, _, entriesOther⟩ :=
        Factory.evolves_specialize (alike.coherentOther factory) cache generics
      obtain ⟨carried, matched⟩ :=
        simulation.specialized related factory cache generics known knownOther sameSlot
      rw [sameSlot, ← closedOther] at closed
      have first : (w.onFactory factory fun f => f.specialize u cache generics).1 =
          ((w.factory factory).specialize u cache generics).1 := rfl
      have second : (other.onFactory factory fun f => f.specialize u cache generics).1 =
          ((other.factory factory).specialize u cache generics).1 := rfl
      rw [← first, ← stored] at entries
      rw [← second, ← storedOther] at entriesOther
      rw [← first, ← second] at closed matched
      simp only [Universe.selectProceed]
      generalize (w.onFactory factory fun f => f.specialize u cache generics) = one
        at closed entries carried matched
      generalize (other.onFactory factory fun f => f.specialize u cache generics) = two
        at closed entriesOther carried matched
      obtain ⟨result, after⟩ := one
      obtain ⟨resultOther, afterOther⟩ := two
      cases result with
      | error fault =>
          cases resultOther with
          | error faultOther =>
              obtain rfl : fault = faultOther := Except.error.inj closed
              exact ⟨carried, .inl ⟨fault, rfl, rfl⟩⟩
          | ok specialization => cases closed
      | ok specialization =>
          cases resultOther with
          | error fault => cases closed
          | ok specializationOther =>
              have sameMethod : specialization.method = specializationOther.method :=
                Except.ok.inj closed
              obtain ⟨fresh, denotes⟩ := entries specialization rfl
              obtain ⟨freshOther, denotesOther⟩ := entriesOther specializationOther rfl
              refine ⟨carried, .inr ⟨specialization.method, specialization.entry,
                specializationOther.entry, rfl, ?_, matched _ _ rfl rfl, fresh, freshOther, ?_⟩⟩
              · rw [sameMethod]
              · exact denotes.trans (sameMethod.trans denotesOther.symm)

variable (simulation) in
/-- Two related worlds consult the same interceptor, with contexts that are alike. -/
theorem rel_consult (this : ObjectRef) (slot : Slot) {dispatch : Dispatch}
    {factory : FactoryId} (frame : Frame) {w other : World} (related : simulation.related w other)
    (same : dispatch.Alike (w.factory factory) (other.factory factory)) :
    let one := u.consult this slot dispatch factory frame w
    let two := u.consult this slot dispatch factory frame other
    simulation.carried w other one.2 two.2 ∧
      ((∃ fault, one.1 = .error fault ∧ two.1 = .error fault) ∨
        ∃ interceptor context contextOther, one.1 = .ok (interceptor, context) ∧
          two.1 = .ok (interceptor, contextOther) ∧
          simulation.Contexts one.2 two.2 context contextOther) := by
  have sameProxy := World.proxy?_eq (simulation.alike related).objects this
  unfold Universe.consult
  rw [sameProxy]
  split
  · exact ⟨simulation.refl related, .inl ⟨_, rfl, rfl⟩⟩
  · rename_i proxy _
    split
    · exact ⟨simulation.refl related, .inl ⟨_, rfl, rfl⟩⟩
    · rename_i interceptor _
      have selected := simulation.rel_selectProceed slot frame.generics related same
      generalize u.selectProceed slot dispatch factory frame.generics w = one at selected
      generalize u.selectProceed slot dispatch factory frame.generics other = two at selected
      obtain ⟨result, after⟩ := one
      obtain ⟨resultOther, afterOther⟩ := two
      obtain ⟨carried, failed | ⟨method, entry, entryOther, rfl, rfl, matched, denotes⟩⟩ := selected
      · obtain ⟨fault, rfl, rfl⟩ := failed
        exact ⟨carried, .inl ⟨fault, rfl, rfl⟩⟩
      · simp only []
        split
        · exact ⟨carried, .inl ⟨_, rfl, rfl⟩⟩
        · rename_i slots _
          have counted := simulation.intercepted (simulation.after carried) factory
          have contexts : simulation.Contexts after afterOther
              ⟨method, proxy.target, slots, factory, entry⟩
              ⟨method, proxy.target, slots, factory, entryOther⟩ :=
            ⟨⟨rfl, rfl, rfl, rfl, denotes⟩, matched⟩
          exact ⟨simulation.trans carried counted,
            .inr ⟨interceptor, _, _, rfl, rfl, contexts.carry counted⟩⟩

variable (simulation) in
/-- An accessor depends on the objects only. -/
private theorem same_runAccessor (this : ObjectRef) (which : Accessor) (frame : Frame)
    {w other : World} (related : simulation.related w other) :
    simulation.Same w other (u.runAccessor this which frame w)
      (u.runAccessor this which frame other) := by
  have sameProxy := World.proxy?_eq (simulation.alike related).objects this
  have changed : ∀ target : Option ObjectRef,
      simulation.Same w other
        ((w.setTarget u this target).1.map (fun _ => Value.void), (w.setTarget u this target).2)
        ((other.setTarget u this target).1.map (fun _ => Value.void),
          (other.setTarget u this target).2) := by
    intro target
    obtain ⟨result, carried⟩ := simulation.same_setTarget related this target
    exact ⟨congrArg (Except.map fun _ => Value.void) result, carried⟩
  unfold Universe.runAccessor
  rw [sameProxy]
  split
  · exact ⟨rfl, simulation.refl related⟩
  · cases which with
    | get => exact ⟨rfl, simulation.refl related⟩
    | set =>
        simp only []
        split
        · exact ⟨rfl, simulation.refl related⟩
        · rename_i argument _
          cases argument with
          | null => exact changed none
          | object target => exact changed (some target)
          | _ => exact ⟨rfl, simulation.refl related⟩

include respects

/-- An intercepted body keeps worlds related: the interceptor is the same program, run in contexts
that are alike. -/
private theorem rel_runIntercepted (this : ObjectRef) (slot : Slot) {dispatch : Dispatch}
    {factory : FactoryId} (frame : Frame) {w other : World} (related : simulation.related w other)
    (same : dispatch.Alike (w.factory factory) (other.factory factory)) :
    Option.Rel (simulation.Returned w other)
      (u.runIntercepted call this slot dispatch factory frame w)
      (u.runIntercepted call this slot dispatch factory frame other) := by
  have consulted := simulation.rel_consult this slot frame related same
  unfold Universe.runIntercepted
  generalize u.consult this slot dispatch factory frame w = one at consulted
  generalize u.consult this slot dispatch factory frame other = two at consulted
  obtain ⟨result, after⟩ := one
  obtain ⟨resultOther, afterOther⟩ := two
  obtain ⟨carried, failed | ⟨interceptor, context, contextOther, rfl, rfl, contexts⟩⟩ := consulted
  · obtain ⟨fault, rfl, rfl⟩ := failed
    exact .some ⟨rfl, rfl, carried⟩
  · have ran := Program.related_run
      (fun request state stateOther running =>
        rel_serveHook respects request state stateOther running)
      interceptor (context, after) (contextOther, afterOther) ⟨contexts, carried⟩
    simp only []
    generalize interceptor.run (u.serveHook call) (context, after) = one at ran
    generalize interceptor.run (u.serveHook call) (contextOther, afterOther) = two at ran
    cases ran with
    | none => exact .none
    | some same =>
        rename_i first second
        obtain ⟨outcome, left, final⟩ := first
        obtain ⟨outcomeOther, leftOther, finalOther⟩ := second
        obtain ⟨rfl, leftAlike, still⟩ := same
        cases outcome with
        | error fault => exact .some ⟨rfl, rfl, still⟩
        | ok result =>
            have slots : left.slots = leftOther.slots := leftAlike.1.slots
            have method : context.method = contextOther.method := contexts.1.method
            simp only [slots, method]
            exact .some ⟨rfl, rfl, still⟩

/-- Forwarding keeps worlds related. -/
private theorem rel_forward (this : ObjectRef) (slot : Slot) (factory : FactoryId) (frame : Frame)
    {w other : World} (related : simulation.related w other) :
    Option.Rel (simulation.Returned w other)
      (forward call this slot factory frame w) (forward call this slot factory frame other) := by
  have sameProxy := World.proxy?_eq (simulation.alike related).objects this
  unfold forward
  rw [sameProxy]
  split
  · exact .some ⟨rfl, rfl, simulation.refl related⟩
  · split
    · exact .some ⟨rfl, rfl, simulation.refl related⟩
    · rename_i target _
      have counted := simulation.passedThrough related factory
      have called := respects target slot.toMethod frame _ _ (simulation.after counted)
      simp only []
      generalize call target slot.toMethod frame
        (w.onFactory factory fun f => ((), f.countPassThrough)).2 = one at called
      generalize call target slot.toMethod frame
        (other.onFactory factory fun f => ((), f.countPassThrough)).2 = two at called
      cases called with
      | none => exact .none
      | some same => exact .some ⟨same.1, same.2.1, simulation.trans counted same.2.2⟩

/-- Whatever a body does, it keeps worlds related if calls that nest less deep do. -/
private theorem rel_runBody (this : ObjectRef) {body : MethodBody} (frame : Frame)
    {w other : World} (related : simulation.related w other) (same : body.Alike w other) :
    Option.Rel (simulation.Returned w other)
      (u.runBody call this body frame w) (u.runBody call this body frame other) := by
  cases body with
  | native run =>
      exact Program.related_run
        (fun request state stateOther running =>
          rel_serveBody respects request state stateOther running)
        (run this) (frame, w) (frame, other) ⟨rfl, simulation.refl related⟩
  | intercepted slot dispatch factory =>
      exact rel_runIntercepted respects this slot frame related same
  | passThrough slot factory => exact rel_forward respects this slot factory frame related
  | accessor which =>
      obtain ⟨result, carried⟩ := simulation.same_runAccessor this which frame related
      exact .some ⟨result, rfl, carried⟩

end Calls

end World.Simulation

namespace Universe

/-- Every body in the table of a type is one that its declaration holds. -/
theorem mem_bodies_of_find? (u : Universe) {id : TypeId} {slot : Slot} {body : MethodBody}
    (held : (u.methodTable id).find? slot = some body) : body ∈ (u.declaration id).bodies := by
  have own : ∀ {slot : Slot}, slot.parent = id → u.ownBody slot = some body →
      body ∈ (u.declaration id).bodies := by
    intro slot home held
    obtain ⟨declared, lookup, given⟩ := Option.bind_eq_some_iff.mp held
    rw [methodDeclaration?, home] at lookup
    apply List.mem_append_left
    exact List.mem_filterMap.mpr ⟨declared, List.mem_of_getElem? lookup, given⟩
  by_cases home : slot.parent = id
  · rw [← home, find?_methodTable_own] at held
    exact own home held
  · rw [find?_methodTable_inherited _ home] at held
    rcases Option.or_eq_some_iff.mp held with explicitly | ⟨_, implicitly⟩
    · apply List.mem_append_right
      exact List.mem_map.mpr ⟨_, u.mem_of_explicitBody explicitly, rfl⟩
    · unfold implicitBody at implicitly
      split at implicitly
      · obtain ⟨pair, listed, rfl⟩ := Option.map_eq_some_iff.mp implicitly
        obtain ⟨home, given⟩ := u.mem_ownBodies.mp (List.mem_of_find?_eq_some listed)
        exact own home given
      · cases implicitly

theorem mem_bodies_of_resolve (u : Universe) {id : TypeId} {slot : Slot} {body : MethodBody}
    (found : u.resolve id slot = some body) : ∃ type, body ∈ (u.declaration type).bodies := by
  obtain ⟨type, _, held⟩ := u.exists_of_resolve found
  exact ⟨type, u.mem_bodies_of_find? held⟩

end Universe

/-- However deep calls may nest, they keep related worlds related. -/
theorem World.Simulation.respects_callVirtual {u : Universe} (simulation : Simulation u)
    (depth : Nat) : simulation.Respects (u.callVirtual depth) := by
  induction depth with
  | zero => exact fun on method frame w other related => .none
  | succ depth inductionHypothesis =>
      intro on method frame w other related
      unfold Universe.callVirtual Universe.dispatch Universe.require
      cases found : u.resolve on.type method.slot with
      | none => exact .some ⟨rfl, rfl, simulation.refl related⟩
      | some body =>
          obtain ⟨type, member⟩ := u.mem_bodies_of_resolve found
          exact rel_runBody inductionHypothesis on frame related
            ((simulation.alike related).bodies type body member)

end Interpose
