/-
Module: Interpose.Proofs.EagerThunks
Purpose: Whether thunks are compiled early or late, nobody can tell.
Main exports: World.Twins, World.twin, World.Simulation.flip, Session.Twins,
  Session.SoundTwins.sameReply, Session.Shows, Session.LooksLike,
  Session.eager_thunks_unobservable
-/
import Interpose.Proofs.TwinFactories

namespace Interpose

/-! ### Worlds whose factories are twins -/

/-- Two worlds that differ in their factories only, and these are twins. -/
structure World.Twins (w other : World) : Prop where
  objects : w.objects = other.objects
  scope : w.scope = other.scope
  journal : w.journal = other.journal
  count : w.factories.size = other.factories.size
  factories : ∀ id, (w.factory id).Twin (other.factory id)

namespace World.Twins

variable {w other : World} (twins : w.Twins other)

include twins

/-- The same change to everything but the factories. -/
theorem change {later laterOther : World} (factories : later.factories = w.factories)
    (factoriesOther : laterOther.factories = other.factories)
    (objects : later.objects = laterOther.objects) (scope : later.scope = laterOther.scope)
    (journal : later.journal = laterOther.journal) : later.Twins laterOther := by
  refine ⟨objects, scope, journal, ?_, ?_⟩
  · rw [factories, factoriesOther]
    exact twins.count
  · unfold World.factory
    rw [factories, factoriesOther]
    exact twins.factories

/-- Putting twins in the place of twins leaves twin worlds. -/
theorem putFactory (id : FactoryId) {f g : Factory} (twin : f.Twin g) :
    (w.putFactory id f).Twins (other.putFactory id g) := by
  refine ⟨twins.objects, twins.scope, twins.journal, ?_, ?_⟩
  · simp only [World.putFactory, Array.size_modify]
    exact twins.count
  · intro further
    rw [factory_putFactory, factory_putFactory, twins.count]
    split
    · exact twin
    · exact twins.factories further

/-- New factories are twins if their configurations make twins of them. -/
theorem addFactory {config configOther : Config}
    (twin : (Factory.ofConfig config).Twin (.ofConfig configOther)) :
    (w.addFactory config).2.Twins (other.addFactory configOther).2 := by
  refine ⟨twins.objects, twins.scope, twins.journal, ?_, ?_⟩
  · simp only [World.addFactory, Array.size_push]
    exact congrArg (· + 1) twins.count
  · intro id
    rw [factory_addFactory, factory_addFactory, twins.count]
    split
    · exact twin
    · exact twins.factories id

/-- What a body proceeds to is in the other world, too. -/
theorem alike_body {body : MethodBody} (alike : body.Alike w w) : body.Alike w other := by
  cases body with
  | intercepted slot dispatch factory =>
      have twin := twins.factories factory
      cases dispatch with
      | direct entry => exact ⟨alike.1, twin.size ▸ alike.1, twin.method entry⟩
      | generic cache =>
          have same := congrArg SpecializationCache.slot (twin.cache cache)
          exact ⟨alike.1, twin.caches ▸ alike.1, same⟩
  | _ => trivial

/-- A body proceeds to something in one of two twin worlds exactly if it does in the other. -/
theorem alike_iff (body : MethodBody) :
    body.Alike w w ↔ body.Alike other other := by
  cases body with
  | intercepted slot dispatch factory =>
      have twin := twins.factories factory
      cases dispatch with
      | direct entry =>
          simp only [MethodBody.Alike, Dispatch.Alike, twin.size, and_true]
      | generic cache =>
          simp only [MethodBody.Alike, Dispatch.Alike, twin.caches, and_true]
  | _ => exact Iff.rfl

/-- A coherent world that is the twin of one that is like itself is like it. -/
theorem alike {u : Universe} (alike : w.Alike u w)
    (coherent : ∀ id, (other.factory id).Coherent u) : w.Alike u other where
  objects := twins.objects
  scope := twins.scope
  journal := twins.journal
  coherent := alike.coherent
  coherentOther := coherent
  bodies := fun type body member => twins.alike_body (alike.bodies type body member)

end World.Twins

/-- Calls keep twins. -/
def World.twin (u : Universe) : Simulation u where
  related w other := w.Alike u other ∧ w.Twins other
  carried w other later laterOther := Parallel u w other later laterOther ∧ later.Twins laterOther
  matched := Eq
  alike := And.left
  refl := fun ⟨alike, twins⟩ => ⟨.refl alike, twins⟩
  trans := fun ⟨first, _⟩ ⟨second, twins⟩ => ⟨first.trans second, twins⟩
  after := fun ⟨parallel, twins⟩ => ⟨parallel.alike, twins⟩
  grows := fun ⟨parallel, _⟩ => ⟨parallel.grows, parallel.growsOther⟩
  same := fun _ => rfl
  change := fun ⟨alike, twins⟩ factories factoriesOther objects scope journal proxies =>
    ⟨parallel_of_factories alike factories factoriesOther objects scope journal proxies,
      twins.change factories factoriesOther objects scope journal⟩
  intercepted := fun ⟨alike, twins⟩ factory =>
    ⟨parallel_count alike factory fun _ => Factory.evolves_countIntercepted,
      twins.putFactory factory (twins.factories factory).countIntercepted⟩
  passedThrough := fun ⟨alike, twins⟩ factory =>
    ⟨parallel_count alike factory fun _ => Factory.evolves_countPassThrough,
      twins.putFactory factory (twins.factories factory).countPassThrough⟩
  compiled := fun ⟨alike, twins⟩ factory method =>
    ⟨parallel_onFactory alike factory
      (Factory.evolves_getOrCompile (alike.coherent factory) method).2
      (Factory.evolves_getOrCompile (alike.coherentOther factory) method).2,
      twins.putFactory factory ((twins.factories factory).getOrCompile (alike.coherent factory)
        (alike.coherentOther factory) method).2⟩
  opened := by
    rintro w other ⟨alike, twins⟩ factory entry _ _ _ _ rfl
    exact ⟨parallel_onFactory alike factory
      (Factory.evolves_entryThunk (alike.coherent factory) entry).2
      (Factory.evolves_entryThunk (alike.coherentOther factory) entry).2,
      twins.putFactory factory ((twins.factories factory).entryThunk (alike.coherent factory)
        (alike.coherentOther factory) entry).2⟩
  specialized := by
    rintro w other ⟨alike, twins⟩ factory cache arguments _ _ _
    obtain ⟨same, twin⟩ := (twins.factories factory).specialize u cache arguments
    refine ⟨⟨parallel_onFactory alike factory
      (Factory.evolves_specialize (alike.coherent factory) cache arguments).2.1
      (Factory.evolves_specialize (alike.coherentOther factory) cache arguments).2.1,
      twins.putFactory factory twin⟩, ?_⟩
    intro one two made madeOther
    rw [same] at made
    rw [Except.ok.inj (made.symm.trans madeOther)]

/-! ### The other way round -/

theorem Dispatch.Alike.symm {f other : Factory} {dispatch : Dispatch}
    (alike : dispatch.Alike f other) : dispatch.Alike other f := by
  cases dispatch with
  | direct entry => exact ⟨alike.2.1, alike.1, alike.2.2.symm⟩
  | generic cache => exact ⟨alike.2.1, alike.1, alike.2.2.symm⟩

/-- Being alike does not depend on the order of the worlds. -/
theorem World.Alike.symm {u : Universe} {w other : World} (alike : w.Alike u other) :
    other.Alike u w where
  objects := alike.objects.symm
  scope := alike.scope.symm
  journal := alike.journal.symm
  coherent := alike.coherentOther
  coherentOther := alike.coherent
  bodies := by
    intro type body member
    have same := alike.bodies type body member
    cases body with
    | intercepted slot dispatch factory => exact Dispatch.Alike.symm same
    | _ => trivial

/-- A simulation read from the other side. -/
def World.Simulation.flip {u : Universe} (simulation : Simulation u) : Simulation u where
  related w other := simulation.related other w
  carried w other later laterOther := simulation.carried other w laterOther later
  matched entry entryOther := simulation.matched entryOther entry
  alike := fun related => (simulation.alike related).symm
  refl := fun related => simulation.refl related
  trans := fun first second => simulation.trans first second
  after := fun carried => simulation.after carried
  grows := fun carried => (simulation.grows carried).symm
  same := simulation.same
  change := by
    intro w other later laterOther related factories factoriesOther objects scope journal proxies
    refine simulation.change related factoriesOther factories objects.symm scope.symm
      journal.symm ?_
    intro o after held
    rw [← World.proxy?_eq objects] at held
    rw [World.proxy?_eq (simulation.alike related).objects]
    exact proxies o after held
  intercepted := fun related factory => simulation.intercepted related factory
  passedThrough := fun related factory => simulation.passedThrough related factory
  compiled := fun related factory method => simulation.compiled related factory method
  opened := fun related factory entry entryOther known knownOther same matched =>
    simulation.opened related factory entryOther entry knownOther known same.symm matched
  specialized := by
    intro w other related factory cache arguments known knownOther same
    obtain ⟨carried, matched⟩ :=
      simulation.specialized related factory cache arguments knownOther known same.symm
    exact ⟨carried, fun one two made madeOther => matched two one madeOther made⟩

/-- Contexts stand for each other only if they are equal, if their entries do. -/
theorem World.Simulation.Contexts.eq {u : Universe} {simulation : Simulation u} {w other : World}
    {one two : Interception} (contexts : simulation.Contexts w other one two)
    (strict : ∀ one two, simulation.matched one two → one = two) : one = two := by
  obtain ⟨⟨sameMethod, sameTarget, sameSlots, sameFactory, _⟩, matched⟩ := contexts
  calc
    one = ⟨one.method, one.target, one.slots, one.factory, one.entry⟩ := rfl
    _ = ⟨two.method, two.target, two.slots, two.factory, two.entry⟩ := by
      rw [sameMethod, sameTarget, sameSlots, sameFactory, strict _ _ matched]
    _ = two := rfl

/-! ### Sessions side by side -/

/-- Twins permit the same requests, because they have the same entries and caches. -/
theorem Factory.Twin.permits_iff {f other : Factory} (twin : f.Twin other) (request : Request) :
    f.Permits request ↔ other.Permits request := by
  cases request with
  | entryThunk entry => simp only [Permits, twin.size]
  | specialize cache arguments => simp only [Permits, twin.caches]
  | _ => exact Iff.rfl

namespace Session

/-- Two sessions that differ in their factories only, and these are twins. -/
structure Twins (s t : Session) : Prop where
  types : s.types = t.types
  filters : s.filters = t.filters
  world : s.world.Twins t.world

/-- Two outcomes of the same operation. -/
def SameReply {α : Type} (one two : α × Session) : Prop :=
  one.1 = two.1 ∧ one.2.Twins two.2

section Replies

variable {α : Type} {one two : Option (α × Session)} {reply : α}
  (same : Option.Rel SameReply one two)

include same

/-- An operation that one session can make the other one can, with the same reply. -/
private theorem exists_right_of_rel {after : Session} (given : one = some (reply, after)) :
    ∃ other, two = some (reply, other) ∧ after.Twins other := by
  subst given
  cases same with
  | @some _ answer same =>
      obtain ⟨_, other⟩ := answer
      obtain ⟨rfl, twins⟩ := same
      exact ⟨other, rfl, twins⟩

private theorem exists_left_of_rel {other : Session} (given : two = some (reply, other)) :
    ∃ after, one = some (reply, after) ∧ after.Twins other := by
  subst given
  cases same with
  | @some answer _ same =>
      obtain ⟨_, after⟩ := answer
      obtain ⟨rfl, twins⟩ := same
      exact ⟨after, rfl, twins⟩

end Replies

namespace Twins

variable {s t : Session} (twins : s.Twins t)

include twins

/-- Twins permit the same operations. -/
theorem permits_iff (operation : Operation) : s.Permits operation ↔ t.Permits operation := by
  obtain ⟨types, other, filters⟩ := t
  obtain ⟨rfl, rfl, world⟩ := twins
  cases operation with
  | define declaration => simp only [Permits, world.alike_iff]
  | serve factory request =>
      simp only [Permits, world.count, (world.factories factory).permits_iff]
  | request factory request descriptor => simp only [Permits, world.count]
  | createProxy factory descriptor target interceptor => simp only [Permits, world.count]
  | invokeEntry depth factory entry on arguments =>
      simp only [Permits, (world.factories factory).size]
  | _ => exact Iff.rfl

/-- Whatever runs alike in the worlds of two sessions has the same outcome in the sessions. -/
theorem running {α : Type} {run runOther : World → Option (α × World)}
    (same : Option.Rel ((World.twin s.types).Same s.world t.world) (run s.world)
      (runOther t.world)) :
    Option.Rel SameReply (s.running run) (t.running runOther) := by
  unfold Session.running
  generalize run s.world = one at same
  generalize runOther t.world = two at same
  cases same with
  | none => exact .none
  | some same => exact .some ⟨same.1, twins.types, twins.filters, same.2.2⟩

end Twins

/-- Two twins that are sound. -/
structure SoundTwins (s t : Session) : Prop where
  twins : s.Twins t
  sound : s.Sound
  soundOther : t.Sound

namespace SoundTwins

variable {s t : Session} (pair : s.SoundTwins t)

include pair

theorem related : (World.twin s.types).related s.world t.world :=
  ⟨pair.twins.world.alike pair.sound.alike
    fun id => pair.twins.types ▸ pair.soundOther.coherent id, pair.twins.world⟩

/-- Twins supply the same proxy type, or none for the same reason. -/
theorem requestProxyType (id : FactoryId) (request : TypeRequest) (descriptor : Descriptor) :
    SameReply (s.requestProxyType id request descriptor)
      (t.requestProxyType id request descriptor) := by
  obtain ⟨twins, sound, soundOther⟩ := pair
  obtain ⟨types, other, filters⟩ := t
  obtain ⟨rfl, rfl, world⟩ := twins
  have twin := world.factories id
  have coherent := sound.coherent id
  have coherentOther := soundOther.coherent id
  cases request with
  | cached =>
      obtain ⟨result, types, still⟩ :=
        Universe.sameSupply_proxyTypeFor twin coherent coherentOther id descriptor
      exact ⟨result, types, rfl, world.putFactory id still⟩
  | fresh =>
      obtain ⟨result, types, still⟩ :=
        Universe.sameSupply_synthesize twin coherent coherentOther id descriptor
      exact ⟨result, types, rfl, world.putFactory id still⟩
  | lazyTargets => exact ⟨rfl, rfl, rfl, world⟩

/-- Twins create a proxy alike. -/
theorem createProxy (id : FactoryId) (descriptor : Descriptor) (target : Option ObjectRef)
    (interceptor : Interceptor) :
    SameReply (s.createProxy id descriptor target interceptor)
      (t.createProxy id descriptor target interceptor) := by
  have requested := pair.requestProxyType id .cached descriptor
  unfold Session.createProxy
  generalize s.requestProxyType id .cached descriptor = one at requested
  generalize t.requestProxyType id .cached descriptor = two at requested
  obtain ⟨result, types, w, filters⟩ := one
  obtain ⟨resultOther, typesOther, other, filtersOther⟩ := two
  obtain ⟨rfl, rfl, rfl, world⟩ := requested
  cases result with
  | error fault => exact ⟨rfl, rfl, rfl, world⟩
  | ok proxyType =>
      simp only []
      split
      · exact ⟨rfl, rfl, rfl, world⟩
      · rename_i state _
        have objects : w.objects = other.objects := world.objects
        refine ⟨?_, rfl, rfl, world.change rfl rfl ?_ world.scope world.journal⟩
        · simp only [World.createProxy, World.allocate, objects]
        · simp only [World.createProxy, World.allocate, objects]

/-- Twins reply alike to every operation, and they stay twins. -/
theorem sameReply {operation : Operation} (permits : s.Permits operation) :
    Option.Rel SameReply (s.perform operation) (t.perform operation) := by
  have related := pair.related
  have respects := (World.twin s.types).respects_callVirtual
  have requested := pair.requestProxyType
  have created := pair.createProxy
  obtain ⟨twins, sound, soundOther⟩ := pair
  obtain ⟨types, other, filters⟩ := t
  obtain ⟨rfl, rfl, world⟩ := twins
  have whole : s.Twins ⟨s.types, other, s.filters⟩ := ⟨rfl, rfl, world⟩
  have objects : s.world.objects = other.objects := world.objects
  have scope : s.world.scope = other.scope := world.scope
  have journal : s.world.journal = other.journal := world.journal
  cases operation with
  | define declaration =>
      exact .some ⟨rfl, rfl, rfl, world⟩
  | create type tag =>
      refine .some ⟨?_, rfl, rfl, world.change rfl rfl ?_ scope journal⟩
      · exact congrArg (fun objects => ObjectRef.mk (Array.size objects) type) objects
      · simp only [Session.create, World.create, World.allocate, objects]
  | addFactory config =>
      exact .some ⟨world.count, rfl, rfl, world.addFactory (.refl _)⟩
  | addFilter rule => exact .some ⟨rfl, rfl, rfl, world⟩
  | rename change =>
      refine .some ⟨rfl, rfl, rfl, world.change rfl rfl objects ?_ journal⟩
      exact congrArg change scope
  | serve factory request =>
      obtain ⟨same, still⟩ :=
        (world.factories factory).answer (sound.coherent factory) (soundOther.coherent factory)
          request
      exact .some ⟨same, rfl, rfl, world.putFactory factory still⟩
  | request factory request descriptor => exact .some (requested factory request descriptor)
  | instantiate proxyType =>
      refine .some ⟨?_, rfl, rfl, world.change rfl rfl ?_ scope journal⟩
      · exact congrArg (fun objects => ObjectRef.mk (Array.size objects) proxyType.type) objects
      · simp only [Session.instantiate, World.createProxy, World.allocate, objects]
  | createProxy factory descriptor target interceptor =>
      exact .some (created factory descriptor target interceptor)
  | setTarget o target =>
      obtain ⟨same, _, still⟩ := (World.twin s.types).same_setTarget related o target
      exact .some ⟨same, rfl, rfl, still⟩
  | setInterceptor o interceptor =>
      have same := World.proxy?_eq objects o
      simp only [Session.perform, Session.setInterceptor, World.setInterceptor, same]
      split
      · exact .some ⟨rfl, rfl, rfl, world⟩
      · refine .some ⟨rfl, rfl, rfl, world.change rfl rfl ?_ scope journal⟩
        simp only [World.putProxy, objects]
  | invoke depth factory method on arguments =>
      exact whole.running
        (World.Simulation.rel_invokeThrough (respects depth) factory method on arguments related)
  | invokeEntry depth factory entry on arguments =>
      have twin := world.factories factory
      exact whole.running (World.Simulation.rel_invokeEntry (respects depth) on arguments related
        permits (twin.size ▸ permits) (twin.method entry) rfl)
  | invokeThunk depth thunk on arguments =>
      exact whole.running
        (World.Simulation.rel_invoke (respects depth) thunk on arguments related)
  | callVirtual depth on method frame =>
      have called := World.Simulation.rel_framed (respects depth) on method frame related
      simp only [Session.perform, Session.callVirtual]
      exact whole.running called
  | takeJournal =>
      exact .some ⟨journal, rfl, rfl, world.change rfl rfl objects scope rfl⟩

/-- Twins that reply alike stay sound twins. -/
theorem step {operation : Operation} {reply : operation.Reply} {after other : Session}
    (permits : s.Permits operation) (performed : s.perform operation = some (reply, after))
    (performedOther : t.perform operation = some (reply, other)) (twins : after.Twins other) :
    after.SoundTwins other := by
  have permitsOther := (pair.twins.permits_iff operation).mp permits
  exact ⟨twins, pair.sound.step (step_of_perform permits performed),
    pair.soundOther.step (step_of_perform permitsOther performedOther)⟩

/-- A run of one of two twins is a run of the other. -/
theorem exists_runs {after : Session} {trace : List ((operation : Operation) × operation.Reply)}
    (runs : s.Runs trace after) : ∃ other, t.Runs trace other ∧ after.SoundTwins other := by
  refine runs.simulate SoundTwins ?_ pair
  intro s t pair operation reply after permits performed
  obtain ⟨other, performedOther, still⟩ := exists_right_of_rel (pair.sameReply permits) performed
  exact ⟨other, (pair.twins.permits_iff operation).mp permits, performedOther,
    pair.step permits performed performedOther still⟩

/-- A run of the other one is a run of the first as well. -/
theorem exists_runs_back {other : Session}
    {trace : List ((operation : Operation) × operation.Reply)} (runs : t.Runs trace other) :
    ∃ after, s.Runs trace after ∧ after.SoundTwins other := by
  refine runs.simulate (fun other after => after.SoundTwins other) ?_ pair
  intro t s pair operation reply other permitsOther performedOther
  have permits := (pair.twins.permits_iff operation).mpr permitsOther
  obtain ⟨after, performed, still⟩ :=
    exists_left_of_rel (pair.sameReply permits) performedOther
  exact ⟨after, permits, performed, pair.step permits performed performedOther still⟩

end SoundTwins

/-! ### Calls below calls -/

/-- A session comes to a call below one that it begins; calls nest less than `depth` deep in it. -/
def Comes (s : Session) (depth : Nat) (nested : Activation) : Prop :=
  ∃ whole root, s.Begins whole root ∧ s.types.Below whole root depth nested

/-- A session shows a context to an interceptor: when it consults the interceptor for a call
that it comes to, and again after each request that the interceptor makes. -/
inductive Shows (s : Session) : Interceptor → Interception → World → Prop where
  | visited {depth : Nat} {nested : Activation} {carried : Slot} {dispatch : Dispatch}
      {factory : FactoryId} {interceptor : Interceptor} {context : Interception} {start : World}
      {visited : Interception × World} (comes : s.Comes (depth + 1) nested)
      (found : s.types.require nested.on.type nested.method =
        .ok (.intercepted carried dispatch factory))
      (consulted : s.types.consult nested.on carried dispatch factory nested.frame nested.world =
        (.ok (interceptor, context), start))
      (visits : interceptor.Visits (s.types.serveHook (s.types.callVirtual depth)) (context, start)
        visited) : Shows s interceptor visited.1 visited.2

/-- Another session makes the same calls and shows the same contexts, in worlds that are linked
to those of the one. -/
structure EchoedBy (s t : Session) (linked : World → World → Prop) : Prop where
  calls : ∀ depth nested, s.Comes depth nested →
    ∃ other, t.Comes depth { nested with world := other } ∧ linked nested.world other
  contexts : ∀ interceptor context w, s.Shows interceptor context w →
    ∃ other, t.Shows interceptor context other ∧ linked w other

/-- What is echoed in worlds that are linked is echoed in worlds that are linked more loosely. -/
theorem EchoedBy.mono {s t : Session} {linked further : World → World → Prop}
    (echoed : s.EchoedBy t linked) (weaker : ∀ w other, linked w other → further w other) :
    s.EchoedBy t further where
  calls := by
    intro depth nested comes
    obtain ⟨other, comesOther, link⟩ := echoed.calls depth nested comes
    exact ⟨other, comesOther, weaker _ _ link⟩
  contexts := by
    intro interceptor context w shows
    obtain ⟨other, showsOther, link⟩ := echoed.contexts interceptor context w shows
    exact ⟨other, showsOther, weaker _ _ link⟩

/-- Sessions in related worlds echo each other, if no entry takes another one's place. -/
private theorem echoedBy_of_related {u : Universe} {s t : Session} (simulation : World.Simulation u)
    (types : s.types = u) (typesOther : t.types = u) (related : simulation.related s.world t.world)
    (entries : ∀ id entry, entry < (s.world.factory id).entries.size →
      entry < (t.world.factory id).entries.size ∧
        ((s.world.factory id).entry entry).method = ((t.world.factory id).entry entry).method)
    (strict : ∀ one two, simulation.matched one two → one = two) :
    s.EchoedBy t simulation.related := by
  subst types
  have calls : ∀ depth nested, s.Comes depth nested →
      ∃ other, t.Comes depth { nested with world := other } ∧
        simulation.related nested.world other := by
    rintro depth nested ⟨whole, root, begins, below⟩
    obtain ⟨rootOther, beginsOther, atRoot, _⟩ :=
      s.exists_begins simulation begins typesOther related entries
    obtain ⟨⟨on, method, frame, other⟩, belowOther, ⟨rfl, rfl, rfl, there⟩, _⟩ :=
      simulation.exists_below below atRoot
    rw [← typesOther] at belowOther
    exact ⟨other, ⟨whole, rootOther, beginsOther, belowOther⟩, there⟩
  refine ⟨calls, ?_⟩
  intro interceptor context w shows
  cases shows with
  | @visited depth nested carried dispatch factory _ first start visited comes found consulted
      visits =>
      obtain ⟨other, comesOther, there⟩ := calls _ _ comes
      obtain ⟨type, member⟩ := s.types.mem_bodies_of_resolve (s.types.resolve_of_require found)
      have same := (simulation.alike there).bodies type _ member
      obtain ⟨firstOther, startOther, consultedOther, hooked⟩ :=
        World.Simulation.exists_consult consulted there same
      obtain ⟨⟨contextOther, last⟩, visitsOther, contexts, reached⟩ := Program.related_visits
        (World.Simulation.rel_serveHook (simulation.respects_callVirtual depth)) visits hooked
      obtain rfl := contexts.eq strict
      rw [← typesOther] at found consultedOther visitsOther
      exact ⟨last, .visited comesOther found consultedOther visitsOther, simulation.after reached⟩

/-! ### What cannot be told -/

/-- A session looks like another one whose factories may have compiled earlier.  Everything is
equal but what is compiled and how often something was, and what the one has compiled the other
has; so it is in the middle of every call that one of them begins, too, and interceptors are
shown the same contexts there. -/
structure LooksLike (s t : Session) : Prop where
  twins : s.Twins t
  reports : ∀ id, (t.world.factory id).report = { (s.world.factory id).report with
    thunkCompilations := (t.world.factory id).counters.thunkCompilations }
  /-- Where both have compiled something it is the same. -/
  thunks : ∀ id entry one two, ((s.world.factory id).entry entry).thunk = some one →
    ((t.world.factory id).entry entry).thunk = some two → one.thunk = two.thunk
  echoed : s.EchoedBy t World.Twins
  echoedBack : t.EchoedBy s fun other w => w.Twins other

/-- Sound twins look like each other: they report the same, but for what is compiled, and make the
same calls. -/
theorem SoundTwins.looksLike {s t : Session} (pair : s.SoundTwins t) : s.LooksLike t := by
  have related := pair.related
  have whole := pair.twins
  obtain ⟨twins, sound, soundOther⟩ := pair
  obtain ⟨types, other, filters⟩ := t
  obtain ⟨rfl, rfl, world⟩ := twins
  have size (id : FactoryId) := (world.factories id).size
  have method (id : FactoryId) (entry : EntryId) := (world.factories id).method entry
  refine ⟨whole, fun id => (world.factories id).report, ?_, ?_, ?_⟩
  · intro id entry one two held heldOther
    have compiled := (sound.coherent id).compiled entry one held
    have compiledOther := (soundOther.coherent id).compiled entry two heldOther
    rw [method] at compiled
    exact Except.ok.inj (compiled.symm.trans compiledOther)
  · have echoed := echoedBy_of_related (World.twin s.types) rfl whole.types.symm related
      (fun id entry known => ⟨size id ▸ known, method id entry⟩) fun _ _ same => same
    exact echoed.mono fun _ _ linked => linked.2
  · have echoed := echoedBy_of_related (World.twin s.types).flip whole.types.symm rfl related
      (fun id entry known => ⟨size id ▸ known, (method id entry).symm⟩) fun _ _ same => same.symm
    exact echoed.mono fun _ _ linked => linked.2

/-- Nobody can tell whether thunks are compiled while types are synthesized or on first use.
Give any session a factory that compiles lazily, or one that compiles eagerly and is configured
alike otherwise.  Whatever is done to the one can be done to the other with the same replies, and
at the end, so after every operation, the one looks like the other. -/
theorem eager_thunks_unobservable {s : Session} (occurs : s.Occurs) (config : Config) :
    let lazy := (s.addFactory { config with eagerThunks := false }).2
    let eager := (s.addFactory { config with eagerThunks := true }).2
    (∀ trace after, lazy.Runs trace after →
      ∃ other, eager.Runs trace other ∧ after.LooksLike other) ∧
    ∀ trace other, eager.Runs trace other →
      ∃ after, lazy.Runs trace after ∧ after.LooksLike other := by
  intro lazy eager
  have sound := sound_of_occurs occurs
  have twin : (Factory.ofConfig { config with eagerThunks := false }).Twin
      (.ofConfig { config with eagerThunks := true }) := ⟨rfl, fun _ => rfl, fun _ held => held⟩
  have same : s.world.Twins s.world := ⟨rfl, rfl, rfl, rfl, fun _ => .refl _⟩
  have pair : lazy.SoundTwins eager :=
    ⟨⟨rfl, rfl, same.addFactory twin⟩, sound.addFactory _, sound.addFactory _⟩
  constructor
  · intro trace after runs
    obtain ⟨other, runsOther, still⟩ := pair.exists_runs runs
    exact ⟨other, runsOther, still.looksLike⟩
  · intro trace other runsOther
    obtain ⟨after, runs, still⟩ := pair.exists_runs_back runsOther
    exact ⟨after, runs, still.looksLike⟩

/-- Define a class, make an object of it, and a proxy that stands in for the object. -/
def standingIn : List Operation :=
  [.define cursor, .create 2 "cursor",
    .createProxy 1 ⟨2, [], Universe.everything⟩ (some ⟨0, 2⟩) transparent]

/-- What these operations leave of a session. -/
def stoodIn (s : Session) : Session :=
  let created := ((s.define cursor).2.create 2 "cursor").2
  (created.createProxy 1 ⟨2, [], Universe.everything⟩ (some ⟨0, 2⟩) transparent).2

/-- The operations that set the scene can be made by every session with two factories. -/
private theorem runs_standingIn {s : Session} (known : 1 < s.world.factories.size) :
    ∃ trace, s.Runs trace s.stoodIn ∧ trace.map (·.1) = standingIn := by
  have third : ((s.define cursor).2.create 2 "cursor").2.Runs
      [⟨.createProxy 1 ⟨2, [], Universe.everything⟩ (some ⟨0, 2⟩) transparent, _⟩] s.stoodIn :=
    .next known rfl (.done _)
  have second : (s.define cursor).2.Runs (⟨.create 2 "cursor", _⟩ :: _) s.stoodIn :=
    .next trivial rfl third
  exact ⟨⟨.define cursor, _⟩ :: _, .next
    ⟨by decide, fun _ held => MethodBody.alike_of_mem_native held⟩ rfl second, rfl⟩

/-- The eager factory has compiled four thunks by then, the lazy one none, and there is no other
difference. -/
theorem eager_thunks_unobservable_standIn :
    let lazy := (initial.addFactory ⟨true, false⟩).2.stoodIn
    let eager := (initial.addFactory ⟨true, true⟩).2.stoodIn
    (lazy.world.factory 1).counters.thunkCompilations = 0 ∧
      (eager.world.factory 1).counters.thunkCompilations = 4 ∧ lazy.LooksLike eager := by
  obtain ⟨trace, runs, operations⟩ :=
    runs_standingIn (s := (initial.addFactory ⟨true, false⟩).2) (Nat.lt_succ_self 1)
  obtain ⟨_, runsEager, same⟩ :=
    runs_standingIn (s := (initial.addFactory ⟨true, true⟩).2) (Nat.lt_succ_self 1)
  obtain ⟨other, runsOther, looksLike⟩ :=
    (eager_thunks_unobservable .refl .standard).1 trace _ runs
  obtain ⟨_, rfl⟩ := runsEager.unique runsOther (same.trans operations.symm)
  exact ⟨by decide +kernel, by decide +kernel, looksLike⟩

end Session

end Interpose
