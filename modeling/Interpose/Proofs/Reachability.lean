/-
Module: Interpose.Proofs.Reachability
Purpose: The sessions that can come about, and what holds in all of them.
Main exports: Universe.Built, Universe.Becomes, MethodBody.LinkedIn, Session.Step,
  Session.Reachable, Session.Sound, Session.sound_of_reachable, Session.built_of_kind
-/
import Interpose.Proofs.ParallelRuns
import Interpose.Proofs.ProxyTypes
import Interpose.Session

namespace Interpose

/-- A proxy type was synthesized at some time, and its universe has grown since. -/
def Universe.Built (u : Universe) (proxyType : ProxyType) : Prop :=
  ∃ (before : Universe) (factoryId : FactoryId) (descriptor : Descriptor) (f : Factory)
    (later : Universe) (after : Factory),
    before.synthesize factoryId descriptor f = (.ok proxyType, later, after) ∧ later.Extends u

/-- What a step can do to the types: nothing, define one that is no proxy type, or
synthesize one. -/
inductive Universe.Becomes (u : Universe) : Universe → Prop where
  | nothing : Becomes u u
  | defined (declaration : TypeDeclaration) (kind : declaration.kind ≠ .proxyType) :
      Becomes u (u.define declaration)
  | synthesized {id : FactoryId} {descriptor : Descriptor} {f : Factory} {proxyType : ProxyType}
      {later : Universe} {after : Factory}
      (made : u.synthesize id descriptor f = (.ok proxyType, later, after)) : Becomes u later

/-- An intercepted body stands for a method with a supported signature, and what
it proceeds to is linked to that method in the factory that it names. -/
def MethodBody.LinkedIn (u : Universe) (w : World) : MethodBody → Prop
  | .intercepted slot dispatch factory =>
      u.checkSignature slot.toMethod = .ok () ∧ dispatch.Linked u (w.factory factory) slot
  | _ => True

/-- What can be asked of a factory, beside proxy types and calls. -/
inductive Factory.Serves (u : Universe) (f : Factory) : Factory → Prop where
  | compile (method : Method) : Serves u f (f.compile u method).2
  | thunkEntry (method : Method) : Serves u f (f.thunkEntry method).2
  | entryThunk (id : EntryId) : Serves u f (f.entryThunk u id).2
  | getOrCompile (method : Method) : Serves u f (f.getOrCompile u method).2
  | addSpecializationCache (slot : Slot) : Serves u f (f.addSpecializationCache slot).2
  | specialize (cache : CacheId) (arguments : List RuntimeType) :
      Serves u f (f.specialize u cache arguments).2

namespace Session

/-- Everything that can be done to a session.  Types that are defined are no
proxy types, and intercepted bodies that they hold proceed to something that is
there.  Factories and proxy types that are asked for are those made before. -/
inductive Step : Session → Session → Prop where
  | define {s : Session} (declaration : TypeDeclaration) (kind : declaration.kind ≠ .proxyType)
      (known : ∀ body ∈ declaration.bodies, body.Alike s.world s.world) :
      Step s (s.define declaration).2
  | create {s : Session} (type : TypeId) (tag : String) : Step s (s.create type tag).2
  | addFactory {s : Session} (config : Config) : Step s (s.addFactory config).2
  | addFilter {s : Session} (rule : FilterRule) : Step s (s.addFilter rule).2
  | rename {s : Session} {α : Type} (change : Scope → α × Scope) : Step s (s.withScope change).2
  | serve {s : Session} (id : FactoryId) {f : Factory}
      (serves : (s.world.factory id).Serves s.types f) :
      Step s { s with world := s.world.putFactory id f }
  | request {s : Session} (id : FactoryId) (request : TypeRequest) (descriptor : Descriptor)
      (known : id < s.world.factories.size) : Step s (s.requestProxyType id request descriptor).2
  | instantiate {s : Session} (proxyType : ProxyType) (built : s.types.Built proxyType) :
      Step s (s.instantiate proxyType).2
  | createProxy {s : Session} (id : FactoryId) (descriptor : Descriptor)
      (target : Option ObjectRef) (interceptor : Interceptor)
      (known : id < s.world.factories.size) :
      Step s (s.createProxy id descriptor target interceptor).2
  | setTarget {s : Session} (o : ObjectRef) (target : Option ObjectRef) :
      Step s (s.setTarget o target).2
  | setInterceptor {s : Session} (o : ObjectRef) (interceptor : Option Interceptor) :
      Step s (s.setInterceptor o interceptor).2
  | invoke {s after : Session} {depth : Nat} {id : FactoryId} {method : Method} {on : ObjectRef}
      {arguments : List Value} {outcome : CallResult}
      (ran : s.invoke depth id method on arguments = some (outcome, after)) : Step s after
  | invokeEntry {s after : Session} {depth : Nat} {id : FactoryId} {entry : EntryId}
      {on : ObjectRef} {arguments : List Value} {outcome : CallResult}
      (ran : s.invokeEntry depth id entry on arguments = some (outcome, after)) : Step s after
  | invokeThunk {s after : Session} {depth : Nat} {thunk : Thunk} {on : ObjectRef}
      {arguments : List Value} {outcome : CallResult}
      (ran : s.invokeThunk depth thunk on arguments = some (outcome, after)) : Step s after
  | callVirtual {s after : Session} {depth : Nat} {on : ObjectRef} {method : Method}
      {frame : Frame} {outcome : Except Fault Value × Frame}
      (ran : s.callVirtual depth on method frame = some (outcome, after)) : Step s after
  | takeJournal {s : Session} : Step s s.takeJournal.2

/-- The sessions that the initial one can become. -/
inductive Reachable : Session → Prop where
  | initial : Reachable initial
  | step {s after : Session} (reachable : Reachable s) (taken : Step s after) : Reachable after

/-- What holds in every session that can come about. -/
structure Sound (s : Session) : Prop where
  coherent : ∀ id, (s.world.factory id).Coherent s.types
  bodies : ∀ type, ∀ body ∈ (s.types.declaration type).bodies, body.Alike s.world s.world
  linked : ∀ type, s.types.kind type = .proxyType →
    ∀ body ∈ (s.types.declaration type).bodies, body.LinkedIn s.types s.world
  cached : ∀ id key proxyType, (s.world.factory id).proxyTypes.find? key = some proxyType →
    s.types.Built proxyType
  proxies : ∀ o state, s.world.proxy? o = some state → s.types.Built state.proxyType

end Session

/-! ### What stays when types and factories grow -/

theorem Universe.Built.extend {u later : Universe} {proxyType : ProxyType}
    (built : u.Built proxyType) (extended : u.Extends later) : later.Built proxyType := by
  obtain ⟨before, factoryId, descriptor, f, between, after, made, grown⟩ := built
  exact ⟨before, factoryId, descriptor, f, between, after, made, grown.trans extended⟩

/-- A proxy type was assembled as the next one after the types that there were. -/
theorem Universe.Built.exists_assembly {u : Universe} {proxyType : ProxyType}
    (built : u.Built proxyType) :
    ∃ (before : Universe) (factoryId : FactoryId) (descriptor : Descriptor)
      (members : List Member) (declaration : TypeDeclaration),
      before.Assembly factoryId descriptor members declaration ∧
        proxyType = ⟨before.size, descriptor⟩ ∧ (before.define declaration).Extends u ∧
        before.size < (before.define declaration).size := by
  obtain ⟨before, factoryId, descriptor, f, later, after, made, extended⟩ := built
  obtain ⟨members, declaration, assembly, rfl, rfl, _⟩ := before.assembly_of_synthesize made
  exact ⟨before, factoryId, descriptor, members, declaration, assembly, rfl, extended,
    before.size_lt_size_define declaration⟩

/-- A body goes on being linked while factories add to what they hold. -/
theorem MethodBody.LinkedIn.grow {u : Universe} {w later : World} {body : MethodBody}
    (linked : body.LinkedIn u w) (grow : ∀ id, (w.factory id).Grows (later.factory id)) :
    body.LinkedIn u later := by
  cases body with
  | intercepted slot dispatch factory =>
      exact ⟨linked.1, Dispatch.Linked.grow linked.2 (grow factory)⟩
  | _ => trivial

theorem Dispatch.Linked.extend {u later : Universe} {f : Factory} {slot : Slot}
    {dispatch : Dispatch} (linked : dispatch.Linked u f slot) (extended : u.Extends later)
    (defined : slot.parent < u.size) : dispatch.Linked later f slot := by
  have same : later.isGeneric slot = u.isGeneric slot := by
    unfold Universe.isGeneric
    rw [extended.signature_eq defined]
  cases dispatch with
  | direct entry => exact ⟨same.trans linked.1, linked.2⟩
  | generic cache => exact ⟨same.trans linked.1, linked.2⟩

/-- A body goes on being linked when types are added. -/
theorem MethodBody.LinkedIn.extend {u later : Universe} {w : World} {body : MethodBody}
    (linked : body.LinkedIn u w) (extended : u.Extends later) : body.LinkedIn later w := by
  cases body with
  | intercepted slot dispatch factory =>
      have defined := u.lt_size_of_checkSignature linked.1
      exact ⟨extended.checkSignature_of_ok linked.1,
        Dispatch.Linked.extend linked.2 extended defined⟩
  | _ => trivial

theorem Dispatch.Linked.alike {u : Universe} {f : Factory} {slot : Slot} {dispatch : Dispatch}
    (linked : dispatch.Linked u f slot) : dispatch.Alike f f := by
  cases dispatch with
  | direct entry => exact ⟨linked.2.1, linked.2.1, rfl⟩
  | generic cache => exact ⟨linked.2.1, linked.2.1, rfl⟩

/-- Whatever a coherent factory is asked for, it stays coherent. -/
private theorem Factory.evolves_of_serves {u : Universe} {f after : Factory}
    (coherent : f.Coherent u) (serves : f.Serves u after) : f.Evolves u after := by
  cases serves with
  | compile method => exact (evolves_compile coherent method).2
  | thunkEntry method => exact (evolves_thunkEntry coherent method).1
  | entryThunk id => exact (evolves_entryThunk coherent id).2
  | getOrCompile method => exact (evolves_getOrCompile coherent method).2
  | addSpecializationCache slot => exact (evolves_addSpecializationCache coherent slot).1
  | specialize cache arguments => exact (evolves_specialize coherent cache arguments).2.1

theorem Universe.lt_size_of_mem_bodies (u : Universe) {type : TypeId} {body : MethodBody}
    (held : body ∈ (u.declaration type).bodies) : type < u.size := by
  by_contra absent
  rw [u.declaration_of_size_le (Nat.le_of_not_lt absent)] at held
  simp [TypeDeclaration.bodies, undefined, TypeDeclaration.bare] at held

private theorem Universe.lt_or_eq_of_lt_size_define (u : Universe) {declaration : TypeDeclaration}
    {type : TypeId} (defined : type < (u.define declaration).size) :
    type < u.size ∨ type = u.size := by
  have grown : (u.define declaration).size = u.size + 1 := by simp [size, define]
  rw [grown] at defined
  exact Nat.lt_or_eq_of_le (Nat.le_of_lt_succ defined)

/-- A definition brings no other bodies than those that it names. -/
theorem Universe.mem_bodies_define (u : Universe) {declaration : TypeDeclaration} {type : TypeId}
    {body : MethodBody} (held : body ∈ ((u.define declaration).declaration type).bodies) :
    body ∈ (u.declaration type).bodies ∨ (type = u.size ∧ body ∈ declaration.bodies) := by
  rcases u.lt_or_eq_of_lt_size_define ((u.define declaration).lt_size_of_mem_bodies held) with
    older | rfl
  · rw [u.declaration_define_of_lt declaration older] at held
    exact .inl held
  · rw [declaration_define_self] at held
    refine .inr ⟨rfl, ?_⟩
    rcases List.mem_append.mp held with own | given
    · exact List.mem_append_left _ own
    · obtain ⟨pair, listed, same⟩ := List.mem_map.mp given
      exact List.mem_append_right _
        (List.mem_map.mpr ⟨pair, (List.mem_filter.mp listed).1, same⟩)

namespace Session

namespace Sound

variable {s : Session} (sound : s.Sound)

include sound

theorem alike : s.world.Alike s.types s.world :=
  ⟨rfl, rfl, rfl, sound.coherent, sound.coherent, sound.bodies⟩

/-- Whatever leaves the types alone and lets the world grow. -/
theorem of_grows {w : World} (grows : s.world.Grows w)
    (coherent : ∀ id, (w.factory id).Coherent s.types) :
    ({ s with world := w } : Session).Sound where
  coherent := coherent
  bodies := fun type body held =>
    (sound.bodies type body held).grow grows.factories grows.factories
  linked := fun type kind body held => (sound.linked type kind body held).grow grows.factories
  cached := by
    intro id key proxyType found
    have same : (w.factory id).proxyTypes = (s.world.factory id).proxyTypes := grows.proxyTypes id
    rw [same] at found
    exact sound.cached id key proxyType found
  proxies := by
    intro o state held
    obtain ⟨before, found, same⟩ := grows.proxies o state held
    rw [← same]
    exact sound.proxies o before found

theorem of_parallel {w : World} (parallel : World.Parallel s.types s.world s.world w w) :
    ({ s with world := w } : Session).Sound :=
  sound.of_grows parallel.grows parallel.alike.coherent

/-- A type with bodies that the world knows may be defined, as long as it is no proxy type. -/
theorem define {declaration : TypeDeclaration} (kind : declaration.kind ≠ .proxyType)
    (known : ∀ body ∈ declaration.bodies, body.Alike s.world s.world) :
    (s.define declaration).2.Sound where
  coherent := fun id => (sound.coherent id).extend (s.types.extends_define declaration)
  bodies := by
    intro type body held
    rcases s.types.mem_bodies_define held with old | ⟨_, new⟩
    · exact sound.bodies type body old
    · exact known body new
  linked := by
    intro type isProxy body held
    have extended := s.types.extends_define declaration
    -- Only proxy types need linked bodies, and the type that is new is none.
    rcases s.types.mem_bodies_define held with old | ⟨rfl, _⟩
    · have older := s.types.lt_size_of_mem_bodies old
      have sameKind : s.types.kind type = .proxyType :=
        (extended.kind_eq older).symm.trans isProxy
      exact (sound.linked type sameKind body old).extend extended
    · have same : (s.types.define declaration).kind s.types.size = declaration.kind := by
        rw [Universe.kind, Universe.declaration_define_self]
        rfl
      exact absurd (same.symm.trans isProxy) kind
  cached := fun id key proxyType found =>
    (sound.cached id key proxyType found).extend (s.types.extends_define declaration)
  proxies := fun o state held =>
    (sound.proxies o state held).extend (s.types.extends_define declaration)

/-- Whatever lets the types grow by linked bodies and a factory by cached proxy
types that are built. -/
theorem of_supplied {id : FactoryId} {types : Universe} {f : Factory}
    (extended : s.types.Extends types) (grows : (s.world.factory id).Grows f)
    (coherent : f.Coherent types)
    (cached : ∀ key proxyType, f.proxyTypes.find? key = some proxyType → types.Built proxyType)
    (added : ∀ type, ∀ body ∈ (types.declaration type).bodies,
      body ∈ (s.types.declaration type).bodies ∨
        (body.LinkedIn types (s.world.putFactory id f) ∧
          body.Alike (s.world.putFactory id f) (s.world.putFactory id f))) :
    ({ s with types := types, world := s.world.putFactory id f } : Session).Sound where
  coherent := World.coherent_putFactory coherent fun other => (sound.coherent other).extend extended
  bodies := by
    intro type body held
    rcases added type body held with old | ⟨_, alike⟩
    · have grow := World.factories_putFactory grows
      exact (sound.bodies type body old).grow grow grow
    · exact alike
  linked := by
    intro type isProxy body held
    rcases added type body held with old | ⟨linked, _⟩
    · have older := s.types.lt_size_of_mem_bodies old
      have sameKind : s.types.kind type = .proxyType :=
        (extended.kind_eq older).symm.trans isProxy
      have linked := (sound.linked type sameKind body old).extend extended
      exact linked.grow (World.factories_putFactory grows)
    · exact linked
  cached := by
    intro other key proxyType found
    simp only [World.factory_putFactory] at found
    split at found
    · exact cached key proxyType found
    · exact (sound.cached other key proxyType found).extend extended
  proxies := fun o state held => (sound.proxies o state held).extend extended

/-- A new factory is coherent, and nothing is linked to it yet. -/
theorem addFactory (config : Config) : (s.addFactory config).2.Sound := by
  have added := s.world.factory_addFactory config
  have absent : s.world.factory s.world.factories.size = default :=
    World.factory_of_size_le (Nat.le_refl _)
  have grows : s.world.Grows (s.world.addFactory config).2 := by
    refine ⟨?_, ?_, fun _ after held => ⟨after, held, rfl⟩⟩
    · intro id
      rw [added]
      split
      · rename_i new
        rw [new, absent]
        exact ⟨Nat.le_refl _, fun _ _ => rfl, Nat.le_refl _, fun _ _ => rfl⟩
      · exact .refl _
    · intro id
      rw [added]
      split
      · rename_i new
        rw [new, absent]
        rfl
      · rfl
  apply sound.of_grows grows
  intro id
  rw [added]
  split
  · exact Factory.coherent_ofConfig s.types config
  · exact sound.coherent id

/-- A new proxy of a type that was built. -/
private theorem of_createProxy {state : ProxyState} (built : s.types.Built state.proxyType) :
    ({ s with world := (s.world.createProxy state).2 } : Session).Sound := by
  refine ⟨sound.coherent, sound.bodies, sound.linked, sound.cached, ?_⟩
  intro o after held
  rcases World.proxy?_createProxy held with old | rfl
  · exact sound.proxies o after old
  · exact built

/-- Asking for a proxy type, past the cache.  The factory that is left may have
been changed in what it counts and caches. -/
theorem of_synthesize {id : FactoryId} (known : id < s.world.factories.size)
    {descriptor : Descriptor} {f : Factory} (counted : (s.world.factory id).Evolves s.types f)
    {result : Except Fault ProxyType} {types : Universe} {after final : Factory}
    (made : s.types.synthesize id descriptor f = (result, types, after))
    (entries : final.entries = after.entries) (index : final.thunkIndex = after.thunkIndex)
    (caches : final.specializationCaches = after.specializationCaches)
    (cached : ∀ key proxyType, final.proxyTypes.find? key = some proxyType →
      (s.world.factory id).proxyTypes.find? key = some proxyType ∨ result = .ok proxyType) :
    ({ s with types := types, world := s.world.putFactory id final } : Session).Sound ∧
      ∀ proxyType, result = .ok proxyType → types.Built proxyType := by
  have evolved := s.types.evolves_synthesize id descriptor counted.coherent
  rw [made] at evolved
  have last : after.Grows final := .of_same entries caches
  have grows : (s.world.factory id).Grows final :=
    (counted.grows.trans evolved.grows).trans last
  have built : ∀ proxyType, result = .ok proxyType → types.Built proxyType := by
    rintro proxyType rfl
    exact ⟨s.types, id, descriptor, f, types, after, made, .refl types⟩
  -- The type that is new brings one body for each member and those of the accessors; what its
  -- intercepted bodies proceed to was linked while it was constructed.
  cases result with
  | error fault =>
      obtain rfl := s.types.types_of_synthesize_error made
      refine ⟨sound.of_supplied (.refl s.types) grows ?_ ?_ ?_, built⟩
      · exact evolved.coherent.of_same entries index caches
      · intro key proxyType found
        rcases cached key proxyType found with old | new
        · exact sound.cached id key proxyType old
        · cases new
      · exact fun type body held => .inl held
  | ok proxyType =>
      obtain ⟨members, declaration, assembly, rfl, rfl, linked⟩ :=
        s.types.assembly_of_synthesize made
      have extended := s.types.extends_define declaration
      refine ⟨sound.of_supplied extended grows ?_ ?_ ?_, built⟩
      · exact (evolved.coherent.of_same entries index caches).extend extended
      · intro key other found
        rcases cached key other found with old | new
        · exact (sound.cached id key other old).extend extended
        · exact built other new
      · intro type body held
        rcases s.types.mem_bodies_define held with old | ⟨_, new⟩
        · exact .inl old
        · right
          rcases assembly.of_mem_bodies new with ⟨which, rfl⟩ | ⟨member, listed, rfl⟩
          · exact ⟨trivial, trivial⟩
          · have reaches := (linked counted.coherent member listed).grow last
            have supported := assembly.supported member listed
            rcases assembly.routed member listed with ⟨_, dispatch, body⟩ | ⟨_, body⟩
            · rw [body] at reaches ⊢
              have placed : dispatch.Linked s.types ((s.world.putFactory id final).factory id)
                  member.target.slot := by
                rw [World.factory_putFactory, if_pos ⟨rfl, known⟩]
                exact reaches
              have inside : (MethodBody.intercepted member.target.slot dispatch id).LinkedIn
                  s.types (s.world.putFactory id final) := ⟨supported, placed⟩
              exact ⟨inside.extend extended, placed.alike⟩
            · rw [body]
              exact ⟨trivial, trivial⟩

/-- A proxy type that a factory is asked for, if there is an answer, is built. -/
theorem request {id : FactoryId} (known : id < s.world.factories.size) (request : TypeRequest)
    (descriptor : Descriptor) :
    (s.requestProxyType id request descriptor).2.Sound ∧
      ∀ proxyType, (s.requestProxyType id request descriptor).1 = .ok proxyType →
        (s.requestProxyType id request descriptor).2.types.Built proxyType := by
  have coherent := sound.coherent id
  -- A construction past the type cache, by a fresh request or in a factory that caches no types.
  have plain : ∀ result types after,
      s.types.synthesize id descriptor (s.world.factory id) = (result, types, after) →
      ({ s with types := types, world := s.world.putFactory id after } : Session).Sound ∧
        ∀ proxyType, result = .ok proxyType → types.Built proxyType := by
    intro result types after made
    refine sound.of_synthesize known (.refl coherent) made rfl rfl rfl ?_
    intro key proxyType found
    have kept := (s.types.evolves_synthesize id descriptor coherent).proxyTypes
    rw [made] at kept
    exact .inl (kept ▸ found)
  cases request with
  | lazyTargets => exact ⟨sound, fun proxyType impossible => by cases impossible⟩
  | fresh => exact plain _ _ _ rfl
  | cached =>
      unfold requestProxyType Universe.proxyTypeFor
      by_cases caches : (s.world.factory id).config.cacheProxyTypes = true
      · simp only [caches, if_true]
        unfold Universe.cachedProxyType
        cases found : (s.world.factory id).proxyTypes.find? descriptor.key with
        | some proxyType =>
            have counted : (s.world.factory id).Evolves s.types
                { s.world.factory id with
                  counters.proxyTypeHits := (s.world.factory id).counters.proxyTypeHits + 1 } :=
              Factory.evolves_count coherent rfl rfl rfl rfl rfl
            constructor
            · exact sound.of_grows (World.grows_putFactory counted)
                (World.coherent_putFactory counted.coherent sound.coherent)
            · intro other same
              obtain rfl : proxyType = other := Except.ok.inj same
              exact sound.cached id descriptor.key proxyType found
        | none =>
            have counted : (s.world.factory id).Evolves s.types
                { s.world.factory id with
                  counters.proxyTypeMisses := (s.world.factory id).counters.proxyTypeMisses + 1 } :=
              Factory.evolves_count coherent rfl rfl rfl rfl rfl
            have kept := (s.types.evolves_synthesize id descriptor counted.coherent).proxyTypes
            simp only []
            cases made : s.types.synthesize id descriptor
                { s.world.factory id with
                  counters.proxyTypeMisses :=
                    (s.world.factory id).counters.proxyTypeMisses + 1 } with
            | mk result rest =>
                obtain ⟨types, after⟩ := rest
                rw [made] at kept
                cases result with
                | error fault =>
                    refine sound.of_synthesize known counted made rfl rfl rfl ?_
                    intro key proxyType held
                    exact .inl (kept ▸ held)
                | ok proxyType =>
                    refine sound.of_synthesize known counted made rfl rfl rfl ?_
                    intro key other held
                    simp only [Table.find?_insert] at held
                    split at held
                    · exact .inr (congrArg Except.ok (Option.some.inj held))
                    · exact .inl (kept ▸ held)
      · simp only [caches]
        exact plain _ _ _ rfl

/-- A proxy that is created has a type that is built, or is not created at all. -/
theorem createProxy {id : FactoryId} (known : id < s.world.factories.size)
    (descriptor : Descriptor) (target : Option ObjectRef) (interceptor : Interceptor) :
    (s.createProxy id descriptor target interceptor).2.Sound := by
  obtain ⟨after, built⟩ := sound.request known .cached descriptor
  unfold Session.createProxy
  generalize s.requestProxyType id .cached descriptor = outcome at after built
  obtain ⟨result, s'⟩ := outcome
  cases result with
  | error fault => exact after
  | ok proxyType =>
      simp only []
      split
      · exact after
      · rename_i state placed
        have sameType : state.proxyType = proxyType := World.proxyType_setTarget placed
        have builtState : s'.types.Built state.proxyType := by
          rw [sameType]
          exact built proxyType rfl
        exact after.of_createProxy builtState

/-- Another interceptor changes the state of one proxy, whose type stays. -/
theorem setInterceptor (o : ObjectRef) (interceptor : Option Interceptor) :
    (s.setInterceptor o interceptor).2.Sound := by
  unfold Session.setInterceptor World.setInterceptor
  cases held : s.world.proxy? o with
  | none => exact sound
  | some state =>
      refine sound.of_grows (.of_factories rfl ?_) sound.coherent
      intro other after found
      rcases World.proxy?_putProxy found with old | ⟨sameId, rfl⟩
      · exact ⟨after, old, rfl⟩
      · refine ⟨state, ?_, rfl⟩
        unfold World.proxy? World.state? at held ⊢
        rw [← sameId]
        exact held

theorem setTarget (o : ObjectRef) (target : Option ObjectRef) : (s.setTarget o target).2.Sound :=
  sound.of_parallel (World.sameOutcome_setTarget sound.alike o target).2

/-- Whatever runs as it does in worlds that are alike. -/
theorem running {α : Type} {run : World → Option (α × World)} {outcome : α} {after : Session}
    (same : Option.Rel (World.SameOutcome s.types s.world s.world) (run s.world) (run s.world))
    (ran : s.running run = some (outcome, after)) : after.Sound := by
  unfold Session.running at ran
  cases called : run s.world with
  | none =>
      rw [called] at ran
      cases ran
  | some final =>
      rw [called] at ran same
      obtain ⟨_, rfl⟩ := Prod.mk.inj (Option.some.inj ran)
      exact sound.of_parallel (Option.rel_some_some.mp same).2

/-- Every step keeps a session sound. -/
theorem step {after : Session} (taken : Step s after) : after.Sound := by
  cases taken with
  | define declaration kind known => exact sound.define kind known
  | create type tag =>
      have grows : s.world.Grows (s.world.create type tag).2 :=
        .of_factories rfl fun o after held => ⟨after, World.proxy?_create held, rfl⟩
      exact sound.of_grows grows sound.coherent
  | addFactory config => exact sound.addFactory config
  | addFilter rule =>
      exact ⟨sound.coherent, sound.bodies, sound.linked, sound.cached, sound.proxies⟩
  | rename change =>
      refine sound.of_grows (.of_factories rfl ?_) sound.coherent
      exact fun o after held => ⟨after, held, rfl⟩
  | serve id serves =>
      have evolved := Factory.evolves_of_serves (sound.coherent id) serves
      exact sound.of_grows (World.grows_putFactory evolved)
        (World.coherent_putFactory evolved.coherent sound.coherent)
  | request id request descriptor known => exact (sound.request known request descriptor).1
  | instantiate proxyType built => exact sound.of_createProxy built
  | createProxy id descriptor target interceptor known =>
      exact sound.createProxy known descriptor target interceptor
  | setTarget o target => exact sound.setTarget o target
  | setInterceptor o interceptor => exact sound.setInterceptor o interceptor
  | invoke ran =>
      have faithful := s.types.faithful_callVirtual
      exact sound.running (Universe.parallel_invokeThrough (faithful _) _ _ _ _ sound.alike) ran
  | @invokeEntry _ depth id entry on arguments _ ran =>
      have faithful := s.types.faithful_callVirtual depth
      have evolved := (Factory.evolves_entryThunk (sound.coherent id) entry).2
      have parallel := World.parallel_onFactory sound.alike id evolved evolved
      exact sound.running (Universe.parallel_invokeVia faithful on arguments rfl parallel) ran
  | invokeThunk ran =>
      have faithful := s.types.faithful_callVirtual
      exact sound.running (Universe.parallel_invoke (faithful _) _ _ _ sound.alike) ran
  | @callVirtual _ depth on method frame _ ran =>
      have called : (World.keptAlike s.types).Respects (s.types.callVirtual depth) :=
        s.types.faithful_callVirtual depth
      refine sound.running ?_ ran
      exact World.Simulation.rel_framed called on method frame sound.alike
  | takeJournal =>
      refine sound.of_grows (.of_factories rfl ?_) sound.coherent
      exact fun o after held => ⟨after, held, rfl⟩

end Sound

/-- The predefined types have bodies of their own only. -/
theorem native_of_mem_bodies_initial {type : TypeId} {body : MethodBody}
    (held : body ∈ (Universe.initial.declaration type).bodies) : ∃ run, body = .native run := by
  match type with
  | 0 =>
      have listed : body ∈ [Universal.equalsBody, Universal.hashBody, Universal.textBody] := held
      simp only [List.mem_cons, List.not_mem_nil, or_false] at listed
      rcases listed with rfl | rfl | rfl <;> exact ⟨_, rfl⟩
  | 1 => cases held
  | further + 2 => cases held

/-- At first there are no proxies and nothing is cached. -/
theorem sound_initial : initial.Sound := by
  have empty : (⟨.initial, .empty, 0⟩ : Session).Sound := by
    constructor
    · exact fun _ => Factory.coherent_default _
    · intro type body held
      obtain ⟨run, rfl⟩ := native_of_mem_bodies_initial held
      exact trivial
    · intro type _ body held
      obtain ⟨run, rfl⟩ := native_of_mem_bodies_initial held
      exact trivial
    · intro id key proxyType found
      cases found
    · intro o state held
      cases held
  exact (empty.addFactory .standard).step (.rename fun scope => ((), scope.bindFactory "F" 0))

/-- Every session that can come about is sound. -/
theorem sound_of_reachable {s : Session} (reachable : Reachable s) : s.Sound := by
  induction reachable with
  | initial => exact sound_initial
  | step _ taken inductionHypothesis => exact inductionHypothesis.step taken

/-! ### Where types come from -/

/-- A construction defines one proxy type or none. -/
private theorem becomes_synthesize (u : Universe) (id : FactoryId) (descriptor : Descriptor)
    (f : Factory) :
    u.Becomes (u.synthesize id descriptor f).2.1 := by
  cases made : u.synthesize id descriptor f with
  | mk result rest =>
      obtain ⟨types, after⟩ := rest
      cases result with
      | error fault =>
          obtain rfl := u.types_of_synthesize_error made
          exact .nothing
      | ok proxyType => exact .synthesized made

/-- The type cache gives a type that is there, or has one constructed. -/
private theorem becomes_cachedProxyType (u : Universe) (id : FactoryId) (descriptor : Descriptor)
    (f : Factory) : u.Becomes (u.cachedProxyType id descriptor f).2.1 := by
  unfold Universe.cachedProxyType
  split
  · exact .nothing
  · have becomes := becomes_synthesize u id descriptor
      { f with counters.proxyTypeMisses := f.counters.proxyTypeMisses + 1 }
    simp only []
    cases made : u.synthesize id descriptor
        { f with counters.proxyTypeMisses := f.counters.proxyTypeMisses + 1 } with
    | mk result rest =>
        rw [made] at becomes
        cases result with
        | error fault => exact becomes
        | ok proxyType => exact becomes

/-- A request defines one proxy type or none, whichever way it goes. -/
theorem becomes_requestProxyType (s : Session) (id : FactoryId) (request : TypeRequest)
    (descriptor : Descriptor) :
    s.types.Becomes (s.requestProxyType id request descriptor).2.types := by
  cases request with
  | lazyTargets => exact .nothing
  | fresh => exact becomes_synthesize s.types id descriptor _
  | cached =>
      unfold requestProxyType Universe.proxyTypeFor
      by_cases caches : (s.world.factory id).config.cacheProxyTypes = true
      · simp only [caches, if_true]
        exact becomes_cachedProxyType s.types id descriptor _
      · simp only [caches]
        exact becomes_synthesize s.types id descriptor _

/-- Creating a proxy defines at most its type. -/
theorem becomes_createProxy (s : Session) (id : FactoryId) (descriptor : Descriptor)
    (target : Option ObjectRef) (interceptor : Interceptor) :
    s.types.Becomes (s.createProxy id descriptor target interceptor).2.types := by
  have becomes := becomes_requestProxyType s id .cached descriptor
  unfold createProxy
  generalize s.requestProxyType id .cached descriptor = outcome at becomes
  obtain ⟨result, after⟩ := outcome
  cases result with
  | error fault => exact becomes
  | ok proxyType =>
      simp only []
      split <;> exact becomes

theorem types_of_running {α : Type} {s after : Session} {run : World → Option (α × World)}
    {outcome : α} (ran : s.running run = some (outcome, after)) : after.types = s.types := by
  obtain ⟨final, _, same⟩ := Option.map_eq_some_iff.mp ran
  rw [← (Prod.mk.inj same).2]

/-- The types that are there stay. -/
theorem extends_of_becomes {u later : Universe} (becomes : u.Becomes later) : u.Extends later := by
  cases becomes with
  | nothing => exact .refl u
  | defined declaration kind => exact u.extends_define declaration
  | synthesized made =>
      obtain ⟨_, declaration, _, _, rfl, _⟩ := u.assembly_of_synthesize made
      exact u.extends_define declaration

/-- No step does more to the types than to define or to synthesize one. -/
theorem becomes_of_step {s after : Session} (taken : Step s after) :
    s.types.Becomes after.types := by
  cases taken with
  | define declaration kind known => exact .defined declaration kind
  | request id request descriptor known => exact becomes_requestProxyType s id request descriptor
  | createProxy id descriptor target interceptor known =>
      exact becomes_createProxy s id descriptor target interceptor
  | setTarget o target => exact .nothing
  | setInterceptor o interceptor => exact .nothing
  | invoke ran | invokeEntry ran | invokeThunk ran | callVirtual ran =>
      rw [types_of_running ran]
      exact .nothing
  | _ => exact .nothing

/-- Every proxy type that there is was built. -/
theorem built_of_kind {s : Session} (reachable : Reachable s) :
    ∀ type < s.types.size, s.types.kind type = .proxyType →
      ∃ proxyType, s.types.Built proxyType ∧ proxyType.type = type := by
  induction reachable with
  | initial =>
      intro type defined isProxy
      match type with
      | 0 | 1 => cases isProxy
      | further + 2 => exact absurd defined (Nat.not_lt.mpr (Nat.le_add_left 2 further))
  | @step s after reachable taken inductionHypothesis =>
      have becomes := becomes_of_step taken
      generalize after.types = types at becomes
      have older : s.types.Extends types → ∀ type < s.types.size, types.kind type = .proxyType →
          ∃ proxyType, types.Built proxyType ∧ proxyType.type = type := by
        intro extended type defined isProxy
        have sameKind : s.types.kind type = .proxyType :=
          (extended.kind_eq defined).symm.trans isProxy
        obtain ⟨proxyType, built, same⟩ := inductionHypothesis type defined sameKind
        exact ⟨proxyType, built.extend extended, same⟩
      intro type defined isProxy
      cases becomes with
      | nothing => exact inductionHypothesis type defined isProxy
      | defined declaration kind =>
          rcases s.types.lt_or_eq_of_lt_size_define defined with known | rfl
          · exact older (s.types.extends_define declaration) type known isProxy
          · have same : (s.types.define declaration).kind s.types.size = declaration.kind := by
              rw [Universe.kind, Universe.declaration_define_self]
              rfl
            exact absurd (same.symm.trans isProxy) kind
      | synthesized made =>
          obtain ⟨members, declaration, assembly, rfl, rfl, _⟩ :=
            s.types.assembly_of_synthesize made
          rcases s.types.lt_or_eq_of_lt_size_define defined with known | rfl
          · exact older (s.types.extends_define declaration) type known isProxy
          · exact ⟨_, ⟨_, _, _, _, _, _, made, .refl _⟩, rfl⟩

end Session

end Interpose
