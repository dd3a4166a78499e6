/-
Module: Interpose.Proofs.FactoryHistories
Purpose: What becomes of a factory while its session goes on, and what it never loses.
Main exports: Universe.Answers, Session.answers_requestProxyType, Factory.Moves, Factory.Becomes,
  Factory.Retains, Factory.Numbered, Session.becomes_of_leads
-/
import Interpose.Proofs.NestedCalls
import Interpose.Proofs.SimulatedBuilds

namespace Interpose

/-! ### Requests for proxy types -/

/-- How a factory answers a request for a proxy type, which does or does not go through
its type cache. -/
inductive Universe.Answers (u : Universe) (key : DescriptorKey) (f : Factory) :
    (throughCache : Bool) → Except Fault ProxyType → Factory → Prop where
  | found {proxyType : ProxyType} (held : f.proxyTypes.find? key = some proxyType) :
      Answers u key f true (.ok proxyType)
        { f with counters.proxyTypeHits := f.counters.proxyTypeHits + 1 }
  | missedRejected (absent : f.proxyTypes.find? key = none) (fault : Fault) :
      Answers u key f true (.error fault)
        { f with counters.proxyTypeMisses := f.counters.proxyTypeMisses + 1 }
  | missedBuilt {after : Factory} (absent : f.proxyTypes.find? key = none)
      (proxyType : ProxyType)
      (changes : Factory.Changes u
        { f with counters.proxyTypeMisses := f.counters.proxyTypeMisses + 1 } after) :
      Answers u key f true (.ok proxyType)
        { after.countProxyTypeBuilt with proxyTypes := after.proxyTypes.insert key proxyType }
  | rejected (fault : Fault) : Answers u key f false (.error fault) f
  | built {after : Factory} (proxyType : ProxyType) (changes : f.Changes u after) :
      Answers u key f false (.ok proxyType) after.countProxyTypeBuilt

namespace Universe

variable {u : Universe} {f : Factory}

/-- A request past the type cache is answered by a construction, which the cache does not learn of.
-/
private theorem answers_synthesize (coherent : f.Coherent u) (id : FactoryId)
    (descriptor : Descriptor) :
    u.Answers descriptor.key f false (u.synthesize id descriptor f).1
      (u.synthesize id descriptor f).2.2 := by
  rcases changes_synthesize id descriptor coherent with ⟨fault, rejected⟩ |
    ⟨proxyType, types, after, changes, made⟩
  · rw [rejected]
    exact .rejected fault
  · rw [made]
    exact .built proxyType changes

/-- A request through the type cache is answered by what the cache holds, or by a construction that
it is told of when it succeeds. -/
private theorem answers_cachedProxyType (coherent : f.Coherent u) (id : FactoryId)
    (descriptor : Descriptor) :
    u.Answers descriptor.key f true (u.cachedProxyType id descriptor f).1
      (u.cachedProxyType id descriptor f).2.2 := by
  unfold cachedProxyType
  cases held : f.proxyTypes.find? descriptor.key with
  | some proxyType => exact .found held
  | none =>
      have missed : Factory.Coherent u
          { f with counters.proxyTypeMisses := f.counters.proxyTypeMisses + 1 } :=
        coherent.of_same rfl rfl rfl
      simp only []
      rcases changes_synthesize id descriptor missed with ⟨fault, rejected⟩ |
        ⟨proxyType, types, after, changes, made⟩
      · rw [rejected]
        exact .missedRejected held fault
      · rw [made]
        exact .missedBuilt held proxyType changes

end Universe

namespace Session

def asksCache (s : Session) (id : FactoryId) (request : TypeRequest) : Bool :=
  decide (request = .cached) && (s.world.factory id).config.cacheProxyTypes

/-- A request is answered by the factory that it names, and no other factory is touched. -/
theorem answers_requestProxyType {s : Session} (sound : s.Sound) {id : FactoryId}
    (known : id < s.world.factories.size) (request : TypeRequest) (descriptor : Descriptor) :
    s.types.Answers descriptor.key (s.world.factory id) (s.asksCache id request)
        (s.requestProxyType id request descriptor).1
        ((s.requestProxyType id request descriptor).2.world.factory id) ∧
      ∀ other, id ≠ other →
        (s.requestProxyType id request descriptor).2.world.factory other =
          s.world.factory other := by
  have coherent := sound.coherent id
  have stored : ∀ f, (s.world.putFactory id f).factory id = f := by
    intro f
    rw [World.factory_putFactory, if_pos ⟨rfl, known⟩]
  have kept : ∀ f other, id ≠ other →
      (s.world.putFactory id f).factory other = s.world.factory other := by
    intro f other different
    rw [World.factory_putFactory, if_neg fun hit => different hit.1]
  cases request with
  | lazyTargets => exact ⟨.rejected _, fun _ _ => rfl⟩
  | fresh =>
      refine ⟨?_, kept _⟩
      simp only [requestProxyType, stored]
      exact s.types.answers_synthesize coherent id descriptor
  | cached =>
      refine ⟨?_, kept _⟩
      simp only [requestProxyType, stored, asksCache, Universe.proxyTypeFor]
      cases caches : (s.world.factory id).config.cacheProxyTypes with
      | true => exact s.types.answers_cachedProxyType coherent id descriptor
      | false => exact s.types.answers_synthesize coherent id descriptor

/-- A new proxy is a request for its type and, if that succeeds and the target is of the
right type, an object. -/
theorem factories_createProxy (s : Session) (id : FactoryId) (descriptor : Descriptor)
    (target : Option ObjectRef) (interceptor : Interceptor) :
    (s.createProxy id descriptor target interceptor).2.world.factories =
      (s.requestProxyType id .cached descriptor).2.world.factories := by
  unfold createProxy
  generalize s.requestProxyType id .cached descriptor = outcome
  obtain ⟨result, after⟩ := outcome
  cases result with
  | error fault => rfl
  | ok proxyType =>
      simp only []
      split <;> rfl

end Session

/-! ### Moves of a factory -/

namespace Factory

/-- Two factories that differ in their proxy types, in what is counted of these, and in the
configuration only. -/
structure SameThunks (f later : Factory) : Prop where
  entries : later.entries = f.entries
  index : later.thunkIndex = f.thunkIndex
  caches : later.specializationCaches = f.specializationCaches
  compilations : later.counters.thunkCompilations = f.counters.thunkCompilations

/-- What can become of a factory at a time. -/
inductive Moves (f : Factory) : Factory → Prop where
  | changed {u : Universe} {later : Factory} (change : f.Change u later) : Moves f later
  /-- A thunk is compiled for a delegate, past the caches. -/
  | delegated : Moves f f.countCompilation
  | retyped {later : Factory} (same : f.SameThunks later) : Moves f later

/-- What can become of a factory. -/
def Becomes : Factory → Factory → Prop := Relation.ReflTransGen Moves

theorem Changes.becomes {u : Universe} {f later : Factory} (changes : f.Changes u later) :
    f.Becomes later :=
  Relation.ReflTransGen.mono (fun _ _ change => Moves.changed change) _ _ changes

/-- A delegate is compiled past the caches: a compilation is counted, or nothing happens. -/
private theorem becomes_compile (u : Universe) (method : Method) (f : Factory) :
    f.Becomes (f.compile u method).2 := by
  cases compiled : u.compile method with
  | error fault =>
      rw [compile_of_error compiled]
      exact .refl
  | ok thunk =>
      rw [compile_of_ok compiled]
      exact .single .delegated

/-- There is nowhere to store the thunk of an entry that is not there. -/
private theorem storeThunk_of_size_le (f : Factory) {id : EntryId} (absent : f.entries.size ≤ id)
    (shared : SharedThunk) : f.storeThunk id shared = f := by
  unfold storeThunk
  have same :
      (f.entries.modify id fun entry => { entry with thunk := some shared }) = f.entries := by
    apply Array.ext_getElem?
    intro other
    rw [Array.getElem?_modify]
    split
    · rename_i hit
      rw [← hit, Array.getElem?_eq_none absent]
      rfl
    · rfl
  rw [same]

/-- An entry that is not there is compiled as if for a delegate. -/
theorem becomes_entryThunk (u : Universe) (id : EntryId) (f : Factory) :
    f.Becomes (f.entryThunk u id).2 := by
  by_cases known : id < f.entries.size
  · exact (changes_entryThunk known).becomes
  · have absent : f.entry id = default := f.entry_of_size_le (Nat.le_of_not_lt known)
    have empty : (f.entry id).thunk = none := congrArg Entry.thunk absent
    cases compiled : u.compile (f.entry id).method with
    | error fault =>
        rw [entryThunk_of_error empty compiled]
        exact .refl
    | ok thunk =>
        have unstored := f.countCompilation.storeThunk_of_size_le (Nat.le_of_not_lt known)
          (f.nextThunk thunk)
        rw [entryThunk_of_ok empty compiled, unstored]
        exact .single .delegated

/-- A cache that is not there takes no type arguments. -/
private theorem specialize_of_size_le (u : Universe) {f : Factory} {id : CacheId}
    (absent : f.specializationCaches.size ≤ id) (arguments : List RuntimeType) :
    (f.specialize u id arguments).2 = f := by
  have same : f.specializationCache id = default := f.specializationCache_of_size_le absent
  have rejected : ∃ fault, u.makeGeneric (f.specializationCache id).slot.toMethod arguments =
      .error fault := by
    have plain : (u.signature (default : Slot)).arity = 0 := by
      have declared : u.declarations[(default : Slot).parent]? =
        some Universal.objectDeclaration := u.objectType_declared
      simp only [Universe.signature, Universe.methodDeclaration?, Universe.declaration, declared]
      rfl
    rw [same]
    exact ⟨_, if_pos (.inl plain)⟩
  obtain ⟨fault, rejected⟩ := rejected
  have nothing : (f.specializationCache id).specializations.find? arguments = none := by
    rw [same]
    rfl
  rw [specialize_of_error nothing rejected]

/-- Specializing is a move whether or not the cache is there. -/
theorem becomes_specialize (u : Universe) (id : CacheId) (arguments : List RuntimeType)
    (f : Factory) : f.Becomes (f.specialize u id arguments).2 := by
  by_cases known : id < f.specializationCaches.size
  · exact (changes_specialize known arguments).becomes
  · rw [specialize_of_size_le u (Nat.le_of_not_lt known)]
    exact .refl

/-- A factory that served a call did nothing but look up and count. -/
theorem becomes_of_serves {u : Universe} {f after : Factory} (coherent : f.Coherent u)
    (serves : f.Serves u after) : f.Becomes after := by
  cases serves with
  | compile method => exact becomes_compile u method f
  | thunkEntry method => exact Changes.becomes (u := u) (changes_thunkEntry method)
  | entryThunk id => exact becomes_entryThunk u id f
  | getOrCompile method => exact (changes_getOrCompile coherent method).becomes
  | addSpecializationCache slot =>
      exact Changes.becomes (u := u) (changes_addSpecializationCache slot)
  | specialize cache arguments => exact becomes_specialize u cache arguments f

/-- A request for a proxy type is a sequence of moves, whichever way it is answered. -/
theorem becomes_of_answers {u : Universe} {key : DescriptorKey} {f after : Factory} {cached : Bool}
    {result : Except Fault ProxyType} (answers : u.Answers key f cached result after) :
    f.Becomes after := by
  cases answers with
  | found held => exact .single (.retyped ⟨rfl, rfl, rfl, rfl⟩)
  | missedRejected absent fault => exact .single (.retyped ⟨rfl, rfl, rfl, rfl⟩)
  | missedBuilt absent proxyType changes =>
      exact (Relation.ReflTransGen.single (.retyped ⟨rfl, rfl, rfl, rfl⟩)).trans
        (changes.becomes.tail (.retyped ⟨rfl, rfl, rfl, rfl⟩))
  | rejected fault => exact .refl
  | built proxyType changes => exact changes.becomes.tail (.retyped ⟨rfl, rfl, rfl, rfl⟩)

/-! ### What a factory never loses -/

/-- What caches and entries hold they go on holding: an entry keeps its key, a thunk its
entry, and a specialization its type arguments. -/
structure Retains (f later : Factory) : Prop where
  indexed : ∀ method id, f.thunkIndex.find? method = some id →
    later.thunkIndex.find? method = some id
  thunks : ∀ id shared, (f.entry id).thunk = some shared → (later.entry id).thunk = some shared
  specializations : ∀ cache arguments specialization,
    (f.specializationCache cache).specializations.find? arguments = some specialization →
      (later.specializationCache cache).specializations.find? arguments = some specialization

theorem Retains.refl (f : Factory) : f.Retains f :=
  ⟨fun _ _ found => found, fun _ _ held => held, fun _ _ _ found => found⟩

/-- What is held is held through any number of steps. -/
theorem Retains.trans {f later further : Factory} (first : f.Retains later)
    (second : later.Retains further) : f.Retains further where
  indexed := fun method id found => second.indexed method id (first.indexed method id found)
  thunks := fun id shared held => second.thunks id shared (first.thunks id shared held)
  specializations := fun cache arguments specialization found =>
    second.specializations cache arguments specialization
      (first.specializations cache arguments specialization found)

/-- Thunks are told apart by numbers: those that entries hold were counted before, and no
two entries hold thunks of one number. -/
structure Numbered (f : Factory) : Prop where
  counted : ∀ id shared, (f.entry id).thunk = some shared →
    shared.serial < f.counters.thunkCompilations
  distinct : ∀ id other shared sharedOther, (f.entry id).thunk = some shared →
    (f.entry other).thunk = some sharedOther → shared.serial = sharedOther.serial → id = other

section Held

variable {f later : Factory}

theorem lt_of_held {id : EntryId} {shared : SharedThunk} (held : (f.entry id).thunk = some shared) :
    id < f.entries.size := by
  by_contra absent
  rw [f.entry_of_size_le (Nat.le_of_not_lt absent)] at held
  cases held

theorem entry_addToThunkIndex (f : Factory) (method : Method) (thunk : Option SharedThunk)
    (id : EntryId) :
    (f.addToThunkIndex method thunk).2.entry id =
      if id = f.entries.size then ⟨method, thunk⟩ else f.entry id :=
  entry_push f ⟨method, thunk⟩ id

private theorem entry_addSpecialization (f : Factory) (cache : CacheId)
    (arguments : List RuntimeType) (method : Method) (id : EntryId) :
    (f.addSpecialization cache arguments method).entry id =
      if id = f.entries.size then ⟨method, none⟩ else f.entry id :=
  entry_push f ⟨method, none⟩ id

private theorem specializationCache_addSpecializationCache (f : Factory) (slot : Slot)
    (id : CacheId) :
    (f.addSpecializationCache slot).2.specializationCache id =
      if id = f.specializationCaches.size then ⟨slot, .empty⟩ else f.specializationCache id := by
  unfold specializationCache addSpecializationCache
  rw [Array.getElem?_push]
  split <;> rfl

/-- A key that was absent comes in, and nothing else changes. -/
theorem retains_addToThunkIndex {method : Method} (absent : f.thunkIndex.find? method = none)
    (thunk : Option SharedThunk) : f.Retains (f.addToThunkIndex method thunk).2 where
  indexed := by
    intro other id found
    have different : method ≠ other := by
      rintro rfl
      rw [absent] at found
      cases found
    exact (f.thunkIndex.find?_insert_of_ne _ different).trans found
  thunks := by
    intro id shared held
    rw [entry_addToThunkIndex, if_neg (Nat.ne_of_lt (lt_of_held held))]
    exact held
  specializations := fun _ _ _ found => found

/-- An entry without a thunk may get one; whatever was held is still held. -/
private theorem retains_storeThunk {id : EntryId} (empty : (f.entry id).thunk = none)
    (shared : SharedThunk) : f.Retains (f.storeThunk id shared) where
  indexed := fun _ _ found => found
  thunks := by
    intro other held found
    have different : id ≠ other := by
      rintro rfl
      rw [empty] at found
      cases found
    rw [storeThunk, entry_storeThunk, if_neg fun hit => different hit.1]
    exact found
  specializations := fun _ _ _ found => found

private theorem retains_addSpecializationCache (slot : Slot) :
    f.Retains (f.addSpecializationCache slot).2 where
  indexed := fun _ _ found => found
  thunks := fun _ _ held => held
  specializations := by
    intro cache arguments specialization found
    rw [specializationCache_addSpecializationCache]
    split
    · rename_i new
      rw [new, f.specializationCache_of_size_le (Nat.le_refl _)] at found
      cases found
    · exact found

/-- Type arguments that were absent come in, with a new entry, and nothing else changes. -/
private theorem retains_addSpecialization {id : CacheId} {arguments : List RuntimeType}
    (absent : (f.specializationCache id).specializations.find? arguments = none)
    (method : Method) : f.Retains (f.addSpecialization id arguments method) where
  indexed := fun _ _ found => found
  thunks := by
    intro other shared held
    rw [entry_addSpecialization, if_neg (Nat.ne_of_lt (lt_of_held held))]
    exact held
  specializations := by
    intro cache others specialization found
    have stored := specializationCache_store f id cache arguments
      ⟨arguments, method, f.entries.size⟩
    have same : (f.addSpecialization id arguments method).specializationCache cache = _ := stored
    rw [same]
    split
    · rename_i hit
      have different : arguments ≠ others := by
        rintro rfl
        rw [hit.1, found] at absent
        cases absent
      exact (Table.find?_insert_of_ne _ _ different).trans found
    · exact found

/-- No move of a factory takes anything away. -/
theorem retains_of_moves (moves : f.Moves later) : f.Retains later := by
  cases moves with
  | changed change =>
      cases change with
      | counted => exact ⟨fun _ _ found => found, fun _ _ held => held, fun _ _ _ found => found⟩
      | entered absent => exact retains_addToThunkIndex absent none
      | enteredCompiled absent right =>
          have kept := retains_addToThunkIndex (f := f.countCompilation) absent
          exact ⟨(kept _).indexed, (kept _).thunks, (kept _).specializations⟩
      | compiled known empty right =>
          have kept := retains_storeThunk (f := f.countCompilation) empty
          exact ⟨(kept _).indexed, (kept _).thunks, (kept _).specializations⟩
      | cacheAdded slot => exact retains_addSpecializationCache slot
      | specialized known absent closed => exact retains_addSpecialization absent _
  | delegated => exact ⟨fun _ _ found => found, fun _ _ held => held, fun _ _ _ found => found⟩
  | retyped same =>
      constructor
      · rw [same.index]
        exact fun _ _ found => found
      · unfold entry
        rw [same.entries]
        exact fun _ _ held => held
      · unfold specializationCache
        rw [same.caches]
        exact fun _ _ _ found => found

/-- Numbers stay distinct if at most one entry gets a thunk, of the next number. -/
theorem Numbered.add (numbered : f.Numbered) (new : EntryId)
    (grown : f.counters.thunkCompilations ≤ later.counters.thunkCompilations)
    (held : ∀ id shared, (later.entry id).thunk = some shared →
      (f.entry id).thunk = some shared ∨
        (id = new ∧ shared.serial = f.counters.thunkCompilations ∧
          f.counters.thunkCompilations < later.counters.thunkCompilations)) :
    later.Numbered where
  counted := by
    intro id shared found
    rcases held id shared found with old | ⟨_, serial, further⟩
    · exact Nat.lt_of_lt_of_le (numbered.counted id shared old) grown
    · rw [serial]
      exact further
  distinct := by
    intro id other shared sharedOther found foundOther same
    rcases held id shared found with old | ⟨rfl, serial, _⟩
    · rcases held other sharedOther foundOther with oldOther | ⟨rfl, serial, _⟩
      · exact numbered.distinct id other shared sharedOther old oldOther same
      · have before := numbered.counted id shared old
        omega
    · rcases held other sharedOther foundOther with oldOther | ⟨rfl, _, _⟩
      · have before := numbered.counted other sharedOther oldOther
        omega
      · rfl

/-- A new entry has no thunk, or the next one. -/
private theorem held_push {id : EntryId} {method : Method} {thunk : Option SharedThunk}
    {shared : SharedThunk}
    (held : (if id = f.entries.size then (⟨method, thunk⟩ : Entry) else f.entry id).thunk =
      some shared) :
    (f.entry id).thunk = some shared ∨ (id = f.entries.size ∧ thunk = some shared) := by
  split at held
  · rename_i new
    exact .inr ⟨new, held⟩
  · exact .inl held

/-- Every move keeps the numbers apart: a thunk is numbered when its compilation is counted, and is
stored in one entry only. -/
private theorem numbered_of_moves (numbered : f.Numbered) (moves : f.Moves later) :
    later.Numbered := by
  cases moves with
  | changed change =>
      cases change with
      | counted => exact ⟨numbered.counted, numbered.distinct⟩
      | entered absent =>
          refine numbered.add f.entries.size (Nat.le_refl _) ?_
          intro id shared held
          rw [entry_addToThunkIndex] at held
          rcases held_push held with old | ⟨_, impossible⟩
          · exact .inl old
          · cases impossible
      | @enteredCompiled method thunk absent right =>
          refine numbered.add f.entries.size (Nat.le_succ _) ?_
          intro id shared held
          rw [entry_addToThunkIndex] at held
          rcases held_push held with old | ⟨new, next⟩
          · exact .inl old
          · obtain rfl := Option.some.inj next
            exact .inr ⟨new, rfl, Nat.lt_succ_self _⟩
      | @compiled id thunk known empty right =>
          refine numbered.add id (Nat.le_succ _) ?_
          intro other shared held
          rw [storeThunk, entry_storeThunk] at held
          split at held
          · rename_i hit
            obtain rfl := Option.some.inj held
            exact .inr ⟨hit.1.symm, rfl, Nat.lt_succ_self _⟩
          · exact .inl held
      | cacheAdded slot => exact ⟨numbered.counted, numbered.distinct⟩
      | specialized known absent closed =>
          refine numbered.add f.entries.size (Nat.le_refl _) ?_
          intro id shared held
          rw [entry_addSpecialization] at held
          rcases held_push held with old | ⟨_, impossible⟩
          · exact .inl old
          · cases impossible
  | delegated =>
      exact numbered.add 0 (Nat.le_succ _) fun _ _ held => .inl held
  | retyped same =>
      refine numbered.add 0 (Nat.le_of_eq same.compilations.symm) ?_
      intro id shared held
      unfold entry at held ⊢
      rw [same.entries] at held
      exact .inl held

end Held

theorem retains_of_becomes {f later : Factory} (becomes : f.Becomes later) : f.Retains later := by
  induction becomes with
  | refl => exact .refl f
  | tail _ moves inductionHypothesis => exact inductionHypothesis.trans (retains_of_moves moves)

/-- Whatever becomes of a factory, its thunks are told apart by their numbers. -/
theorem numbered_of_becomes {f later : Factory} (numbered : f.Numbered)
    (becomes : f.Becomes later) : later.Numbered := by
  induction becomes with
  | refl => exact numbered
  | tail _ moves inductionHypothesis => exact numbered_of_moves inductionHypothesis moves

/-- A factory that is not there has no thunks. -/
theorem numbered_default : (default : Factory).Numbered := by
  have nothing : ∀ id, ((default : Factory).entry id).thunk = none := by
    intro id
    rw [entry_of_size_le _ (Nat.zero_le id)]
    rfl
  constructor
  · intro id shared held
    rw [nothing] at held
    cases held
  · intro id other shared _ held
    rw [nothing] at held
    cases held

end Factory

namespace Session

theorem changes_of_factories {w later : World} (same : later.factories = w.factories)
    (u : Universe) (id : FactoryId) : (w.factory id).Changes u (later.factory id) := by
  unfold World.factory
  rw [same]
  exact .refl u _

private theorem becomes_of_factories {w later : World} (same : later.factories = w.factories)
    (id : FactoryId) : (w.factory id).Becomes (later.factory id) :=
  (changes_of_factories same .initial id).becomes

theorem factories_setInterceptor (w : World) (o : ObjectRef) (interceptor : Option Interceptor) :
    (w.setInterceptor o interceptor).2.factories = w.factories := by
  unfold World.setInterceptor
  split <;> rfl

/-- A factory that is put in place of one that became it. -/
private theorem becomes_putFactory {w : World} {id : FactoryId} {f : Factory}
    (becomes : (w.factory id).Becomes f) (other : FactoryId) :
    (w.factory other).Becomes ((w.putFactory id f).factory other) := by
  rw [World.factory_putFactory]
  split
  · rename_i hit
    rw [← hit.1]
    exact becomes
  · exact .refl

/-- Whatever makes progress while it runs changes the factories. -/
theorem changes_running {α : Type} {s after : Session} {run : World → Option (α × World)}
    {outcome : α}
    (same : Option.Rel ((World.progress s.types).Same s.world s.world) (run s.world) (run s.world))
    (ran : s.running run = some (outcome, after)) (id : FactoryId) :
    (s.world.factory id).Changes s.types (after.world.factory id) := by
  obtain ⟨⟨result, w⟩, called, kept⟩ := Option.map_eq_some_iff.mp ran
  obtain ⟨_, rfl⟩ := Prod.mk.inj kept
  exact (World.progresses_of_rel same called).changes id

/-- A factory that is new was one with empty caches before, as every one that is not there. -/
private theorem becomes_addFactory (w : World) (config : Config) (id : FactoryId) :
    (w.factory id).Becomes ((w.addFactory config).2.factory id) := by
  rw [World.factory_addFactory]
  split
  · rename_i new
    rw [World.factory_of_size_le (Nat.le_of_eq new.symm)]
    exact .single (.retyped ⟨rfl, rfl, rfl, rfl⟩)
  · exact .refl

variable {s after : Session} (sound : s.Sound)

include sound

/-- A request for a proxy type moves the factory that it names, and no other. -/
theorem Sound.becomes_requestProxyType {id : FactoryId} (known : id < s.world.factories.size)
    (request : TypeRequest) (descriptor : Descriptor) (other : FactoryId) :
    (s.world.factory other).Becomes
      ((s.requestProxyType id request descriptor).2.world.factory other) := by
  obtain ⟨answers, kept⟩ := answers_requestProxyType sound known request descriptor
  by_cases same : id = other
  · rw [← same]
    exact Factory.becomes_of_answers answers
  · rw [kept other same]
    exact .refl

/-- Calling an entry looks its thunk up, even if the entry is not there, and runs it. -/
theorem Sound.becomes_invokeEntry {depth : Nat} {factory : FactoryId} {entry : EntryId}
    {on : ObjectRef} {arguments : List Value} {outcome : CallResult}
    (respects : (World.progress s.types).Respects (s.types.callVirtual depth))
    (ran : s.invokeEntry depth factory entry on arguments = some (outcome, after))
    (id : FactoryId) : (s.world.factory id).Becomes (after.world.factory id) := by
  have evolved := (Factory.evolves_entryThunk (sound.coherent factory) entry).2
  have alike := (World.parallel_onFactory sound.alike factory evolved evolved).alike
  have looked := becomes_putFactory (w := s.world)
    (Factory.becomes_entryThunk s.types entry (s.world.factory factory)) id
  obtain ⟨⟨result, w⟩, called, same⟩ := Option.map_eq_some_iff.mp ran
  obtain ⟨_, rfl⟩ := Prod.mk.inj same
  simp only [Universe.invokeEntry, Universe.invokeVia, World.onFactory] at called alike
  generalize (s.world.factory factory).entryThunk s.types entry = found at called alike looked
  obtain ⟨answer, f⟩ := found
  cases answer with
  | error fault =>
      obtain ⟨_, rfl⟩ := Prod.mk.inj (Option.some.inj called)
      exact looked
  | ok shared =>
      have invoked := World.progresses_of_rel
        (World.Simulation.rel_invoke respects shared.thunk on arguments ⟨rfl, alike⟩) called
      exact looked.trans (invoked.changes id).becomes

/-- What becomes of the factories of a session when something is done to it. -/
theorem Sound.becomes_of_step (taken : Step s after) (id : FactoryId) :
    (s.world.factory id).Becomes (after.world.factory id) := by
  have related : (World.progress s.types).related s.world s.world := ⟨rfl, sound.alike⟩
  have respects := (World.progress s.types).respects_callVirtual
  cases taken with
  | define declaration kind known => exact .refl
  | create type tag => exact becomes_of_factories rfl id
  | addFactory config => exact becomes_addFactory s.world config id
  | addFilter rule => exact .refl
  | rename change => exact becomes_of_factories rfl id
  | serve other serves =>
      exact becomes_putFactory (Factory.becomes_of_serves (sound.coherent other) serves) id
  | request other request descriptor known =>
      exact sound.becomes_requestProxyType known request descriptor id
  | instantiate proxyType built => exact becomes_of_factories rfl id
  | createProxy other descriptor target interceptor known =>
      have requested := sound.becomes_requestProxyType known .cached descriptor id
      have same := s.factories_createProxy other descriptor target interceptor
      exact requested.trans (becomes_of_factories same id)
  | setTarget o target =>
      obtain ⟨_, _, _, progresses⟩ := (World.progress s.types).same_setTarget related o target
      exact (progresses.changes id).becomes
  | setInterceptor o interceptor =>
      exact becomes_of_factories (factories_setInterceptor s.world o interceptor) id
  | invoke ran =>
      exact (changes_running
        (World.Simulation.rel_invokeThrough (respects _) _ _ _ _ related) ran id).becomes
  | @invokeEntry _ depth other entry on arguments _ ran =>
      exact sound.becomes_invokeEntry (respects depth) ran id
  | invokeThunk ran =>
      exact (changes_running
        (World.Simulation.rel_invoke (respects _) _ _ _ related) ran id).becomes
  | @callVirtual _ depth on method frame _ ran =>
      exact (changes_running
        (World.Simulation.rel_framed (respects depth) on method frame related) ran id).becomes
  | takeJournal => exact becomes_of_factories rfl id

theorem Sound.becomes_of_advances (advances : s.Advances after) (id : FactoryId) :
    (s.world.factory id).Becomes (after.world.factory id) := by
  cases advances with
  | step taken => exact sound.becomes_of_step taken id
  | enters entered => exact ((sound.progresses_of_enters entered).2.changes id).becomes

theorem Sound.becomes_of_leads (leads : s.Leads after) (id : FactoryId) :
    (s.world.factory id).Becomes (after.world.factory id) := by
  induction leads with
  | refl => exact .refl
  | tail before advances inductionHypothesis =>
      exact inductionHypothesis.trans ((sound.leads before).becomes_of_advances advances id)

theorem Sound.onFactory {α : Type} {id : FactoryId} {operation : Factory → α × Factory}
    (evolved : (s.world.factory id).Evolves s.types (operation (s.world.factory id)).2) :
    (s.onFactory id operation).2.Sound :=
  sound.of_grows (World.grows_putFactory evolved)
    (World.coherent_putFactory evolved.coherent sound.coherent)

/-- What an operation makes of a factory is what the factory goes on from. -/
theorem Sound.becomes_after {α : Type} {id : FactoryId} {operation : Factory → α × Factory}
    (known : id < s.world.factories.size)
    (evolved : (s.world.factory id).Evolves s.types (operation (s.world.factory id)).2)
    {later : Session} (leads : (s.onFactory id operation).2.Leads later) :
    (operation (s.world.factory id)).2.Becomes (later.world.factory id) := by
  have stored := World.factory_onFactory (w := s.world) operation known
  rw [← stored]
  exact (sound.onFactory evolved).becomes_of_leads leads id

omit sound

/-- In every session that can come about thunks are told apart by their numbers. -/
theorem numbered_of_occurs (occurs : s.Occurs) (id : FactoryId) :
    (s.world.factory id).Numbered := by
  have first : (World.empty.factory id).Numbered := Factory.numbered_default
  have started := becomes_addFactory World.empty .standard id
  have later := sound_initial.becomes_of_leads occurs id
  exact Factory.numbered_of_becomes first (started.trans later)

end Session

end Interpose
