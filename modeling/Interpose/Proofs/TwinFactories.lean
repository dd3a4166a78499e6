/-
Module: Interpose.Proofs.TwinFactories
Purpose: Two factories of which one compiles thunks earlier than the other: whatever is asked of
  them, they answer alike and stay so.
Main exports: Factory.stripped, Factory.Twin, Factory.Twin.answer, Factory.Twin.proceedSlot,
  Universe.sameSupply_proxyTypeFor
-/
import Interpose.Proofs.Operations
import Interpose.Proofs.SimulatedBuilds

namespace Interpose

namespace Factory

/-- A factory as if it had never compiled anything. -/
def stripped (f : Factory) : Factory :=
  { f with
    config.eagerThunks := false
    counters.thunkCompilations := 0
    entries := f.entries.map fun entry => { entry with thunk := none } }

/-- Two factories of which the other one compiles earlier.  They differ only in what is compiled
and in how often something was, and what the one has compiled the other has. -/
structure Twin (f other : Factory) : Prop where
  stripped : f.stripped = other.stripped
  eager : f.config.eagerThunks = true → other.config.eagerThunks = true
  compiled : ∀ id, f.isCompiled id = true → other.isCompiled id = true

/-! ### Factories without thunks -/

private theorem size_stripped (f : Factory) : f.stripped.entries.size = f.entries.size :=
  Array.size_map

private theorem entry_stripped (f : Factory) (id : EntryId) :
    (f.stripped.entry id).method = (f.entry id).method := by
  unfold entry stripped
  simp only [Array.getElem?_map]
  cases f.entries[id]? <;> rfl

/-- A stored thunk cannot be seen once all thunks are left out of account. -/
private theorem stripped_storeThunk (f : Factory) (id : EntryId) (shared : SharedThunk) :
    (f.storeThunk id shared).stripped = f.stripped := by
  have entries : (f.storeThunk id shared).stripped.entries = f.stripped.entries := by
    unfold stripped storeThunk
    apply Array.ext_getElem?
    intro other
    simp only [Array.getElem?_map, Array.getElem?_modify]
    split
    · cases f.entries[other]? <;> rfl
    · rfl
  have same : (f.storeThunk id shared).stripped =
      { f.stripped with entries := (f.storeThunk id shared).stripped.entries } := rfl
  rw [same, entries]

private theorem stripped_addToThunkIndex (f : Factory) (method : Method)
    (thunk : Option SharedThunk) :
    (f.addToThunkIndex method thunk).2.stripped = (f.stripped.addToThunkIndex method none).2 := by
  unfold addToThunkIndex addEntry stripped
  simp only [Array.map_push, Array.size_map]

private theorem stripped_addSpecialization (f : Factory) (cache : CacheId)
    (arguments : List RuntimeType) (method : Method) :
    (f.addSpecialization cache arguments method).stripped =
      f.stripped.addSpecialization cache arguments method := by
  unfold addSpecialization stripped
  simp only [Array.map_push, Array.size_map]

namespace Twin

variable {u : Universe} {f other : Factory}

theorem refl (f : Factory) : f.Twin f := ⟨rfl, id, fun _ held => held⟩

variable (twin : f.Twin other)

include twin

theorem size : f.entries.size = other.entries.size := by
  rw [← f.size_stripped, ← other.size_stripped, twin.stripped]

theorem method (id : EntryId) : (f.entry id).method = (other.entry id).method := by
  rw [← f.entry_stripped, ← other.entry_stripped, twin.stripped]

theorem index : f.thunkIndex = other.thunkIndex := by
  have same := congrArg thunkIndex twin.stripped
  exact same

theorem caches : f.specializationCaches = other.specializationCaches := by
  have same := congrArg specializationCaches twin.stripped
  exact same

theorem cache (id : CacheId) : f.specializationCache id = other.specializationCache id := by
  unfold specializationCache
  rw [twin.caches]

theorem proxyTypes : f.proxyTypes = other.proxyTypes := by
  have same := congrArg Factory.proxyTypes twin.stripped
  exact same

theorem caching : f.config.cacheProxyTypes = other.config.cacheProxyTypes := by
  have same := congrArg (·.config.cacheProxyTypes) twin.stripped
  exact same

/-- Twins report the same, but for how often something was compiled. -/
theorem report : other.report =
    { f.report with thunkCompilations := other.counters.thunkCompilations } := by
  have same := congrArg Factory.report twin.stripped
  exact congrArg (fun report : Report =>
    { report with thunkCompilations := other.counters.thunkCompilations }) same.symm

/-! ### Single changes -/

/-- A change that does not look at the entries. -/
theorem count (change : Factory → Factory) (stripped : ∀ g, (change g).stripped = change g.stripped)
    (config : ∀ g, (change g).config = g.config) (entries : ∀ g, (change g).entries = g.entries) :
    (change f).Twin (change other) where
  stripped := by rw [stripped, stripped, twin.stripped]
  eager := by
    rw [config, config]
    exact twin.eager
  compiled := by
    unfold isCompiled entry
    rw [entries, entries]
    exact twin.compiled

theorem countThunkHit : f.countThunkHit.Twin other.countThunkHit :=
  twin.count Factory.countThunkHit (fun _ => rfl) (fun _ => rfl) fun _ => rfl

theorem countIntercepted : f.countIntercepted.Twin other.countIntercepted :=
  twin.count Factory.countIntercepted (fun _ => rfl) (fun _ => rfl) fun _ => rfl

theorem countPassThrough : f.countPassThrough.Twin other.countPassThrough :=
  twin.count Factory.countPassThrough (fun _ => rfl) (fun _ => rfl) fun _ => rfl

theorem countProxyTypeBuilt : f.countProxyTypeBuilt.Twin other.countProxyTypeBuilt :=
  twin.count Factory.countProxyTypeBuilt (fun _ => rfl) (fun _ => rfl) fun _ => rfl

private theorem countCompilation_left : f.countCompilation.Twin other :=
  ⟨twin.stripped, twin.eager, twin.compiled⟩

private theorem countCompilation_right : f.Twin other.countCompilation :=
  ⟨twin.stripped, twin.eager, twin.compiled⟩

/-- An entry gets its thunk on one side, where the other has it already. -/
private theorem storeThunk_left {id : EntryId}
    (there : id < f.entries.size → other.isCompiled id = true)
    (shared : SharedThunk) : (f.storeThunk id shared).Twin other where
  stripped := (f.stripped_storeThunk id shared).trans twin.stripped
  eager := twin.eager
  compiled := by
    intro entry held
    unfold isCompiled at held
    rw [storeThunk, entry_storeThunk] at held
    split at held
    · rename_i hit
      rw [← hit.1]
      exact there hit.2
    · exact twin.compiled entry held

/-- The other side may get thunks at any time. -/
private theorem storeThunk_right (id : EntryId) (shared : SharedThunk) :
    f.Twin (other.storeThunk id shared) where
  stripped := twin.stripped.trans (other.stripped_storeThunk id shared).symm
  eager := twin.eager
  compiled := by
    intro entry held
    unfold isCompiled
    rw [storeThunk, entry_storeThunk]
    split
    · rfl
    · exact twin.compiled entry held

/-- A new entry of one method on both sides. -/
theorem push {later laterOther : Factory} (stripped : later.stripped = laterOther.stripped)
    (config : later.config = f.config) (configOther : laterOther.config = other.config)
    {method : Method} {thunk thunkOther : Option SharedThunk}
    (entries : later.entries = f.entries.push ⟨method, thunk⟩)
    (entriesOther : laterOther.entries = other.entries.push ⟨method, thunkOther⟩)
    (there : thunk.isSome = true → thunkOther.isSome = true) : later.Twin laterOther where
  stripped := stripped
  eager := by
    rw [config, configOther]
    exact twin.eager
  compiled := by
    intro id held
    unfold isCompiled at held ⊢
    rw [entry_of_push entries, twin.size] at held
    rw [entry_of_push entriesOther]
    by_cases new : id = other.entries.size
    · rw [if_pos new] at held ⊢
      exact there held
    · rw [if_neg new] at held ⊢
      exact twin.compiled id held

theorem addToThunkIndex (method : Method) {thunk thunkOther : Option SharedThunk}
    (there : thunk.isSome = true → thunkOther.isSome = true) :
    (f.addToThunkIndex method thunk).2.Twin (other.addToThunkIndex method thunkOther).2 := by
  refine twin.push ?_ rfl rfl rfl rfl there
  rw [stripped_addToThunkIndex, stripped_addToThunkIndex, twin.stripped]

/-! ### Operations -/

/-- Twins have the same entry for a method, and stay twins if it has to be made. -/
theorem thunkEntry (method : Method) :
    (f.thunkEntry method).1 = (other.thunkEntry method).1 ∧
      (f.thunkEntry method).2.Twin (other.thunkEntry method).2 := by
  unfold Factory.thunkEntry
  rw [← twin.index]
  cases f.thunkIndex.find? method with
  | some id => exact ⟨rfl, twin.countThunkHit⟩
  | none => exact ⟨twin.size, twin.addToThunkIndex method id⟩

/-- A thunk that is asked for on the other side only. -/
private theorem entryThunk_right (u : Universe) (id : EntryId) : f.Twin
    (other.entryThunk u id).2 := by
  cases held : (other.entry id).thunk with
  | some shared =>
      rw [entryThunk_of_some held]
      exact twin
  | none =>
      cases compiled : u.compile (other.entry id).method with
      | error fault =>
          rw [entryThunk_of_error held compiled]
          exact twin
      | ok thunk =>
          rw [entryThunk_of_ok held compiled]
          exact twin.countCompilation_right.storeThunk_right id _

variable (coherent : f.Coherent u) (coherentOther : other.Coherent u)

include coherent coherentOther

/-- An entry has the same thunk on both sides, and afterwards both have compiled it. -/
theorem entryThunk (id : EntryId) :
    (f.entryThunk u id).1.map (·.thunk) = (other.entryThunk u id).1.map (·.thunk) ∧
      (f.entryThunk u id).2.Twin (other.entryThunk u id).2 := by
  have result := (evolves_entryThunk coherent id).1
  have resultOther := (evolves_entryThunk coherentOther id).1
  refine ⟨result.trans (Eq.trans (congrArg u.compile (twin.method id)) resultOther.symm), ?_⟩
  have right := twin.entryThunk_right u id
  cases held : (f.entry id).thunk with
  | some shared =>
      rw [entryThunk_of_some held]
      exact right
  | none =>
      cases compiled : u.compile (f.entry id).method with
      | error fault =>
          rw [entryThunk_of_error held compiled]
          exact right
      | ok thunk =>
          rw [entryThunk_of_ok held compiled]
          refine right.countCompilation_left.storeThunk_left ?_ _
          intro known
          have knownOther : id < other.entries.size := twin.size ▸ known
          rw [← twin.method, compiled] at resultOther
          cases given : (other.entryThunk u id).1 with
          | error fault =>
              rw [given] at resultOther
              cases resultOther
          | ok shared =>
              unfold isCompiled
              rw [held_entryThunk knownOther given]
              rfl

/-- Twins look a method up with the same result, whichever of them has compiled it already. -/
theorem getOrCompile (method : Method) :
    (f.getOrCompile u method).1.map (·.thunk) = (other.getOrCompile u method).1.map (·.thunk) ∧
      (f.getOrCompile u method).2.Twin (other.getOrCompile u method).2 := by
  have result := (evolves_getOrCompile coherent method).1
  have resultOther := (evolves_getOrCompile coherentOther method).1
  refine ⟨result.trans resultOther.symm, ?_⟩
  cases found : f.thunkIndex.find? method with
  | some id =>
      have foundOther : other.thunkIndex.find? method = some id := twin.index ▸ found
      have counted : f.countThunkHit.Coherent u := coherent.of_same rfl rfl rfl
      have countedOther : other.countThunkHit.Coherent u := coherentOther.of_same rfl rfl rfl
      rw [getOrCompile_of_some found, getOrCompile_of_some foundOther]
      exact (twin.countThunkHit.entryThunk counted countedOther id).2
  | none =>
      have absentOther : other.thunkIndex.find? method = none := twin.index ▸ found
      cases compiled : u.compile method with
      | error fault =>
          rw [getOrCompile_of_error found compiled, getOrCompile_of_error absentOther compiled]
          exact twin
      | ok thunk =>
          rw [getOrCompile_of_ok found compiled, getOrCompile_of_ok absentOther compiled]
          exact twin.countCompilation_left.countCompilation_right.addToThunkIndex method id

omit coherent coherentOther

/-- Twins compile a method past the caches with the same result. -/
theorem compile (u : Universe) (method : Method) :
    (f.compile u method).1.map (·.thunk) = (other.compile u method).1.map (·.thunk) ∧
      (f.compile u method).2.Twin (other.compile u method).2 := by
  cases compiled : u.compile method with
  | error fault =>
      rw [compile_of_error compiled, compile_of_error compiled]
      exact ⟨rfl, twin⟩
  | ok thunk =>
      rw [compile_of_ok compiled, compile_of_ok compiled]
      exact ⟨rfl, twin.countCompilation_left.countCompilation_right⟩

/-- Twins number a new cache alike. -/
theorem addSpecializationCache (slot : Slot) :
    (f.addSpecializationCache slot).1 = (other.addSpecializationCache slot).1 ∧
      (f.addSpecializationCache slot).2.Twin (other.addSpecializationCache slot).2 :=
  ⟨congrArg Array.size twin.caches,
    twin.count (fun g => (g.addSpecializationCache slot).2) (fun _ => rfl) (fun _ => rfl)
      fun _ => rfl⟩

/-- Twins give the same specialization for type arguments, hit or miss. -/
theorem specialize (u : Universe) (cache : CacheId) (arguments : List RuntimeType) :
    (f.specialize u cache arguments).1 = (other.specialize u cache arguments).1 ∧
      (f.specialize u cache arguments).2.Twin (other.specialize u cache arguments).2 := by
  have same := twin.cache cache
  cases found : (f.specializationCache cache).specializations.find? arguments with
  | some specialization =>
      have foundOther := found
      rw [same] at foundOther
      rw [specialize_of_some found, specialize_of_some foundOther]
      exact ⟨rfl, twin.count (fun g =>
        { g with counters.specializationHits := g.counters.specializationHits + 1 })
        (fun _ => rfl) (fun _ => rfl) fun _ => rfl⟩
  | none =>
      have absentOther := found
      rw [same] at absentOther
      cases closed : u.makeGeneric (f.specializationCache cache).slot.toMethod arguments with
      | error fault =>
          have closedOther := closed
          rw [same] at closedOther
          rw [specialize_of_error found closed, specialize_of_error absentOther closedOther]
          exact ⟨rfl, twin⟩
      | ok method =>
          have closedOther := closed
          rw [same] at closedOther
          rw [specialize_of_ok found closed, specialize_of_ok absentOther closedOther, twin.size]
          refine ⟨rfl, twin.push ?_ rfl rfl rfl rfl id⟩
          rw [stripped_addSpecialization, stripped_addSpecialization, twin.stripped]

include coherent coherentOther

/-- Twins answer every request alike. -/
theorem answer (request : Request) :
    (f.answer u request).1 = (other.answer u request).1 ∧
      (f.answer u request).2.Twin (other.answer u request).2 := by
  cases request with
  | compile method => exact twin.compile u method
  | thunkEntry method => exact twin.thunkEntry method
  | entryThunk entry => exact twin.entryThunk coherent coherentOther entry
  | getOrCompile method => exact twin.getOrCompile coherent coherentOther method
  | addSpecializationCache slot => exact twin.addSpecializationCache slot
  | specialize cache arguments => exact twin.specialize u cache arguments

end Twin

/-! ### Proxy types -/

variable {u : Universe} {f : Factory}

/-- A supported plain method proceeds to its entry, in an eager factory with its thunk. -/
private theorem proceedSlot_plain (coherent : f.Coherent u) {slot : Slot}
    (plain : u.isGeneric slot = false) (supported : u.checkSignature slot.toMethod = .ok ()) :
    u.proceedSlot slot f =
      (.ok ("ThunkEntry", .direct (f.thunkEntry slot.toMethod).1),
        if f.config.eagerThunks then
          ((f.thunkEntry slot.toMethod).2.entryThunk u (f.thunkEntry slot.toMethod).1).2
        else (f.thunkEntry slot.toMethod).2) := by
  obtain ⟨evolved, _, sameMethod⟩ := evolves_thunkEntry coherent slot.toMethod
  have compiled := (evolves_entryThunk evolved.coherent (f.thunkEntry slot.toMethod).1).1
  have closed : u.isGenericDefinition slot.toMethod = false := by
    simp [Universe.isGenericDefinition, plain]
  rw [sameMethod, Universe.compile, supported, closed] at compiled
  unfold Universe.proceedSlot
  rw [if_neg (Bool.eq_false_iff.mp plain)]
  simp only [evolved.config]
  split
  · generalize (f.thunkEntry slot.toMethod).2.entryThunk u (f.thunkEntry slot.toMethod).1 = outcome
      at compiled
    obtain ⟨result, after⟩ := outcome
    cases result with
    | error fault => cases compiled
    | ok shared => rfl
  · rfl

namespace Twin

variable {other : Factory} (twin : f.Twin other) (coherent : f.Coherent u)
  (coherentOther : other.Coherent u)

include twin coherent coherentOther

/-- Twins give a supported method the same dispatch, whichever of them compiles it now. -/
theorem proceedSlot {slot : Slot} (supported : u.checkSignature slot.toMethod = .ok ()) :
    (u.proceedSlot slot f).1 = (u.proceedSlot slot other).1 ∧
      (u.proceedSlot slot f).2.Twin (u.proceedSlot slot other).2 := by
  cases generic : u.isGeneric slot with
  | true =>
      obtain ⟨same, after⟩ := twin.addSpecializationCache slot
      unfold Universe.proceedSlot
      rw [if_pos generic, if_pos generic]
      exact ⟨congrArg (fun cache => Except.ok ("SpecializationCache", Dispatch.generic cache)) same,
        after⟩
  | false =>
      obtain ⟨same, entered⟩ := twin.thunkEntry slot.toMethod
      have before := (evolves_thunkEntry coherent slot.toMethod).1.coherent
      have beforeOther := (evolves_thunkEntry coherentOther slot.toMethod).1.coherent
      rw [proceedSlot_plain coherent generic supported,
        proceedSlot_plain coherentOther generic supported, ← same]
      refine ⟨rfl, ?_⟩
      cases eager : f.config.eagerThunks with
      | true =>
          rw [if_pos rfl, if_pos (twin.eager eager)]
          exact (entered.entryThunk before beforeOther _).2
      | false =>
          rw [if_neg Bool.false_ne_true]
          split
          · exact entered.entryThunk_right u _
          · exact entered

end Twin

end Factory

namespace Universe

variable {u : Universe} {f other : Factory} (twin : f.Twin other) (coherent : f.Coherent u)
  (coherentOther : other.Coherent u)

/-- Being twins is kept by everything that a call does with a factory. -/
theorem proceeds_twin (u : Universe) :
    u.Proceeds fun f other => f.Coherent u ∧ other.Coherent u ∧ f.Twin other := by
  rintro slot f other supported ⟨coherent, coherentOther, twin⟩
  obtain ⟨same, after⟩ := twin.proceedSlot coherent coherentOther supported
  exact ⟨same, (u.linked_proceedSlot coherent slot).1.coherent,
    (u.linked_proceedSlot coherentOther slot).1.coherent, after⟩

/-- Two requests for a proxy type come to the same. -/
structure SameSupply (one two : Except Fault ProxyType × Universe × Factory) : Prop where
  result : one.1 = two.1
  types : one.2.1 = two.2.1
  twin : one.2.2.Twin two.2.2

include twin coherent coherentOther

/-- Twins construct the same proxy type, or fail with the same fault. -/
theorem sameSupply_synthesize (id : FactoryId) (descriptor : Descriptor) :
    SameSupply (u.synthesize id descriptor f) (u.synthesize id descriptor other) := by
  rcases related_synthesize u.proceeds_twin id descriptor ⟨coherent, coherentOther, twin⟩ coherent
    coherentOther with ⟨fault, rejected, rejectedOther⟩ |
      ⟨proxyType, types, after, afterOther, ⟨_, _, still⟩, made, madeOther⟩
  · rw [rejected, rejectedOther]
    exact ⟨rfl, rfl, twin⟩
  · rw [made, madeOther]
    exact ⟨rfl, rfl, still.countProxyTypeBuilt⟩

/-- Twins supply the same proxy type, from their caches or newly made. -/
private theorem sameSupply_cachedProxyType (id : FactoryId) (descriptor : Descriptor) :
    SameSupply (u.cachedProxyType id descriptor f) (u.cachedProxyType id descriptor other) := by
  unfold cachedProxyType
  cases held : f.proxyTypes.find? descriptor.key with
  | some proxyType =>
      have heldOther := held
      rw [twin.proxyTypes] at heldOther
      simp only [heldOther]
      exact ⟨rfl, rfl, twin.count (fun g =>
        { g with counters.proxyTypeHits := g.counters.proxyTypeHits + 1 })
        (fun _ => rfl) (fun _ => rfl) fun _ => rfl⟩
  | none =>
      have heldOther := held
      rw [twin.proxyTypes] at heldOther
      have missed := twin.count (fun g =>
        { g with counters.proxyTypeMisses := g.counters.proxyTypeMisses + 1 })
        (fun _ => rfl) (fun _ => rfl) fun _ => rfl
      have supplied := sameSupply_synthesize missed (coherent.of_same rfl rfl rfl)
        (coherentOther.of_same rfl rfl rfl) id descriptor
      simp only [heldOther]
      generalize u.synthesize id descriptor
        { f with counters.proxyTypeMisses := f.counters.proxyTypeMisses + 1 } = one at supplied
      generalize u.synthesize id descriptor
        { other with counters.proxyTypeMisses := other.counters.proxyTypeMisses + 1 } = two
        at supplied
      obtain ⟨result, types, after⟩ := one
      obtain ⟨resultOther, typesOther, afterOther⟩ := two
      obtain ⟨rfl, rfl, still⟩ := supplied
      cases result with
      | error fault => exact ⟨rfl, rfl, still⟩
      | ok proxyType =>
          exact ⟨rfl, rfl, still.count (fun g =>
            { g with proxyTypes := g.proxyTypes.insert descriptor.key proxyType })
            (fun _ => rfl) (fun _ => rfl) fun _ => rfl⟩

/-- Twins answer a request for a proxy type alike. -/
theorem sameSupply_proxyTypeFor (id : FactoryId) (descriptor : Descriptor) :
    SameSupply (u.proxyTypeFor id descriptor f) (u.proxyTypeFor id descriptor other) := by
  unfold proxyTypeFor
  rw [← twin.caching]
  split
  · exact sameSupply_cachedProxyType twin coherent coherentOther id descriptor
  · exact sameSupply_synthesize twin coherent coherentOther id descriptor

end Universe

end Interpose
