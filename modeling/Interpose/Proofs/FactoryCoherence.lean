/-
Module: Interpose.Proofs.FactoryCoherence
Purpose: The caches of a factory hold what would be made afresh, and keep what they hold.
Main exports: Factory.Coherent, Factory.Grows, Factory.Evolves, and one statement for each
  operation: Factory.evolves_getOrCompile, Factory.evolves_entryThunk, Factory.evolves_specialize
-/
import Interpose.Factory
import Interpose.Proofs.Growth

namespace Interpose.Factory

/-- What the caches of a factory hold is right: compiled thunks are those of
their methods, and the thunk index and the specialization caches lead to entries
of the methods that they are asked for. -/
structure Coherent (u : Universe) (f : Factory) : Prop where
  compiled : ∀ id shared, (f.entry id).thunk = some shared →
    u.compile (f.entry id).method = .ok shared.thunk
  indexed : ∀ method id, f.thunkIndex.find? method = some id →
    id < f.entries.size ∧ (f.entry id).method = method
  specialized : ∀ cache arguments specialization,
    (f.specializationCache cache).specializations.find? arguments = some specialization →
      u.makeGeneric (f.specializationCache cache).slot.toMethod arguments =
          .ok specialization.method ∧
        specialization.typeArguments = arguments ∧
        specialization.entry < f.entries.size ∧
        (f.entry specialization.entry).method = specialization.method

/-- Entries and specialization caches are only added, and no entry or cache goes
over to another method. -/
structure Grows (f later : Factory) : Prop where
  entries : f.entries.size ≤ later.entries.size
  methods : ∀ id < f.entries.size, (later.entry id).method = (f.entry id).method
  caches : f.specializationCaches.size ≤ later.specializationCaches.size
  slots : ∀ id < f.specializationCaches.size,
    (later.specializationCache id).slot = (f.specializationCache id).slot

/-- What an operation leaves of a coherent factory, unless it makes proxy types. -/
structure Evolves (u : Universe) (f later : Factory) : Prop where
  grows : f.Grows later
  coherent : later.Coherent u
  config : later.config = f.config
  proxyTypes : later.proxyTypes = f.proxyTypes

namespace Grows

theorem refl (f : Factory) : f.Grows f :=
  ⟨Nat.le_refl _, fun _ _ => rfl, Nat.le_refl _, fun _ _ => rfl⟩

theorem trans {f later further : Factory} (first : f.Grows later) (second : later.Grows further) :
    f.Grows further where
  entries := Nat.le_trans first.entries second.entries
  methods := by
    intro id known
    rw [second.methods id (Nat.lt_of_lt_of_le known first.entries), first.methods id known]
  caches := Nat.le_trans first.caches second.caches
  slots := by
    intro id known
    rw [second.slots id (Nat.lt_of_lt_of_le known first.caches), first.slots id known]

end Grows

namespace Evolves

variable {u : Universe} {f later further : Factory}

theorem refl (coherent : f.Coherent u) : f.Evolves u f := ⟨.refl f, coherent, rfl, rfl⟩

theorem trans (first : f.Evolves u later) (second : later.Evolves u further) :
    f.Evolves u further where
  grows := first.grows.trans second.grows
  coherent := second.coherent
  config := second.config.trans first.config
  proxyTypes := second.proxyTypes.trans first.proxyTypes

end Evolves

/-! ### Entries and caches by identity -/

theorem entry_push (f : Factory) (added : Entry) (id : EntryId) :
    ({ f with entries := f.entries.push added } : Factory).entry id =
      if id = f.entries.size then added else f.entry id := by
  unfold entry
  rw [Array.getElem?_push]
  split <;> rfl

theorem entry_of_size_le (f : Factory) {id : EntryId} (absent : f.entries.size ≤ id) :
    f.entry id = default := by
  unfold entry
  rw [Array.getElem?_eq_none absent]
  rfl

theorem specializationCache_of_size_le (f : Factory) {id : CacheId}
    (absent : f.specializationCaches.size ≤ id) : f.specializationCache id = default := by
  unfold specializationCache
  rw [Array.getElem?_eq_none absent]
  rfl

/-- Storing a thunk in an entry changes what that entry holds, if the entry is there, and no other.
-/
theorem entry_storeThunk (f : Factory) (id other : EntryId) (shared : SharedThunk) :
    ({ f with entries := f.entries.modify id fun entry =>
      { entry with thunk := some shared } } : Factory).entry other =
      if id = other ∧ id < f.entries.size then { f.entry other with thunk := some shared }
      else f.entry other := by
  unfold entry
  rw [Array.getElem?_modify]
  by_cases same : id = other
  · subst same
    by_cases known : id < f.entries.size <;> simp [known]
  · simp [same]

/-- Storing a specialization in a cache changes what that cache holds, if it is there, and no other.
-/
theorem specializationCache_store (f : Factory) (id other : CacheId)
    (arguments : List RuntimeType) (specialization : Specialization) :
    ({ f with
      specializationCaches := f.specializationCaches.modify id fun cache =>
        { cache with specializations := cache.specializations.insert arguments specialization } } :
      Factory).specializationCache other =
      if id = other ∧ id < f.specializationCaches.size then
        { f.specializationCache other with
          specializations :=
            (f.specializationCache other).specializations.insert arguments specialization }
      else f.specializationCache other := by
  unfold specializationCache
  rw [Array.getElem?_modify]
  by_cases same : id = other
  · subst same
    by_cases known : id < f.specializationCaches.size <;> simp [known]
  · simp [same]

private theorem entries_compile (u : Universe) (method : Method) (f : Factory) :
    (f.compile u method).2.entries = f.entries := by
  unfold compile
  split <;> rfl

/-- A factory that differs from a coherent one in its counters only. -/
theorem Coherent.of_same {u : Universe} {f later : Factory} (coherent : f.Coherent u)
    (entries : later.entries = f.entries) (index : later.thunkIndex = f.thunkIndex)
    (caches : later.specializationCaches = f.specializationCaches) : later.Coherent u where
  compiled := by
    unfold entry
    rw [entries]
    exact coherent.compiled
  indexed := by
    unfold entry
    rw [entries, index]
    exact coherent.indexed
  specialized := by
    unfold entry specializationCache
    rw [entries, caches]
    exact coherent.specialized

/-- Where entries and caches are the same, nothing was taken away. -/
theorem Grows.of_same {f later : Factory} (entries : later.entries = f.entries)
    (caches : later.specializationCaches = f.specializationCaches) : f.Grows later where
  entries := Nat.le_of_eq (congrArg Array.size entries).symm
  methods := by
    intro id _
    unfold entry
    rw [entries]
  caches := Nat.le_of_eq (congrArg Array.size caches).symm
  slots := by
    intro id _
    unfold specializationCache
    rw [caches]

/-- A new factory holds nothing, so nothing that it holds is wrong. -/
theorem coherent_ofConfig (u : Universe) (config : Config) : (ofConfig config).Coherent u where
  compiled := by
    intro id shared held
    rw [entry_of_size_le _ (Nat.zero_le id)] at held
    cases held
  indexed := by
    intro method id found
    cases found
  specialized := by
    intro cache arguments specialization found
    rw [specializationCache_of_size_le _ (Nat.zero_le cache)] at found
    cases found

theorem coherent_default (u : Universe) : (default : Factory).Coherent u :=
  coherent_ofConfig u default

/-- What is right for the types that there are stays right when types are added. -/
theorem Coherent.extend {u later : Universe} {f : Factory} (coherent : f.Coherent u)
    (extended : u.Extends later) : f.Coherent later where
  compiled := fun id shared held => extended.compile_of_ok (coherent.compiled id shared held)
  indexed := coherent.indexed
  specialized := by
    intro cache arguments specialization found
    obtain ⟨closed, rest⟩ := coherent.specialized cache arguments specialization found
    exact ⟨extended.makeGeneric_of_ok closed, rest⟩

/-! ### Operations -/

section Operations

variable {u : Universe} {f : Factory} (coherent : f.Coherent u)

include coherent

theorem evolves_count {later : Factory} (config : later.config = f.config)
    (types : later.proxyTypes = f.proxyTypes) (entries : later.entries = f.entries)
    (index : later.thunkIndex = f.thunkIndex)
    (caches : later.specializationCaches = f.specializationCaches) : f.Evolves u later :=
  ⟨.of_same entries caches, coherent.of_same entries index caches, config, types⟩

theorem evolves_countIntercepted : f.Evolves u f.countIntercepted :=
  evolves_count coherent rfl rfl rfl rfl rfl

theorem evolves_countPassThrough : f.Evolves u f.countPassThrough :=
  evolves_count coherent rfl rfl rfl rfl rfl

/-- A compilation past the caches gives the thunk of the method and leaves the caches alone. -/
theorem evolves_compile (method : Method) :
    (f.compile u method).1.map (·.thunk) = u.compile method ∧
      f.Evolves u (f.compile u method).2 := by
  unfold compile
  cases u.compile method with
  | error fault => exact ⟨rfl, evolves_count coherent rfl rfl rfl rfl rfl⟩
  | ok thunk => exact ⟨rfl, evolves_count coherent rfl rfl rfl rfl rfl⟩

/-- A new entry is right when its thunk is. -/
private theorem evolves_addEntry (method : Method) (thunk : Option SharedThunk)
    (right : ∀ shared, thunk = some shared → u.compile method = .ok shared.thunk) :
    f.Evolves u (f.addEntry method thunk).2 ∧
      (f.addEntry method thunk).1 < (f.addEntry method thunk).2.entries.size ∧
      ((f.addEntry method thunk).2.entry (f.addEntry method thunk).1).method = method := by
  have kept : ∀ id < f.entries.size,
      ((f.addEntry method thunk).2.entry id).method = (f.entry id).method := by
    intro id known
    rw [addEntry, entry_push, if_neg (Nat.ne_of_lt known)]
  have grown : (f.addEntry method thunk).2.entries.size = f.entries.size + 1 := by
    simp [addEntry]
  refine ⟨⟨⟨?_, kept, Nat.le_refl _, fun _ _ => rfl⟩, ⟨?_, ?_, ?_⟩, rfl, rfl⟩, ?_, ?_⟩
  · rw [grown]
    exact Nat.le_succ _
  · intro id shared held
    rw [addEntry, entry_push] at held ⊢
    split at held
    · rename_i last
      rw [if_pos last]
      exact right shared held
    · rename_i old
      rw [if_neg old]
      exact coherent.compiled id shared held
  · intro other id found
    obtain ⟨known, same⟩ := coherent.indexed other id found
    rw [grown, kept id known]
    exact ⟨Nat.lt_succ_of_lt known, same⟩
  · intro cache arguments specialization found
    obtain ⟨closed, keyed, known, same⟩ :=
      coherent.specialized cache arguments specialization found
    rw [grown, kept _ known]
    exact ⟨closed, keyed, Nat.lt_succ_of_lt known, same⟩
  · rw [grown]
    exact Nat.lt_succ_self _
  · rw [addEntry, entry_push, if_pos rfl]

/-- A method may come into the thunk index with a new entry, which is right when its thunk is. -/
private theorem evolves_addToThunkIndex (method : Method) (thunk : Option SharedThunk)
    (right : ∀ shared, thunk = some shared → u.compile method = .ok shared.thunk) :
    f.Evolves u (f.addToThunkIndex method thunk).2 ∧
      (f.addToThunkIndex method thunk).1 < (f.addToThunkIndex method thunk).2.entries.size ∧
      ((f.addToThunkIndex method thunk).2.entry (f.addToThunkIndex method thunk).1).method =
        method := by
  obtain ⟨evolved, fresh, same⟩ := evolves_addEntry coherent method thunk right
  have added := evolved.coherent
  have grows := evolved.grows
  refine ⟨⟨⟨grows.entries, grows.methods, grows.caches, grows.slots⟩,
    ⟨added.compiled, ?_, added.specialized⟩, rfl, rfl⟩, fresh, same⟩
  intro other id found
  simp only [addToThunkIndex, Table.find?_insert] at found
  split at found
  · rename_i hit
    obtain rfl := Option.some.inj found
    subst hit
    exact ⟨fresh, same⟩
  · exact added.indexed other id found

/-- The entry that the thunk cache has for a method is an entry of the method. -/
theorem evolves_thunkEntry (method : Method) :
    f.Evolves u (f.thunkEntry method).2 ∧
      (f.thunkEntry method).1 < (f.thunkEntry method).2.entries.size ∧
      ((f.thunkEntry method).2.entry (f.thunkEntry method).1).method = method := by
  unfold thunkEntry
  cases found : f.thunkIndex.find? method with
  | none =>
      exact evolves_addToThunkIndex coherent method none (by simp)
  | some id =>
      obtain ⟨known, same⟩ := coherent.indexed method id found
      exact ⟨evolves_count coherent rfl rfl rfl rfl rfl, known, same⟩

/-- An entry may be given the thunk that its method compiles to. -/
private theorem evolves_storeThunk {id : EntryId} {shared : SharedThunk}
    (right : u.compile (f.entry id).method = .ok shared.thunk) :
    f.Evolves u { f with entries := f.entries.modify id fun entry =>
      { entry with thunk := some shared } } := by
  have sameMethod : ∀ other,
      (({ f with entries := f.entries.modify id fun entry =>
        { entry with thunk := some shared } } : Factory).entry other).method =
        (f.entry other).method := by
    intro other
    rw [entry_storeThunk]
    split <;> rfl
  refine ⟨⟨?_, fun other _ => sameMethod other, Nat.le_refl _, fun _ _ => rfl⟩,
    ⟨?_, ?_, ?_⟩, rfl, rfl⟩
  · simp
  · intro other held found
    rw [sameMethod]
    rw [entry_storeThunk] at found
    split at found
    · rename_i hit
      obtain rfl := Option.some.inj found
      rw [← hit.1]
      exact right
    · exact coherent.compiled other held found
  · intro method other found
    obtain ⟨known, same⟩ := coherent.indexed method other found
    rw [sameMethod]
    exact ⟨by simpa using known, same⟩
  · intro cache arguments specialization found
    obtain ⟨closed, keyed, known, same⟩ :=
      coherent.specialized cache arguments specialization found
    rw [sameMethod]
    exact ⟨closed, keyed, by simpa using known, same⟩

/-- An entry has the thunk that its method compiles to, whether it was compiled
before or is compiled now. -/
theorem evolves_entryThunk (id : EntryId) :
    (f.entryThunk u id).1.map (·.thunk) = u.compile (f.entry id).method ∧
      f.Evolves u (f.entryThunk u id).2 := by
  unfold entryThunk
  cases held : (f.entry id).thunk with
  | some shared =>
      exact ⟨(coherent.compiled id shared held).symm, .refl coherent⟩
  | none =>
      have result := (evolves_compile coherent (f.entry id).method).1
      have evolved := (evolves_compile coherent (f.entry id).method).2
      have entries := entries_compile u (f.entry id).method f
      cases outcome : f.compile u (f.entry id).method with
      | mk compiled after =>
          rw [outcome] at result evolved entries
          cases compiled with
          | error fault => exact ⟨result, evolved⟩
          | ok shared =>
              have same : after.entry id = f.entry id := by
                unfold entry
                rw [entries]
              refine ⟨result, evolved.trans (evolves_storeThunk evolved.coherent ?_)⟩
              rw [same]
              exact result.symm

/-- The thunk that the thunk cache has for a method is the one that the method
compiles to. -/
theorem evolves_getOrCompile (method : Method) :
    (f.getOrCompile u method).1.map (·.thunk) = u.compile method ∧
      f.Evolves u (f.getOrCompile u method).2 := by
  unfold getOrCompile
  cases found : f.thunkIndex.find? method with
  | some id =>
      have counted : f.Evolves u f.countThunkHit := evolves_count coherent rfl rfl rfl rfl rfl
      obtain ⟨result, evolved⟩ := evolves_entryThunk counted.coherent id
      have same : (f.countThunkHit.entry id).method = method := (coherent.indexed method id found).2
      rw [same] at result
      exact ⟨result, counted.trans evolved⟩
  | none =>
      have result := (evolves_compile coherent method).1
      have evolved := (evolves_compile coherent method).2
      cases outcome : f.compile u method with
      | mk compiled after =>
          rw [outcome] at result evolved
          cases compiled with
          | error fault => exact ⟨result, evolved⟩
          | ok shared =>
              have right : ∀ held, some shared = some held → u.compile method = .ok held.thunk := by
                intro held same
                obtain rfl := Option.some.inj same
                exact result.symm
              have added := (evolves_addToThunkIndex evolved.coherent method (some shared) right).1
              exact ⟨result, evolved.trans added⟩

/-- A new specialization cache belongs to its definition and holds nothing yet. -/
theorem evolves_addSpecializationCache (slot : Slot) :
    f.Evolves u (f.addSpecializationCache slot).2 ∧
      (f.addSpecializationCache slot).1 <
        (f.addSpecializationCache slot).2.specializationCaches.size ∧
      ((f.addSpecializationCache slot).2.specializationCache
        (f.addSpecializationCache slot).1).slot = slot := by
  have grown : (f.addSpecializationCache slot).2.specializationCaches.size =
      f.specializationCaches.size + 1 := by
    simp [addSpecializationCache]
  have held : ∀ id, (f.addSpecializationCache slot).2.specializationCache id =
      if id = f.specializationCaches.size then ⟨slot, .empty⟩ else f.specializationCache id := by
    intro id
    unfold specializationCache addSpecializationCache
    rw [Array.getElem?_push]
    split <;> rfl
  refine ⟨⟨⟨Nat.le_refl _, fun _ _ => rfl, ?_, ?_⟩, ⟨coherent.compiled, coherent.indexed, ?_⟩,
    rfl, rfl⟩, ?_, ?_⟩
  · rw [grown]
    exact Nat.le_succ _
  · intro id known
    rw [held, if_neg (Nat.ne_of_lt known)]
  · intro cache arguments specialization found
    rw [held] at found ⊢
    split at found
    · cases found
    · rename_i old
      rw [if_neg old]
      exact coherent.specialized cache arguments specialization found
  · rw [grown]
    exact Nat.lt_succ_self _
  · rw [held]
    exact congrArg SpecializationCache.slot (if_pos rfl)

/-- A specialization cache may be given the specialization that its definition
has for a list of type arguments. -/
private theorem evolves_storeSpecialization {id : CacheId} (specialization : Specialization)
    (closed : u.makeGeneric (f.specializationCache id).slot.toMethod
      specialization.typeArguments = .ok specialization.method)
    (known : specialization.entry < f.entries.size)
    (same : (f.entry specialization.entry).method = specialization.method) :
    f.Evolves u { f with
      specializationCaches := f.specializationCaches.modify id fun cache =>
        { cache with specializations :=
          cache.specializations.insert specialization.typeArguments specialization } } := by
  have sameSlot : ∀ other,
      (({ f with
        specializationCaches := f.specializationCaches.modify id fun cache =>
          { cache with specializations :=
            cache.specializations.insert specialization.typeArguments specialization } } :
        Factory).specializationCache other).slot = (f.specializationCache other).slot := by
    intro other
    rw [specializationCache_store]
    split <;> rfl
  refine ⟨⟨Nat.le_refl _, fun _ _ => rfl, ?_, fun other _ => sameSlot other⟩,
    ⟨coherent.compiled, coherent.indexed, ?_⟩, rfl, rfl⟩
  · simp
  · intro other arguments listed found
    rw [sameSlot]
    rw [specializationCache_store] at found
    split at found
    · rename_i hit
      rw [Table.find?_insert] at found
      split at found
      · rename_i keyed
        obtain rfl := Option.some.inj found
        subst keyed
        rw [← hit.1]
        exact ⟨closed, rfl, known, same⟩
      · exact coherent.specialized other arguments listed found
    · exact coherent.specialized other arguments listed found

/-- The specialization for a list of type arguments stands for the definition
closed over them, whether it was made before or is made now. -/
theorem evolves_specialize (id : CacheId) (arguments : List RuntimeType) :
    (f.specialize u id arguments).1.map (·.method) =
        u.makeGeneric (f.specializationCache id).slot.toMethod arguments ∧
      f.Evolves u (f.specialize u id arguments).2 ∧
      ∀ specialization, (f.specialize u id arguments).1 = .ok specialization →
        specialization.entry < (f.specialize u id arguments).2.entries.size ∧
        ((f.specialize u id arguments).2.entry specialization.entry).method =
          specialization.method := by
  cases found : (f.specializationCache id).specializations.find? arguments with
  | some specialization =>
      simp only [specialize, found]
      obtain ⟨closed, _, known, same⟩ := coherent.specialized id arguments specialization found
      refine ⟨closed.symm, evolves_count coherent rfl rfl rfl rfl rfl, ?_⟩
      intro other result
      obtain rfl : specialization = other := Except.ok.inj result
      exact ⟨known, same⟩
  | none =>
      cases closed : u.makeGeneric (f.specializationCache id).slot.toMethod arguments with
      | error fault =>
          simp only [specialize, found, closed]
          refine ⟨rfl, .refl coherent, ?_⟩
          intro specialization result
          cases result
      | ok method =>
          obtain ⟨added, fresh, same⟩ := evolves_addEntry coherent method none (by simp)
          have stored := evolves_storeSpecialization added.coherent
            ⟨arguments, method, (f.addEntry method none).1⟩ closed fresh same
          simp only [specialize, found, closed]
          refine ⟨rfl, (added.trans stored).trans ?_, ?_⟩
          · exact evolves_count stored.coherent rfl rfl rfl rfl rfl
          · intro specialization result
            obtain rfl := Except.ok.inj result
            exact ⟨fresh, same⟩

end Operations

end Interpose.Factory
