/-
Module: Interpose.Proofs.Accounting
Purpose: What the counters of a factory have to do with its caches and with what was asked of it.
Main exports: Tally, Session.Records, Factory.Effect, Factory.Balanced, Factory.Conserves,
  Session.metrics_conserved
-/
import Mathlib.Data.List.Perm.Lattice
import Interpose.Proofs.FactoryHistories
import Interpose.Proofs.Operations

namespace Interpose

/-! ### What is asked of a factory -/

/-- How often a factory was asked for something that its caches do not tell. -/
structure Tally where
  /-- Requests for proxy types that went through the type cache. -/
  cachedRequests : Nat := 0
  /-- Those of them for which no type could be built. -/
  failedBuilds : Nat := 0
  /-- Proxy types that were built, through the cache or past it. -/
  builds : Nat := 0
  /-- Delegates that were made. -/
  delegates : Nat := 0
deriving DecidableEq, Repr

namespace Tally

/-- One more request for a proxy type.  It is answered from the cache, or else a type is built. -/
def countRequest (throughCache held succeeded : Bool) (t : Tally) : Tally :=
  { t with
    cachedRequests := t.cachedRequests + throughCache.toNat
    failedBuilds := t.failedBuilds + (throughCache && !succeeded).toNat
    builds := t.builds + (succeeded && !(throughCache && held)).toNat }

/-- One more attempt at a delegate. -/
def countDelegate (succeeded : Bool) (t : Tally) : Tally :=
  { t with delegates := t.delegates + succeeded.toNat }

end Tally

/-- The tally of a factory after a request to it. -/
def Factory.Request.tallied (u : Universe) : Factory.Request → Tally → Tally
  | .compile method, t => t.countDelegate (u.compile method).isOk
  | _, t => t

namespace Session

/-- The tally of a factory after a request for a proxy type. -/
def talliedRequest (s : Session) (id : FactoryId) (request : TypeRequest)
    (descriptor : Descriptor) (t : Tally) : Tally :=
  t.countRequest (s.asksCache id request)
    ((s.world.factory id).proxyTypes.find? descriptor.key).isSome
    (s.requestProxyType id request descriptor).1.isOk

/-- The tallies of all factories after an operation. -/
def tallied (s : Session) (operation : Operation) (t : FactoryId → Tally) : FactoryId → Tally :=
  match operation with
  | .serve id request => Function.update t id (request.tallied s.types (t id))
  | .request id request descriptor =>
      Function.update t id (s.talliedRequest id request descriptor (t id))
  | .createProxy id descriptor _ _ =>
      Function.update t id (s.talliedRequest id .cached descriptor (t id))
  | _ => t

/-- A session that came about by operations, or that is in the middle of a call after
operations, with a tally for each of its factories. -/
inductive Records : Session → (FactoryId → Tally) → Prop where
  | initial : Records initial fun _ => {}
  | performed {s after : Session} {t : FactoryId → Tally} (records : Records s t)
      (operation : Operation) {reply : operation.Reply} (permits : s.Permits operation)
      (performed : s.perform operation = some (reply, after)) :
      Records after (s.tallied operation t)
  | within {s nested : Session} {t : FactoryId → Tally} (records : Records s t)
      (entered : s.Enters nested) : Records nested t

/-- A session that is recorded comes about. -/
private theorem occurs_of_records {s : Session} {t : FactoryId → Tally} (records : s.Records t) :
    s.Occurs := by
  induction records with
  | initial => exact .refl
  | performed _ _ permits performed inductionHypothesis =>
      exact inductionHypothesis.tail (.step (step_of_perform permits performed))
  | within _ entered inductionHypothesis => exact inductionHypothesis.tail (.enters entered)

end Session

namespace Factory

/-! ### What an operation does to a factory -/

/-- What an operation can do to a factory and its tally. -/
inductive Effect (u : Universe) (f : Factory) (t : Tally) : Factory → Tally → Prop where
  | changed {later : Factory} (changes : f.Changes u later) : Effect u f t later t
  | delegated : Effect u f t f.countCompilation (t.countDelegate true)
  | answered {key : DescriptorKey} {throughCache : Bool} {result : Except Fault ProxyType}
      {later : Factory} (answers : u.Answers key f throughCache result later) :
      Effect u f t later
        (t.countRequest throughCache (f.proxyTypes.find? key).isSome result.isOk)
  /-- A factory without anything comes to be there. -/
  | reconfigured (config : Config) : Effect u f t { f with config := config } t

theorem Effect.refl (u : Universe) (f : Factory) (t : Tally) : f.Effect u t f t :=
  .changed (.refl u f)

/-- Past proxy types and delegates, all that is asked of a factory changes it. -/
private theorem effect_answer {u : Universe} {f : Factory} (coherent : f.Coherent u)
    {request : Request} (permits : f.Permits request) (t : Tally) :
    f.Effect u t (f.answer u request).2 (request.tallied u t) := by
  cases request with
  | compile method =>
      have compiles : (f.answer u (.compile method)).2 = (f.compile u method).2 := rfl
      have counts : Request.tallied u (.compile method) t =
        t.countDelegate (u.compile method).isOk := rfl
      rw [compiles, counts]
      cases compiled : u.compile method with
      | error fault =>
          rw [compile_of_error compiled]
          exact .refl u f t
      | ok thunk =>
          rw [compile_of_ok compiled]
          exact .delegated
  | thunkEntry method => exact .changed (changes_thunkEntry method)
  | entryThunk entry => exact .changed (changes_entryThunk permits)
  | getOrCompile method => exact .changed (changes_getOrCompile coherent method)
  | addSpecializationCache slot => exact .changed (changes_addSpecializationCache slot)
  | specialize cache arguments => exact .changed (changes_specialize permits arguments)

end Factory

namespace Session

variable {s after : Session} (sound : s.Sound)

/-- A factory that is new starts with empty caches, and the others are what they were. -/
private theorem effect_addFactory (u : Universe) (w : World) (config : Config) (t : Tally)
    (id : FactoryId) : (w.factory id).Effect u t ((w.addFactory config).2.factory id) t := by
  rw [World.factory_addFactory]
  split
  · rename_i new
    rw [World.factory_of_size_le (Nat.le_of_eq new.symm)]
    exact .reconfigured config
  · exact .refl u _ t

include sound

/-- A request for a proxy type is tallied at the factory that it names. -/
private theorem Sound.effect_requestProxyType {id : FactoryId} (known : id < s.world.factories.size)
    (request : TypeRequest) (descriptor : Descriptor) (t : FactoryId → Tally) (other : FactoryId) :
    (s.world.factory other).Effect s.types (t other)
      ((s.requestProxyType id request descriptor).2.world.factory other)
      (Function.update t id (s.talliedRequest id request descriptor (t id)) other) := by
  obtain ⟨answers, kept⟩ := answers_requestProxyType sound known request descriptor
  by_cases same : other = id
  · subst same
    rw [Function.update_self]
    exact .answered answers
  · rw [Function.update_of_ne same, kept other (Ne.symm same)]
    exact .refl _ _ _

/-- A request to a factory is tallied at that factory. -/
private theorem Sound.effect_serve {id : FactoryId} (known : id < s.world.factories.size)
    {request : Factory.Request} (permits : (s.world.factory id).Permits request)
    (t : FactoryId → Tally) (other : FactoryId) :
    (s.world.factory other).Effect s.types (t other)
      ((s.onFactory id (·.answer s.types request)).2.world.factory other)
      (Function.update t id (request.tallied s.types (t id)) other) := by
  by_cases same : other = id
  · subst same
    have stored := World.factory_onFactory (w := s.world) (·.answer s.types request) known
    have effect := Factory.effect_answer (sound.coherent other) permits (t other)
    rw [← stored] at effect
    rw [Function.update_self]
    exact effect
  · have kept : (s.onFactory id (·.answer s.types request)).2.world.factory other =
        s.world.factory other :=
      (World.factory_putFactory s.world id other _).trans (if_neg fun hit => same hit.1.symm)
    rw [Function.update_of_ne same, kept]
    exact .refl _ _ _

/-- What an operation does to each factory. -/
theorem Sound.effect_of_perform {operation : Operation} {reply : operation.Reply}
    (permits : s.Permits operation) (performed : s.perform operation = some (reply, after))
    (t : FactoryId → Tally) (id : FactoryId) :
    (s.world.factory id).Effect s.types (t id) (after.world.factory id)
      (s.tallied operation t id) := by
  have related : (World.progress s.types).related s.world s.world := ⟨rfl, sound.alike⟩
  have respects := (World.progress s.types).respects_callVirtual
  cases operation with
  | define declaration =>
      obtain ⟨_, rfl⟩ := Prod.mk.inj (Option.some.inj performed)
      exact .refl _ _ _
  | create type tag =>
      obtain ⟨_, rfl⟩ := Prod.mk.inj (Option.some.inj performed)
      exact .refl _ _ _
  | addFilter rule =>
      obtain ⟨_, rfl⟩ := Prod.mk.inj (Option.some.inj performed)
      exact .refl _ _ _
  | rename change =>
      obtain ⟨_, rfl⟩ := Prod.mk.inj (Option.some.inj performed)
      exact .refl _ _ _
  | instantiate proxyType =>
      obtain ⟨_, rfl⟩ := Prod.mk.inj (Option.some.inj performed)
      exact .refl _ _ _
  | takeJournal =>
      obtain ⟨_, rfl⟩ := Prod.mk.inj (Option.some.inj performed)
      exact .refl _ _ _
  | setInterceptor o interceptor =>
      obtain ⟨_, rfl⟩ := Prod.mk.inj (Option.some.inj performed)
      exact .changed (changes_of_factories (factories_setInterceptor s.world o interceptor) _ id)
  | addFactory config =>
      obtain ⟨_, rfl⟩ := Prod.mk.inj (Option.some.inj performed)
      exact effect_addFactory s.types s.world config (t id) id
  | serve other request =>
      obtain ⟨_, rfl⟩ := Prod.mk.inj (Option.some.inj performed)
      exact sound.effect_serve permits.1 permits.2 t id
  | request other request descriptor =>
      have effect := sound.effect_requestProxyType permits request descriptor t id
      have ran : s.requestProxyType other request descriptor = (reply, after) :=
        Option.some.inj performed
      rw [ran] at effect
      exact effect
  | createProxy other descriptor target interceptor =>
      have effect := sound.effect_requestProxyType permits .cached descriptor t id
      have same := s.factories_createProxy other descriptor target interceptor
      have ran : s.createProxy other descriptor target interceptor = (reply, after) :=
        Option.some.inj performed
      rw [ran] at same
      unfold World.factory at effect ⊢
      rw [same]
      exact effect
  | setTarget o target =>
      obtain ⟨_, rfl⟩ := Prod.mk.inj (Option.some.inj performed)
      obtain ⟨_, _, _, progresses⟩ := (World.progress s.types).same_setTarget related o target
      exact .changed (progresses.changes id)
  | invoke depth factory method on arguments =>
      exact .changed (changes_running
        (World.Simulation.rel_invokeThrough (respects depth) _ _ _ _ related) performed id)
  | invokeEntry depth factory entry on arguments =>
      exact .changed (changes_running (World.Simulation.rel_invokeEntry (respects depth) on
        arguments related permits permits rfl rfl) performed id)
  | invokeThunk depth thunk on arguments =>
      exact .changed (changes_running
        (World.Simulation.rel_invoke (respects depth) _ _ _ related) performed id)
  | callVirtual depth on method frame =>
      have ran : s.callVirtual depth on method frame = some (reply, after) := performed
      exact .changed (changes_running
        (World.Simulation.rel_framed (respects depth) on method frame related) ran id)

end Session

/-! ### Entries and the caches that they belong to -/

namespace Factory

def indexEntries (f : Factory) : List EntryId := f.thunkIndex.entries.map (·.2)

def cacheEntries (cache : SpecializationCache) : List EntryId :=
  cache.specializations.entries.map (·.2.entry)

def specializationEntries (f : Factory) : List EntryId :=
  f.specializationCaches.toList.flatMap cacheEntries

/-- Where the caches of a factory and what it counts of them agree: each entry belongs to
one cache, at one key, and was compiled at most once. -/
structure Stocked (f : Factory) (delegates : Nat) : Prop where
  thunkMisses : f.counters.thunkMisses = f.indexEntries.length
  specializationMisses : f.counters.specializationMisses = f.specializationEntries.length
  owned : (f.indexEntries ++ f.specializationEntries).Perm (List.range f.entries.size)
  compilations : f.counters.thunkCompilations =
    (List.range f.entries.size).countP f.isCompiled + delegates

/-- The specializations that are reported are as many as the entries of all specialization caches.
-/
private theorem specializationCount_eq (f : Factory) :
    f.specializationCount = f.specializationEntries.length := by
  have counted : ∀ (caches : List SpecializationCache) (count : Nat),
      caches.foldl (fun count cache => count + cache.specializations.size) count =
        count + (caches.flatMap cacheEntries).length := by
    intro caches
    induction caches with
    | nil => exact fun _ => rfl
    | cons cache rest inductionHypothesis =>
        intro count
        rw [List.foldl_cons, inductionHypothesis, List.flatMap_cons, List.length_append,
          cacheEntries, List.length_map, Nat.add_assoc]
        rfl
  unfold specializationCount
  rw [← Array.foldl_toList, counted, Nat.zero_add]
  rfl

/-- One part of a list grows at its end. -/
private theorem perm_flatMap_modify {α β : Type} {part : α → List β} {change : α → α} {added : β} :
    ∀ {l : List α} {i : Nat} {old : α}, l[i]? = some old → part (change old) = part old ++ [added] →
      ((l.modify i change).flatMap part).Perm (l.flatMap part ++ [added]) := by
  intro l
  induction l with
  | nil =>
      intro i old found
      cases found
  | cons head rest inductionHypothesis =>
      intro i old found grown
      cases i with
      | zero =>
          obtain rfl : head = old := Option.some.inj found
          rw [List.modify_zero_cons, List.flatMap_cons, List.flatMap_cons, grown,
            List.append_assoc, List.append_assoc]
          exact List.perm_append_comm.append_left _
      | succ i =>
          rw [List.modify_succ_cons, List.flatMap_cons, List.flatMap_cons, List.append_assoc]
          exact (inductionHypothesis found grown).append_left _

section Stock

variable {f : Factory} {delegates : Nat}

/-- A new entry is compiled if it comes with a thunk, and the others stay as they are. -/
private theorem isCompiled_addEntry (f : Factory) (method : Method) (thunk : Option SharedThunk)
    {later : Factory} (entries : later.entries = f.entries.push ⟨method, thunk⟩) :
    later.entries.size = f.entries.size + 1 ∧
      later.isCompiled f.entries.size = thunk.isSome ∧
      ∀ id < f.entries.size, later.isCompiled id = f.isCompiled id := by
  have held := entry_of_push entries
  refine ⟨by rw [entries, Array.size_push], ?_, ?_⟩
  · unfold isCompiled
    rw [held, if_pos rfl]
  · intro id older
    unfold isCompiled
    rw [held, if_neg (Nat.ne_of_lt older)]

/-- A new entry adds one to the compiled ones if it has its thunk. -/
private theorem countP_addEntry {method : Method} {thunk : Option SharedThunk} {later : Factory}
    (entries : later.entries = f.entries.push ⟨method, thunk⟩) :
    (List.range later.entries.size).countP later.isCompiled =
      (List.range f.entries.size).countP f.isCompiled + thunk.isSome.toNat := by
  obtain ⟨size, new, old⟩ := f.isCompiled_addEntry method thunk entries
  rw [size, List.range_succ, List.countP_append, List.countP_singleton, new]
  congr 1
  · apply List.countP_congr
    intro id member
    rw [old id (List.mem_range.mp member)]
  · cases thunk <;> rfl

/-- An entry that gets its thunk adds one to the compiled ones. -/
private theorem countP_storeThunk {id : EntryId} (known : id < f.entries.size)
    (empty : (f.entry id).thunk = none) (shared : SharedThunk) :
    (List.range (f.storeThunk id shared).entries.size).countP (f.storeThunk id shared).isCompiled =
      (List.range f.entries.size).countP f.isCompiled + 1 := by
  have size : (f.storeThunk id shared).entries.size = f.entries.size := by
    simp [storeThunk]
  have split := List.perm_cons_erase (List.mem_range.mpr known)
  have stored : (f.storeThunk id shared).isCompiled id = true := by
    unfold isCompiled
    rw [storeThunk, entry_storeThunk, if_pos ⟨rfl, known⟩]
    rfl
  have before : f.isCompiled id = false := by
    unfold isCompiled
    rw [empty]
    rfl
  have others : ((List.range f.entries.size).erase id).countP (f.storeThunk id shared).isCompiled =
      ((List.range f.entries.size).erase id).countP f.isCompiled := by
    apply List.countP_congr
    intro other member
    have different : other ≠ id := (List.nodup_range.mem_erase_iff.mp member).1
    unfold isCompiled
    rw [storeThunk, entry_storeThunk, if_neg fun hit => different hit.1.symm]
  rw [size, split.countP_eq, split.countP_eq f.isCompiled, List.countP_cons, List.countP_cons,
    stored, before, others]
  rfl

/-- A new entry that belongs to one cache. -/
theorem Stocked.addEntry (stocked : f.Stocked delegates) {later : Factory} {method : Method}
    {thunk : Option SharedThunk} (entries : later.entries = f.entries.push ⟨method, thunk⟩)
    (owners : (later.indexEntries ++ later.specializationEntries).Perm
      (f.indexEntries ++ f.specializationEntries ++ [f.entries.size]))
    (thunkMisses : later.counters.thunkMisses = later.indexEntries.length)
    (specializationMisses :
      later.counters.specializationMisses = later.specializationEntries.length)
    (compilations : later.counters.thunkCompilations =
      f.counters.thunkCompilations + thunk.isSome.toNat) : later.Stocked delegates where
  thunkMisses := thunkMisses
  specializationMisses := specializationMisses
  owned := by
    rw [entries, Array.size_push, List.range_succ]
    exact owners.trans (stocked.owned.append_right _)
  compilations := by
    rw [compilations, countP_addEntry entries, stocked.compilations]
    omega

/-- A key that was absent brings the next entry into the thunk cache. -/
private theorem indexEntries_addToThunkIndex {method : Method}
    (absent : f.thunkIndex.find? method = none) (thunk : Option SharedThunk) :
    (f.addToThunkIndex method thunk).2.indexEntries = f.indexEntries ++ [f.entries.size] := by
  have added : (f.addToThunkIndex method thunk).2.thunkIndex.entries =
      f.thunkIndex.entries ++ [(method, f.entries.size)] :=
    Table.entries_insert_of_absent _ absent
  unfold indexEntries
  rw [added, List.map_append]
  rfl

/-- A new entry of the thunk cache is a miss. -/
theorem Stocked.addToThunkIndex (stocked : f.Stocked delegates) {method : Method}
    {thunk : Option SharedThunk} {later : Factory}
    (entries : later.entries = f.entries.push ⟨method, thunk⟩)
    (index : later.indexEntries = f.indexEntries ++ [f.entries.size])
    (caches : later.specializationCaches = f.specializationCaches)
    (thunkMisses : later.counters.thunkMisses = f.counters.thunkMisses + 1)
    (specializationMisses :
      later.counters.specializationMisses = f.counters.specializationMisses)
    (compilations : later.counters.thunkCompilations =
      f.counters.thunkCompilations + thunk.isSome.toNat) : later.Stocked delegates := by
  have others : later.specializationEntries = f.specializationEntries :=
    congrArg (fun caches : Array SpecializationCache => caches.toList.flatMap cacheEntries) caches
  refine stocked.addEntry entries ?_ ?_ ?_ compilations
  · rw [index, others, List.append_assoc, List.append_assoc]
    exact List.perm_append_comm.append_left _
  · rw [index, thunkMisses, stocked.thunkMisses, List.length_append]
    rfl
  · rw [others, specializationMisses, stocked.specializationMisses]

/-- Type arguments that were absent bring the next entry into the specialization caches. -/
private theorem specializationEntries_addSpecialization {id : CacheId}
    (known : id < f.specializationCaches.size) {arguments : List RuntimeType}
    (absent : (f.specializationCache id).specializations.find? arguments = none)
    (method : Method) :
    (f.addSpecialization id arguments method).specializationEntries.Perm
      (f.specializationEntries ++ [f.entries.size]) := by
  have found : f.specializationCaches.toList[id]? = some (f.specializationCache id) := by
    unfold specializationCache
    rw [Array.getElem?_toList, Array.getElem?_eq_getElem known]
    rfl
  unfold specializationEntries addSpecialization
  rw [Array.toList_modify]
  refine perm_flatMap_modify found ?_
  unfold cacheEntries
  rw [Table.entries_insert_of_absent _ absent, List.map_append]
  rfl

/-- No change brings what a factory holds and what it counts apart. -/
theorem Stocked.of_change {u : Universe} {later : Factory} (stocked : f.Stocked delegates)
    (change : f.Change u later) : later.Stocked delegates := by
  cases change with
  | counted => exact ⟨stocked.thunkMisses, stocked.specializationMisses, stocked.owned,
      stocked.compilations⟩
  | entered absent =>
      exact stocked.addToThunkIndex rfl (indexEntries_addToThunkIndex absent none) rfl rfl rfl rfl
  | enteredCompiled absent right =>
      exact stocked.addToThunkIndex rfl
        (indexEntries_addToThunkIndex (f := f.countCompilation) absent _) rfl rfl rfl rfl
  -- One entry more is compiled, and one compilation more is counted.
  | @compiled id thunk known empty right =>
      have size : (f.countCompilation.storeThunk id (f.nextThunk thunk)).entries.size =
          f.entries.size := by
        simp [storeThunk, countCompilation]
      refine ⟨stocked.thunkMisses, stocked.specializationMisses, ?_, ?_⟩
      · rw [size]
        exact stocked.owned
      · have counted := countP_storeThunk (f := f.countCompilation) known empty (f.nextThunk thunk)
        have before := stocked.compilations
        have further :
            (f.countCompilation.storeThunk id (f.nextThunk thunk)).counters.thunkCompilations =
              f.counters.thunkCompilations + 1 := rfl
        have same : (List.range f.countCompilation.entries.size).countP
            f.countCompilation.isCompiled = (List.range f.entries.size).countP f.isCompiled := rfl
        omega
  | cacheAdded slot =>
      have same : (f.addSpecializationCache slot).2.specializationEntries =
          f.specializationEntries := by
        unfold specializationEntries addSpecializationCache
        rw [Array.toList_push, List.flatMap_append]
        exact List.append_nil _
      refine ⟨stocked.thunkMisses, ?_, ?_, stocked.compilations⟩
      · rw [same]
        exact stocked.specializationMisses
      · rw [same]
        exact stocked.owned
  -- A miss, one entry more, and one more place in the caches that it belongs to.
  | @specialized id arguments method known absent closed =>
      have grown := specializationEntries_addSpecialization known absent method
      refine stocked.addEntry rfl ?_ stocked.thunkMisses ?_ rfl
      · rw [List.append_assoc]
        exact grown.append_left _
      · rw [grown.length_eq, List.length_append]
        exact congrArg (· + 1) stocked.specializationMisses

end Stock

/-! ### The whole account -/

/-- The counters of a factory agree with its caches and with its tally. -/
structure Balanced (f : Factory) (t : Tally) : Prop where
  stocked : f.Stocked t.delegates
  missed : f.counters.proxyTypeMisses = f.proxyTypes.size + t.failedBuilds
  requested : f.counters.proxyTypeHits + f.counters.proxyTypeMisses = t.cachedRequests
  built : f.counters.proxyTypesBuilt = t.builds

/-- What is counted of proxy types, and the types held, change only with requests for them. -/
theorem Changes.types {u : Universe} {f later : Factory} (changes : f.Changes u later) :
    later.proxyTypes = f.proxyTypes ∧
      later.counters.proxyTypeHits = f.counters.proxyTypeHits ∧
      later.counters.proxyTypeMisses = f.counters.proxyTypeMisses ∧
      later.counters.proxyTypesBuilt = f.counters.proxyTypesBuilt := by
  induction changes with
  | refl => exact ⟨rfl, rfl, rfl, rfl⟩
  | tail _ change inductionHypothesis => cases change <;> exact inductionHypothesis

namespace Balanced

variable {u : Universe} {f later : Factory} {t : Tally} (balanced : f.Balanced t)

include balanced

/-- Changes touch neither proxy types nor what is counted of these. -/
theorem of_changes (changes : f.Changes u later) : later.Balanced t := by
  obtain ⟨types, hits, misses, built⟩ := changes.types
  have stocked := changes.kept (fun _ _ change stocked => Stocked.of_change stocked change)
    balanced.stocked
  refine ⟨stocked, ?_, ?_, ?_⟩
  · rw [misses, types]
    exact balanced.missed
  · rw [hits, misses]
    exact balanced.requested
  · rw [built]
    exact balanced.built

theorem countDelegate : f.countCompilation.Balanced (t.countDelegate true) := by
  obtain ⟨⟨thunks, specializations, owned, compilations⟩, missed, requested, built⟩ := balanced
  exact ⟨⟨thunks, specializations, owned, congrArg (· + 1) compilations⟩, missed, requested, built⟩

/-- A request that the cache answers. -/
theorem countHit : Balanced { f with counters.proxyTypeHits := f.counters.proxyTypeHits + 1 }
    (t.countRequest true true true) := by
  obtain ⟨⟨thunks, specializations, owned, compilations⟩, missed, requested, built⟩ := balanced
  refine ⟨⟨thunks, specializations, owned, compilations⟩, missed, ?_, built⟩
  exact (Nat.add_right_comm _ _ _).trans (congrArg (· + 1) requested)

/-- A request that the cache does not answer counts as failed until a type is there. -/
theorem countMiss : Balanced { f with counters.proxyTypeMisses := f.counters.proxyTypeMisses + 1 }
    (t.countRequest true false false) := by
  obtain ⟨⟨thunks, specializations, owned, compilations⟩, missed, requested, built⟩ := balanced
  exact ⟨⟨thunks, specializations, owned, compilations⟩, congrArg (· + 1) missed,
    congrArg (· + 1) requested, built⟩

/-- A proxy type that is built past the type cache. -/
theorem countBuild (held : Bool) :
    f.countProxyTypeBuilt.Balanced (t.countRequest false held true) := by
  obtain ⟨⟨thunks, specializations, owned, compilations⟩, missed, requested, built⟩ := balanced
  exact ⟨⟨thunks, specializations, owned, compilations⟩, missed, requested,
    congrArg (· + 1) built⟩

omit balanced

/-- Once the type is there the request did not fail. -/
theorem storeType (missing : f.Balanced (t.countRequest true false false)) {key : DescriptorKey}
    (absent : f.proxyTypes.find? key = none) (proxyType : ProxyType) :
    Balanced { f.countProxyTypeBuilt with proxyTypes := f.proxyTypes.insert key proxyType }
      (t.countRequest true false true) := by
  obtain ⟨⟨thunks, specializations, owned, compilations⟩, missed, requested, built⟩ := missing
  refine ⟨⟨thunks, specializations, owned, compilations⟩, ?_, requested,
    congrArg (· + 1) built⟩
  have size : (f.proxyTypes.insert key proxyType).size = f.proxyTypes.size + 1 := by
    rw [Table.size_insert, Table.contains, absent]
    rfl
  rw [size]
  exact missed.trans (Nat.add_right_comm f.proxyTypes.size t.failedBuilds 1)

include balanced

/-- A request for a proxy type is counted as it is answered. -/
theorem of_answers {key : DescriptorKey} {throughCache : Bool} {result : Except Fault ProxyType}
    (answers : u.Answers key f throughCache result later) :
    later.Balanced
      (t.countRequest throughCache (f.proxyTypes.find? key).isSome result.isOk) := by
  cases answers with
  | rejected fault => exact balanced
  | built proxyType changes => exact (balanced.of_changes changes).countBuild _
  | found held =>
      rw [held]
      exact balanced.countHit
  | missedRejected absent fault =>
      rw [absent]
      exact balanced.countMiss
  | missedBuilt absent proxyType changes =>
      have kept := changes.types.1
      rw [absent]
      refine (balanced.countMiss.of_changes changes).storeType ?_ proxyType
      rw [kept]
      exact absent

/-- An effect keeps the balance of a factory with its tally. -/
theorem of_effect {after : Tally} (effect : f.Effect u t later after) : later.Balanced after := by
  cases effect with
  | changed changes => exact balanced.of_changes changes
  | delegated => exact balanced.countDelegate
  | answered answers => exact balanced.of_answers answers
  | reconfigured config =>
      obtain ⟨⟨thunks, specializations, owned, compilations⟩, missed, requested, built⟩ := balanced
      exact ⟨⟨thunks, specializations, owned, compilations⟩, missed, requested, built⟩

end Balanced

/-- What the counters of a factory say of its caches and of what was asked of it. -/
structure Conserves (f : Factory) (t : Tally) : Prop where
  thunkMisses : f.counters.thunkMisses = f.thunkIndex.size
  specializationMisses : f.counters.specializationMisses = f.specializationCount
  /-- The report takes the misses for the size of the specialization caches. -/
  reported : f.report.specialization.size = f.specializationCount
  proxyTypeMisses : f.counters.proxyTypeMisses = f.proxyTypes.size + t.failedBuilds
  proxyTypeRequests : f.counters.proxyTypeHits + f.counters.proxyTypeMisses = t.cachedRequests
  proxyTypesBuilt : f.counters.proxyTypesBuilt = t.builds
  /-- Each entry was compiled at most once: there is no compilation but those of the entries
  that have their thunks, and those of delegates. -/
  thunkCompilations : f.counters.thunkCompilations =
    f.indexEntries.countP f.isCompiled + f.specializationEntries.countP f.isCompiled + t.delegates

/-- A balanced factory conserves what it reports. -/
private theorem conserves_of_balanced {f : Factory} {t : Tally} (balanced : f.Balanced t) :
    f.Conserves t where
  thunkMisses := balanced.stocked.thunkMisses.trans (List.length_map _)
  specializationMisses := balanced.stocked.specializationMisses.trans f.specializationCount_eq.symm
  reported := balanced.stocked.specializationMisses.trans f.specializationCount_eq.symm
  proxyTypeMisses := balanced.missed
  proxyTypeRequests := balanced.requested
  proxyTypesBuilt := balanced.built
  thunkCompilations := by
    rw [balanced.stocked.compilations, ← balanced.stocked.owned.countP_eq, List.countP_append]

end Factory

namespace Session

/-- A step of the run: whatever is done to a session, its factories stay balanced. -/
private theorem balanced_of_perform {s after : Session} (sound : s.Sound) {t : FactoryId → Tally}
    {operation : Operation} {reply : operation.Reply} (permits : s.Permits operation)
    (performed : s.perform operation = some (reply, after))
    (balanced : ∀ id, (s.world.factory id).Balanced (t id)) (id : FactoryId) :
    (after.world.factory id).Balanced (s.tallied operation t id) :=
  (balanced id).of_effect (sound.effect_of_perform permits performed t id)

private theorem balanced_of_enters {s nested : Session} (sound : s.Sound) {t : FactoryId → Tally}
    (entered : s.Enters nested) (balanced : ∀ id, (s.world.factory id).Balanced (t id))
    (id : FactoryId) : (nested.world.factory id).Balanced (t id) :=
  (balanced id).of_changes ((sound.progresses_of_enters entered).2.changes id)

/-- However a session came about, its factories are balanced. In the middle of a call they are as
well: a call is entered after some steps of it were taken. -/
private theorem balanced_of_records {s : Session} {t : FactoryId → Tally} (records : s.Records t) :
    ∀ id, (s.world.factory id).Balanced (t id) := by
  induction records with
  | initial =>
      intro id
      have nothing : (World.empty.factory id).Balanced {} :=
        ⟨⟨rfl, rfl, .refl _, rfl⟩, rfl, rfl, rfl⟩
      exact nothing.of_effect (effect_addFactory Universe.initial World.empty .standard {} id)
  | performed records operation permits performed inductionHypothesis =>
      have sound := sound_of_occurs (occurs_of_records records)
      exact balanced_of_perform sound permits performed inductionHypothesis
  | within records entered inductionHypothesis =>
      have sound := sound_of_occurs (occurs_of_records records)
      exact balanced_of_enters sound entered inductionHypothesis

/-- Metrics are conserved.  Whatever was done to a session, also in the middle of a call, each
factory has missed as often as its caches have keys, or requests failed; it has built the types
that were asked of it; and it has compiled each entry at most once, beside the delegates. -/
theorem metrics_conserved {s : Session} {t : FactoryId → Tally} (records : s.Records t)
    (id : FactoryId) : (s.world.factory id).Conserves (t id) :=
  Factory.conserves_of_balanced (balanced_of_records records id)

/-- A proxy type that is asked for again, a delegate, and a thunk of the cache: of two requests
one built the type, and of two compilations one was for the delegate. -/
theorem metrics_conserved_advance :
    ∃ (s : Session) (t : FactoryId → Tally), s.Records t ∧ t 0 = ⟨2, 0, 1, 1⟩ ∧
      (s.world.factory 0).counters.thunkCompilations = 2 ∧ (s.world.factory 0).Conserves (t 0) := by
  have defined := Records.initial.performed (.define cursor)
    ⟨by decide, fun _ held => MethodBody.alike_of_mem_native held⟩ rfl
  have made := defined.performed (.request 0 .cached ⟨2, [], Universe.everything⟩)
    Nat.zero_lt_one rfl
  have found := made.performed (.request 0 .cached ⟨2, [], Universe.everything⟩)
    (by with_unfolding_all exact Nat.zero_lt_one) rfl
  have delegated := found.performed (.serve 0 (.compile ⟨⟨2, 0⟩, []⟩))
    ⟨by with_unfolding_all decide, trivial⟩ rfl
  have compiled := delegated.performed (.serve 0 (.getOrCompile ⟨⟨2, 0⟩, []⟩))
    ⟨by with_unfolding_all decide, trivial⟩ rfl
  exact ⟨_, _, compiled, by with_unfolding_all rfl, by with_unfolding_all rfl,
    metrics_conserved compiled 0⟩

end Session

end Interpose
