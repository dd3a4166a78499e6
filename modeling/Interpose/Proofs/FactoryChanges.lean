/-
Module: Interpose.Proofs.FactoryChanges
Purpose: The changes that the operations of a factory are made of.
Main exports: Factory.Change, Factory.Changes, Factory.Changes.kept, and one statement for each
  operation: Factory.changes_getOrCompile, Factory.changes_entryThunk, Factory.changes_specialize
-/
import Mathlib.Logic.Relation
import Interpose.Proofs.FactoryCoherence

namespace Interpose.Factory

/-- One more compilation is counted. -/
def countCompilation (f : Factory) : Factory :=
  { f with counters.thunkCompilations := f.counters.thunkCompilations + 1 }

/-- A thunk with the number of the compilation that comes next. -/
def nextThunk (f : Factory) (thunk : Thunk) : SharedThunk := ⟨f.counters.thunkCompilations, thunk⟩

/-- An entry gets its thunk. -/
def storeThunk (id : EntryId) (shared : SharedThunk) (f : Factory) : Factory :=
  { f with entries := f.entries.modify id fun entry => { entry with thunk := some shared } }

def isCompiled (f : Factory) (id : EntryId) : Bool := (f.entry id).thunk.isSome

theorem entry_of_push {f later : Factory} {added : Entry}
    (entries : later.entries = f.entries.push added) (id : EntryId) :
    later.entry id = if id = f.entries.size then added else f.entry id := by
  unfold entry
  rw [entries]
  exact entry_push f added id

/-- A specialization comes into a cache, with a new entry, which is a miss. -/
def addSpecialization (id : CacheId) (arguments : List RuntimeType) (method : Method)
    (f : Factory) : Factory :=
  { f with
    entries := f.entries.push ⟨method, none⟩
    counters.specializationMisses := f.counters.specializationMisses + 1
    specializationCaches := f.specializationCaches.modify id fun cache =>
      { cache with
        specializations := cache.specializations.insert arguments
          ⟨arguments, method, f.entries.size⟩ } }

/-- The least that an operation changes, unless it makes proxy types or compiles for a
delegate.  Keys come into a cache where they are absent, and an entry gets a thunk while it
has none. -/
inductive Change (u : Universe) (f : Factory) : Factory → Prop where
  /-- A hit or a call is counted. -/
  | counted (thunkHits specializationHits interceptedCalls passThroughCalls : Nat) :
      Change u f { f with
        counters := { f.counters with
          thunkHits := thunkHits
          specializationHits := specializationHits
          interceptedCalls := interceptedCalls
          passThroughCalls := passThroughCalls } }
  | entered {method : Method} (absent : f.thunkIndex.find? method = none) :
      Change u f (f.addToThunkIndex method none).2
  | enteredCompiled {method : Method} {thunk : Thunk}
      (absent : f.thunkIndex.find? method = none) (right : u.compile method = .ok thunk) :
      Change u f (f.countCompilation.addToThunkIndex method (some (f.nextThunk thunk))).2
  | compiled {id : EntryId} {thunk : Thunk} (known : id < f.entries.size)
      (empty : (f.entry id).thunk = none) (right : u.compile (f.entry id).method = .ok thunk) :
      Change u f (f.countCompilation.storeThunk id (f.nextThunk thunk))
  | cacheAdded (slot : Slot) : Change u f (f.addSpecializationCache slot).2
  | specialized {id : CacheId} {arguments : List RuntimeType} {method : Method}
      (known : id < f.specializationCaches.size)
      (absent : (f.specializationCache id).specializations.find? arguments = none)
      (closed : u.makeGeneric (f.specializationCache id).slot.toMethod arguments = .ok method) :
      Change u f (f.addSpecialization id arguments method)

/-- One change after the other. -/
def Changes (u : Universe) : Factory → Factory → Prop := Relation.ReflTransGen (Change u)

namespace Changes

variable {u : Universe} {f later further : Factory}

theorem refl (u : Universe) (f : Factory) : f.Changes u f := Relation.ReflTransGen.refl

theorem single (change : f.Change u later) : f.Changes u later :=
  Relation.ReflTransGen.single change

theorem trans (first : f.Changes u later) (second : later.Changes u further) :
    f.Changes u further :=
  Relation.ReflTransGen.trans first second

/-- What every change keeps is kept. -/
theorem kept {invariant : Factory → Prop}
    (kept : ∀ f later : Factory, f.Change u later → invariant f → invariant later)
    (changes : f.Changes u later) (initially : invariant f) : invariant later := by
  induction changes with
  | refl => exact initially
  | tail _ change inductionHypothesis => exact kept _ _ change inductionHypothesis

end Changes

variable {u : Universe} {f : Factory}

/-! ### Operations -/

private theorem changes_countThunkHit : f.Changes u f.countThunkHit :=
  .single (.counted (f.counters.thunkHits + 1) _ _ _)

theorem changes_countIntercepted : f.Changes u f.countIntercepted :=
  .single (.counted _ _ (f.counters.interceptedCalls + 1) _)

theorem changes_countPassThrough : f.Changes u f.countPassThrough :=
  .single (.counted _ _ _ (f.counters.passThroughCalls + 1))

theorem changes_addSpecializationCache (slot : Slot) :
    f.Changes u (f.addSpecializationCache slot).2 :=
  .single (.cacheAdded slot)

theorem changes_thunkEntry (method : Method) : f.Changes u (f.thunkEntry method).2 := by
  unfold thunkEntry
  cases found : f.thunkIndex.find? method with
  | some id => exact changes_countThunkHit
  | none => exact .single (.entered found)

theorem compile_of_ok {method : Method} {thunk : Thunk} (right : u.compile method = .ok thunk) :
    f.compile u method = (.ok (f.nextThunk thunk), f.countCompilation) := by
  unfold compile
  rw [right]
  rfl

theorem compile_of_error {method : Method} {fault : Fault}
    (wrong : u.compile method = .error fault) : f.compile u method = (.error fault, f) := by
  unfold compile
  rw [wrong]

/-- An entry without a thunk gets the next one, if its method compiles. -/
theorem entryThunk_of_ok {id : EntryId} {thunk : Thunk} (empty : (f.entry id).thunk = none)
    (right : u.compile (f.entry id).method = .ok thunk) :
    f.entryThunk u id =
      (.ok (f.nextThunk thunk), f.countCompilation.storeThunk id (f.nextThunk thunk)) := by
  unfold entryThunk
  rw [empty, compile_of_ok right]
  rfl

theorem entryThunk_of_error {id : EntryId} {fault : Fault} (empty : (f.entry id).thunk = none)
    (wrong : u.compile (f.entry id).method = .error fault) :
    f.entryThunk u id = (.error fault, f) := by
  unfold entryThunk
  rw [empty, compile_of_error wrong]

theorem entryThunk_of_some {id : EntryId} {shared : SharedThunk}
    (held : (f.entry id).thunk = some shared) : f.entryThunk u id = (.ok shared, f) := by
  unfold entryThunk
  rw [held]

private theorem entry_storeThunk_self (f : Factory) {id : EntryId} (known : id < f.entries.size)
    (shared : SharedThunk) : (f.storeThunk id shared).entry id = ⟨(f.entry id).method, shared⟩ := by
  rw [storeThunk, entry_storeThunk, if_pos ⟨rfl, known⟩]

/-- An entry whose thunk was asked for holds it. -/
theorem held_entryThunk {id : EntryId} (known : id < f.entries.size) {shared : SharedThunk}
    (given : (f.entryThunk u id).1 = .ok shared) :
    ((f.entryThunk u id).2.entry id).thunk = some shared := by
  cases held : (f.entry id).thunk with
  | some older =>
      rw [entryThunk_of_some held] at given ⊢
      rw [← Except.ok.inj given]
      exact held
  | none =>
      cases compiled : u.compile (f.entry id).method with
      | error fault =>
          rw [entryThunk_of_error held compiled] at given
          cases given
      | ok thunk =>
          rw [entryThunk_of_ok held compiled] at given ⊢
          rw [← Except.ok.inj given]
          exact congrArg Entry.thunk (f.countCompilation.entry_storeThunk_self known _)

/-- An entry that is there either has its thunk or gets it by one compilation, unless its method
does not compile. -/
theorem changes_entryThunk {id : EntryId} (known : id < f.entries.size) :
    f.Changes u (f.entryThunk u id).2 := by
  cases held : (f.entry id).thunk with
  | some shared =>
      rw [entryThunk_of_some held]
      exact .refl u f
  | none =>
      cases compiled : u.compile (f.entry id).method with
      | error fault =>
          rw [entryThunk_of_error held compiled]
          exact .refl u f
      | ok thunk =>
          rw [entryThunk_of_ok held compiled]
          exact .single (.compiled known held compiled)

/-- A method that is not in the thunk cache comes in with the next thunk, if it compiles. -/
theorem getOrCompile_of_ok {method : Method} {thunk : Thunk}
    (absent : f.thunkIndex.find? method = none) (right : u.compile method = .ok thunk) :
    f.getOrCompile u method =
      (.ok (f.nextThunk thunk),
        (f.countCompilation.addToThunkIndex method (some (f.nextThunk thunk))).2) := by
  unfold getOrCompile
  rw [absent, compile_of_ok right]

theorem getOrCompile_of_error {method : Method} {fault : Fault}
    (absent : f.thunkIndex.find? method = none) (wrong : u.compile method = .error fault) :
    f.getOrCompile u method = (.error fault, f) := by
  unfold getOrCompile
  rw [absent, compile_of_error wrong]

/-- A method that is in the thunk cache is a hit, and its entry is asked for the thunk. -/
theorem getOrCompile_of_some {method : Method} {id : EntryId}
    (found : f.thunkIndex.find? method = some id) :
    f.getOrCompile u method = f.countThunkHit.entryThunk u id := by
  unfold getOrCompile
  rw [found]

/-- The thunk cache counts a hit, or compiles and takes the method in, unless it does not compile.
-/
theorem changes_getOrCompile (coherent : f.Coherent u) (method : Method) :
    f.Changes u (f.getOrCompile u method).2 := by
  cases found : f.thunkIndex.find? method with
  | some id =>
      rw [getOrCompile_of_some found]
      have known : id < f.countThunkHit.entries.size := (coherent.indexed method id found).1
      exact changes_countThunkHit.trans (changes_entryThunk known)
  | none =>
      cases compiled : u.compile method with
      | error fault =>
          rw [getOrCompile_of_error found compiled]
          exact .refl u f
      | ok thunk =>
          rw [getOrCompile_of_ok found compiled]
          exact .single (.enteredCompiled found compiled)

/-- Type arguments that are in a cache are a hit. -/
theorem specialize_of_some {id : CacheId} {arguments : List RuntimeType}
    {specialization : Specialization}
    (found : (f.specializationCache id).specializations.find? arguments = some specialization) :
    f.specialize u id arguments =
      (.ok specialization,
        { f with counters.specializationHits := f.counters.specializationHits + 1 }) := by
  unfold specialize
  simp only [found]

/-- Type arguments that are not in a cache come in, if the definition takes them. -/
theorem specialize_of_ok {id : CacheId} {arguments : List RuntimeType} {method : Method}
    (absent : (f.specializationCache id).specializations.find? arguments = none)
    (closed : u.makeGeneric (f.specializationCache id).slot.toMethod arguments = .ok method) :
    f.specialize u id arguments =
      (.ok ⟨arguments, method, f.entries.size⟩, f.addSpecialization id arguments method) := by
  unfold specialize
  simp only [absent, closed]
  rfl

/-- Type arguments that the definition does not take leave no trace. -/
theorem specialize_of_error {id : CacheId} {arguments : List RuntimeType} {fault : Fault}
    (absent : (f.specializationCache id).specializations.find? arguments = none)
    (rejected : u.makeGeneric (f.specializationCache id).slot.toMethod arguments = .error fault) :
    f.specialize u id arguments = (.error fault, f) := by
  unfold specialize
  simp only [absent, rejected]

/-- A cache that is there counts a hit, or takes the type arguments in with a new entry, unless the
definition does not take them. -/
theorem changes_specialize {id : CacheId} (known : id < f.specializationCaches.size)
    (arguments : List RuntimeType) : f.Changes u (f.specialize u id arguments).2 := by
  cases found : (f.specializationCache id).specializations.find? arguments with
  | some specialization =>
      rw [specialize_of_some found]
      exact .single (.counted _ (f.counters.specializationHits + 1) _ _)
  | none =>
      cases closed : u.makeGeneric (f.specializationCache id).slot.toMethod arguments with
      | error fault =>
          rw [specialize_of_error found closed]
          exact .refl u f
      | ok method =>
          rw [specialize_of_ok found closed]
          exact .single (.specialized known found closed)

end Interpose.Factory
