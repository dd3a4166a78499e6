/-
Module: Interpose.Proofs.ThunkCache
Purpose: The thunk cache hands out the thunks that methods compile to, and goes on handing out
  the same ones.
Main exports: ThunkPath, Factory.thunkBy, Session.invokeDelegate, Session.HandsFresh,
  Session.HandsSame, Session.thunk_cache_coherent
-/
import Interpose.Proofs.FactoryHistories
import Interpose.Proofs.Transparency

namespace Interpose

/-- How the thunk of a method is asked for. -/
inductive ThunkPath where
  /-- The thunk at once, for a call through the cache. -/
  | direct
  /-- The entry first, and then its thunk, as an intercepted call does. -/
  | throughEntry
deriving DecidableEq, Repr

namespace Factory

/-- The thunk that the cache has for a method, asked for in either way. -/
def thunkBy (u : Universe) (method : Method) :
    ThunkPath → Factory → Except Fault SharedThunk × Factory
  | .direct, f => f.getOrCompile u method
  | .throughEntry, f => (f.thunkEntry method).2.entryThunk u (f.thunkEntry method).1

@[simp] private theorem thunkBy_direct (u : Universe) (method : Method) (f : Factory) :
    f.thunkBy u method .direct = f.getOrCompile u method := rfl

@[simp] theorem thunkBy_throughEntry (u : Universe) (method : Method) (f : Factory) :
    f.thunkBy u method .throughEntry =
      (f.thunkEntry method).2.entryThunk u (f.thunkEntry method).1 := rfl

variable {u : Universe} {f : Factory} {method : Method}

/-! ### Entries of the thunk cache -/

private theorem thunkEntry_of_some {id : EntryId} (found : f.thunkIndex.find? method = some id) :
    f.thunkEntry method = (id, f.countThunkHit) := by
  unfold thunkEntry
  rw [found]

private theorem thunkEntry_of_none (absent : f.thunkIndex.find? method = none) :
    f.thunkEntry method = f.addToThunkIndex method none := by
  unfold thunkEntry
  rw [absent]

private theorem find?_addToThunkIndex (f : Factory) (method : Method) (thunk : Option SharedThunk) :
    (f.addToThunkIndex method thunk).2.thunkIndex.find? method = some f.entries.size :=
  f.thunkIndex.find?_insert_self method f.entries.size

private theorem entry_addToThunkIndex_self (f : Factory) (method : Method)
    (thunk : Option SharedThunk) :
    (f.addToThunkIndex method thunk).2.entry f.entries.size = ⟨method, thunk⟩ := by
  rw [entry_addToThunkIndex, if_pos rfl]

/-- The entry that is handed out is in the cache from then on. -/
theorem find?_thunkEntry (f : Factory) (method : Method) :
    (f.thunkEntry method).2.thunkIndex.find? method = some (f.thunkEntry method).1 := by
  cases found : f.thunkIndex.find? method with
  | some id =>
      rw [thunkEntry_of_some found]
      exact found
  | none =>
      rw [thunkEntry_of_none found]
      exact f.find?_addToThunkIndex method none

/-! ### Thunks of entries -/

/-- The cache has an entry for a method, and this holds a thunk. -/
def Holds (f : Factory) (method : Method) (shared : SharedThunk) : Prop :=
  ∃ id, f.thunkIndex.find? method = some id ∧ (f.entry id).thunk = some shared

private theorem Holds.retain {later : Factory} {shared : SharedThunk}
    (holds : f.Holds method shared) (retains : f.Retains later) : later.Holds method shared := by
  obtain ⟨id, found, held⟩ := holds
  exact ⟨id, retains.indexed method id found, retains.thunks id shared held⟩

/-- Compiling an entry adds no key to the thunk cache. -/
private theorem thunkIndex_entryThunk (u : Universe) (id : EntryId) (f : Factory) :
    (f.entryThunk u id).2.thunkIndex = f.thunkIndex := by
  cases held : (f.entry id).thunk with
  | some shared => rw [entryThunk_of_some held]
  | none =>
      cases compiled : u.compile (f.entry id).method with
      | error fault => rw [entryThunk_of_error held compiled]
      | ok thunk =>
          rw [entryThunk_of_ok held compiled]
          rfl

/-- A thunk that is handed out is held from then on. -/
private theorem holds_thunkBy (coherent : f.Coherent u) {path : ThunkPath} {shared : SharedThunk}
    (given : (f.thunkBy u method path).1 = .ok shared) :
    (f.thunkBy u method path).2.Holds method shared := by
  have entered : ∀ (g : Factory) (id : EntryId), g.thunkIndex.find? method = some id →
      id < g.entries.size → (g.entryThunk u id).1 = .ok shared →
      (g.entryThunk u id).2.Holds method shared := by
    intro g id found known opened
    refine ⟨id, ?_, held_entryThunk known opened⟩
    rw [thunkIndex_entryThunk]
    exact found
  cases path with
  | throughEntry =>
      obtain ⟨_, known, _⟩ := evolves_thunkEntry coherent method
      exact entered _ _ (f.find?_thunkEntry method) known given
  | direct =>
      rw [thunkBy_direct] at given ⊢
      cases found : f.thunkIndex.find? method with
      | some id =>
          rw [getOrCompile_of_some found] at given ⊢
          exact entered f.countThunkHit id found (coherent.indexed method id found).1 given
      | none =>
          cases compiled : u.compile method with
          | error fault =>
              rw [getOrCompile_of_error found compiled] at given
              cases given
          | ok thunk =>
              rw [getOrCompile_of_ok found compiled] at given ⊢
              obtain rfl := Except.ok.inj given
              refine ⟨_, find?_addToThunkIndex _ _ _, ?_⟩
              rw [entry_addToThunkIndex_self]

/-- A thunk that is held is handed out, whichever way it is asked for and whatever the types
have become. -/
theorem Holds.thunkBy {shared : SharedThunk} (holds : f.Holds method shared) (u : Universe)
    (path : ThunkPath) : (f.thunkBy u method path).1 = .ok shared := by
  obtain ⟨id, found, held⟩ := holds
  have counted : (f.countThunkHit.entry id).thunk = some shared := held
  cases path with
  | direct =>
      rw [thunkBy_direct, getOrCompile_of_some found, entryThunk_of_some counted]
  | throughEntry =>
      rw [thunkBy_throughEntry, thunkEntry_of_some found, entryThunk_of_some counted]

/-- Where the cache holds a thunk for a method, the entry that it gives out holds it. -/
theorem Holds.thunkEntry {shared : SharedThunk} (holds : f.Holds method shared) :
    (f.entry (f.thunkEntry method).1).thunk = some shared := by
  obtain ⟨id, found, held⟩ := holds
  rw [thunkEntry_of_some found]
  exact held

private theorem Coherent.eq_of_found (coherent : f.Coherent u) {other : Method} {id : EntryId}
    (found : f.thunkIndex.find? method = some id)
    (foundOther : f.thunkIndex.find? other = some id) : other = method := by
  obtain ⟨_, same⟩ := coherent.indexed method id found
  obtain ⟨_, sameOther⟩ := coherent.indexed other id foundOther
  exact sameOther.symm.trans same

/-- Different methods have thunks of different numbers. -/
theorem Holds.eq_of_serial {shared sharedOther : SharedThunk} {other : Method}
    (holds : f.Holds method shared) (holdsOther : f.Holds other sharedOther)
    (coherent : f.Coherent u) (numbered : f.Numbered)
    (same : sharedOther.serial = shared.serial) : other = method := by
  obtain ⟨id, found, held⟩ := holds
  obtain ⟨idOther, foundOther, heldOther⟩ := holdsOther
  obtain rfl := numbered.distinct idOther id _ _ heldOther held same
  exact coherent.eq_of_found found foundOther

private theorem evolves_thunkBy (coherent : f.Coherent u) (method : Method) (path : ThunkPath) :
    f.Evolves u (f.thunkBy u method path).2 := by
  cases path with
  | direct => exact (evolves_getOrCompile coherent method).2
  | throughEntry =>
      have entered := (evolves_thunkEntry coherent method).1
      exact entered.trans (evolves_entryThunk entered.coherent _).2

/-- Asking for a thunk is a sequence of moves, in either way. -/
private theorem becomes_thunkBy (coherent : f.Coherent u) (method : Method) (path : ThunkPath) :
    f.Becomes (f.thunkBy u method path).2 := by
  cases path with
  | direct => exact (changes_getOrCompile coherent method).becomes
  | throughEntry =>
      exact (Changes.becomes (u := u) (changes_thunkEntry method)).trans
        (becomes_entryThunk u _ _)

end Factory

namespace Session

/-- Call a method through a delegate: compile it past the cache, and call what comes of it. -/
def invokeDelegate (s : Session) (depth : Nat) (id : FactoryId) (method : Method)
    (on : ObjectRef) (arguments : List Value) : Option (CallResult × Session) :=
  match s.onFactory id (·.compile s.types method) with
  | (.error fault, after) => some (⟨.error fault, arguments⟩, after)
  | (.ok shared, after) => after.invokeThunk depth shared.thunk on arguments

/-- A call through a delegate is a call through a thunk that was compiled past the cache. -/
private theorem invokeDelegate_eq (s : Session) (depth : Nat) (id : FactoryId) (method : Method)
    (on : ObjectRef) (arguments : List Value) :
    s.invokeDelegate depth id method on arguments =
      s.running (s.types.invokeVia (s.types.callVirtual depth) id (·.compile s.types method) on
        arguments) := by
  unfold invokeDelegate onFactory running Universe.invokeVia
  generalize s.world.onFactory id (·.compile s.types method) = compiled
  obtain ⟨result, w⟩ := compiled
  cases result with
  | error fault => rfl
  | ok shared => rfl

/-- What a factory hands out for a method is what the method compiles to afresh. -/
structure HandsFresh (s : Session) (id : FactoryId) (method : Method) : Prop where
  /-- The thunk with all its steps, or else the fault. -/
  fresh : ((s.world.factory id).getOrCompile s.types method).1.map (·.thunk) =
    s.types.compile method
  own : ∀ shared, ((s.world.factory id).getOrCompile s.types method).1 = .ok shared →
    shared.thunk.method = method
  /-- A call through the cache is like one through a delegate. -/
  called : ∀ depth on arguments,
    Option.Rel (fun cached delegated => cached.1 = delegated.1 ∧ cached.2.SameEffect delegated.2)
      (s.invoke depth id method on arguments) (s.invokeDelegate depth id method on arguments)
  keyed : ∀ entry, (s.world.factory id).thunkIndex.find? method = some entry →
    entry < (s.world.factory id).entries.size ∧
      ((s.world.factory id).entry entry).method = method ∧
      ∀ shared, ((s.world.factory id).entry entry).thunk = some shared →
        s.types.compile method = .ok shared.thunk
  /-- What is rejected leaves no trace, unless the method has an entry already. -/
  rejected : ∀ fault, (s.world.factory id).thunkIndex.find? method = none →
    s.types.compile method = .error fault →
    (s.world.factory id).getOrCompile s.types method = (.error fault, s.world.factory id)

/-- What a factory hands out for a method it goes on handing out, and for no other method. -/
structure HandsSame (s : Session) (id : FactoryId) (method : Method) : Prop where
  /-- Neither an entry in the cache nor its thunk is ever replaced. -/
  kept : ∀ entry, (s.world.factory id).thunkIndex.find? method = some entry →
    ∀ later : Session, s.Leads later →
      (later.world.factory id).thunkIndex.find? method = some entry ∧
      ∀ shared, ((s.world.factory id).entry entry).thunk = some shared →
        ((later.world.factory id).entry entry).thunk = some shared
  entries : ∀ later : Session, (s.onFactory id (·.thunkEntry method)).2.Leads later →
    ∀ other, ((later.world.factory id).thunkEntry other).1 =
      ((s.world.factory id).thunkEntry method).1 ↔ other = method
  /-- A thunk is handed out again whichever way it is asked for then, and the entry of the
  method holds it. -/
  thunks : ∀ path shared, ((s.world.factory id).thunkBy s.types method path).1 = .ok shared →
    ∀ later : Session, (s.onFactory id (·.thunkBy s.types method path)).2.Leads later →
      ((later.world.factory id).entry ((later.world.factory id).thunkEntry method).1).thunk =
        some shared ∧
      (∀ again, ((later.world.factory id).thunkBy later.types method again).1 = .ok shared) ∧
      ∀ again other sharedOther,
        ((later.world.factory id).thunkBy later.types other again).1 = .ok sharedOther →
        (sharedOther.serial = shared.serial ↔ other = method)

section Kept

variable {s : Session} (sound : s.Sound) {id : FactoryId}

include sound

/-- A coherent factory hands out what a fresh compilation gives, however it is asked. -/
theorem handsFresh (method : Method) : s.HandsFresh id method where
  fresh := (Factory.evolves_getOrCompile (sound.coherent id) method).1
  own := by
    intro shared given
    have fresh := (Factory.evolves_getOrCompile (sound.coherent id) method).1
    rw [given] at fresh
    have compiled : s.types.compile method = .ok shared.thunk := fresh.symm
    rw [s.types.eq_assemble_of_compile compiled]
    rfl
  called := by
    intro depth on arguments
    obtain ⟨fresh, evolved⟩ := Factory.evolves_getOrCompile (sound.coherent id) method
    obtain ⟨delegate, evolvedOther⟩ := Factory.evolves_compile (sound.coherent id) method
    rw [invokeDelegate_eq]
    exact rel_running (Universe.parallel_invokeVia (s.types.faithful_callVirtual depth) on arguments
      (fresh.trans delegate.symm) (World.parallel_onFactory sound.alike id evolved evolvedOther))
  keyed := by
    intro entry found
    obtain ⟨known, same⟩ := (sound.coherent id).indexed method entry found
    refine ⟨known, same, fun shared held => ?_⟩
    have right := (sound.coherent id).compiled entry shared held
    rw [same] at right
    exact right
  rejected := fun _ absent wrong => Factory.getOrCompile_of_error absent wrong

/-- What a factory has handed out once it holds, and later requests find it. Two thunks with one
number are one, because numbers are never given twice. -/
theorem handsSame (known : id < s.world.factories.size)
    (numbered : (s.world.factory id).Numbered) (method : Method) : s.HandsSame id method where
  kept := by
    intro entry found later leads
    have retains := Factory.retains_of_becomes (sound.becomes_of_leads leads id)
    exact ⟨retains.indexed method entry found, fun shared held => retains.thunks entry shared held⟩
  entries := by
    intro later leads other
    have evolved := (Factory.evolves_thunkEntry (sound.coherent id) method).1
    have soundLater := (sound.onFactory evolved).leads leads
    have retains := Factory.retains_of_becomes (sound.becomes_after known evolved leads)
    have found := retains.indexed method _ ((s.world.factory id).find?_thunkEntry method)
    constructor
    · intro same
      have further := (Factory.evolves_thunkEntry (soundLater.coherent id) other).1
      have entered : (later.world.factory id).Retains
          ((later.world.factory id).thunkEntry other).2 :=
        Factory.retains_of_becomes (Factory.Changes.becomes (u := later.types)
          (Factory.changes_thunkEntry other))
      have foundOther := (later.world.factory id).find?_thunkEntry other
      rw [same] at foundOther
      exact further.coherent.eq_of_found (entered.indexed method _ found) foundOther
    · rintro rfl
      rw [Factory.thunkEntry_of_some found]
  thunks := by
    intro path shared given later leads
    have evolved := Factory.evolves_thunkBy (sound.coherent id) method path
    have soundLater := (sound.onFactory evolved).leads leads
    have becomes := sound.becomes_after known evolved leads
    have before := Factory.numbered_of_becomes numbered
      (Factory.becomes_thunkBy (sound.coherent id) method path)
    have numberedLater := Factory.numbered_of_becomes before becomes
    have holds := (Factory.holds_thunkBy (sound.coherent id) given).retain
      (Factory.retains_of_becomes becomes)
    refine ⟨holds.thunkEntry, holds.thunkBy later.types, ?_⟩
    intro again other sharedOther givenOther
    constructor
    · intro same
      have coherent := soundLater.coherent id
      have further := Factory.becomes_thunkBy coherent other again
      exact (holds.retain (Factory.retains_of_becomes further)).eq_of_serial
        (Factory.holds_thunkBy coherent givenOther)
        (Factory.evolves_thunkBy coherent other again).coherent
        (Factory.numbered_of_becomes numberedLater further) same
    · rintro rfl
      rw [holds.thunkBy later.types again] at givenOther
      rw [Except.ok.inj givenOther]

end Kept

/-- The thunk cache is coherent with fresh compilation, in every session that can come about,
also in the middle of calls.  What it hands out for a method is what the method compiles to
at that moment, and calls through it run as through a delegate.  An entry or a thunk that was
handed out stays the one of its method, and of no other, however the session goes on. -/
theorem thunk_cache_coherent {s : Session} (occurs : s.Occurs) {id : FactoryId}
    (known : id < s.world.factories.size) (method : Method) :
    s.HandsFresh id method ∧ s.HandsSame id method := by
  have sound := sound_of_occurs occurs
  exact ⟨handsFresh sound method, handsSame sound known (numbered_of_occurs occurs id) method⟩

/-- The thunk that the first intercepted call of the method is given is the one that calls
through the cache are given from then on. -/
theorem thunk_cache_coherent_advance :
    0 < (standIn transparent).world.factories.size ∧
      ∃ shared : SharedThunk, shared.thunk = .assemble (standIn transparent).types ⟨⟨2, 0⟩, []⟩ ∧
        (((standIn transparent).world.factory 0).thunkBy (standIn transparent).types ⟨⟨2, 0⟩, []⟩
          .throughEntry).1 = .ok shared ∧
        ∀ later : Session, ((standIn transparent).onFactory 0 (·.thunkBy
            (standIn transparent).types ⟨⟨2, 0⟩, []⟩ .throughEntry)).2.Leads later →
          ((later.world.factory 0).thunkBy later.types ⟨⟨2, 0⟩, []⟩ .direct).1 = .ok shared := by
  have known : 0 < (standIn transparent).world.factories.size := by with_unfolding_all decide
  have given : (((standIn transparent).world.factory 0).thunkBy (standIn transparent).types
      ⟨⟨2, 0⟩, []⟩ .throughEntry).1 =
        .ok ⟨0, .assemble (standIn transparent).types ⟨⟨2, 0⟩, []⟩⟩ := by with_unfolding_all rfl
  have occurs := occurs_of_reachable (reachable_standIn transparent)
  have same := (thunk_cache_coherent occurs known ⟨⟨2, 0⟩, []⟩).2.thunks .throughEntry _ given
  exact ⟨known, _, rfl, given, fun later leads => (same later leads).2.1 .direct⟩

end Session

end Interpose
