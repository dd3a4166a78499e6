/-
Module: Interpose.Proofs.CallEffects
Purpose: Calls do nothing to factories but what the operations of factories do.
Main exports: World.Progresses, World.progress, World.progresses_callVirtual
-/
import Interpose.Proofs.FactoryChanges
import Interpose.Proofs.SimulatedRuns

namespace Interpose.World

/-- What calls leave of a world: it has grown, it can still be told from nothing by a call,
and its factories went through changes of their operations. -/
structure Progresses (u : Universe) (w later : World) : Prop where
  alike : later.Alike u later
  grows : w.Grows later
  changes : ∀ id, (w.factory id).Changes u (later.factory id)

namespace Progresses

variable {u : Universe} {w later further : World}

theorem refl (alike : w.Alike u w) : w.Progresses u w :=
  ⟨alike, .refl w, fun _ => .refl u _⟩

theorem trans (first : w.Progresses u later) (second : later.Progresses u further) :
    w.Progresses u further :=
  ⟨second.alike, first.grows.trans second.grows,
    fun id => (first.changes id).trans (second.changes id)⟩

end Progresses

variable {u : Universe} {w : World}

/-- An operation of a factory that is made of changes. -/
private theorem progresses_onFactory {α : Type} (alike : w.Alike u w) {id : FactoryId}
    {operation : Factory → α × Factory}
    (evolved : (w.factory id).Evolves u (operation (w.factory id)).2)
    (changes : (w.factory id).Changes u (operation (w.factory id)).2) :
    w.Progresses u (w.onFactory id operation).2 where
  alike := (parallel_onFactory alike id evolved evolved).alike
  grows := grows_putFactory evolved
  changes := by
    intro other
    rw [onFactory, factory_putFactory]
    split
    · rename_i hit
      rw [← hit.1]
      exact changes
    · exact .refl u _

private theorem eq_of_same {w other : World} (factories : w.factories = other.factories)
    (objects : w.objects = other.objects) (scope : w.scope = other.scope)
    (journal : w.journal = other.journal) : w = other := by
  cases w
  cases other
  simp_all

/-- Two equal worlds that make equal progress. -/
def progress (u : Universe) : Simulation u where
  related w other := other = w ∧ w.Alike u w
  carried w other later laterOther := other = w ∧ laterOther = later ∧ w.Progresses u later
  matched := Eq
  alike := by
    rintro w _ ⟨rfl, alike⟩
    exact alike
  refl := by
    rintro w _ ⟨rfl, alike⟩
    exact ⟨rfl, rfl, .refl alike⟩
  trans := by
    rintro w _ later _ further _ ⟨rfl, rfl, first⟩ ⟨_, rfl, second⟩
    exact ⟨rfl, rfl, first.trans second⟩
  after := by
    rintro w _ later _ ⟨rfl, rfl, progresses⟩
    exact ⟨rfl, progresses.alike⟩
  grows := by
    rintro w _ later _ ⟨rfl, rfl, progresses⟩
    exact ⟨progresses.grows, progresses.grows⟩
  same := fun _ => rfl
  change := by
    intro w other later laterOther related factories factoriesOther objects scope journal proxies
    obtain ⟨rfl, alike⟩ := related
    have parallel := parallel_of_factories alike factories factoriesOther objects scope journal
      proxies
    obtain rfl : laterOther = later := eq_of_same (factoriesOther.trans factories.symm)
      objects.symm scope.symm journal.symm
    refine ⟨rfl, rfl, parallel.alike, parallel.grows, fun id => ?_⟩
    unfold factory
    rw [factories]
    exact .refl u _
  intercepted := by
    rintro w _ ⟨rfl, alike⟩ factory
    exact ⟨rfl, rfl, progresses_onFactory alike
      (Factory.evolves_countIntercepted (alike.coherent factory)) Factory.changes_countIntercepted⟩
  passedThrough := by
    rintro w _ ⟨rfl, alike⟩ factory
    exact ⟨rfl, rfl, progresses_onFactory alike
      (Factory.evolves_countPassThrough (alike.coherent factory)) Factory.changes_countPassThrough⟩
  compiled := by
    rintro w _ ⟨rfl, alike⟩ factory method
    exact ⟨rfl, rfl, progresses_onFactory alike
      (Factory.evolves_getOrCompile (alike.coherent factory) method).2
      (Factory.changes_getOrCompile (alike.coherent factory) method)⟩
  opened := by
    rintro w _ ⟨rfl, alike⟩ factory entry _ known _ _ rfl
    exact ⟨rfl, rfl, progresses_onFactory alike
      (Factory.evolves_entryThunk (alike.coherent factory) entry).2
      (Factory.changes_entryThunk known)⟩
  specialized := by
    rintro w _ ⟨rfl, alike⟩ factory cache arguments known _ _
    refine ⟨⟨rfl, rfl, progresses_onFactory alike
      (Factory.evolves_specialize (alike.coherent factory) cache arguments).2.1
      (Factory.changes_specialize known arguments)⟩, ?_⟩
    intro one two made madeOther
    rw [Except.ok.inj (made.symm.trans madeOther)]

/-- A run that keeps equal worlds equal makes progress. -/
theorem progresses_of_rel {α : Type} {w after : World} {run : World → Option (α × World)}
    {outcome : α} (same : Option.Rel ((progress u).Same w w) (run w) (run w))
    (ran : run w = some (outcome, after)) : w.Progresses u after := by
  rw [ran] at same
  obtain ⟨_, _, _, progresses⟩ := Option.rel_some_some.mp same
  exact progresses

end Interpose.World
