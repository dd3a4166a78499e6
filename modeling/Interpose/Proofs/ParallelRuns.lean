/-
Module: Interpose.Proofs.ParallelRuns
Purpose: Whatever factories have cached: every call runs alike in worlds that are alike.
Main exports: VirtualCall.Faithful, World.SameOutcome, World.keptAlike,
  Universe.faithful_callVirtual
-/
import Interpose.Proofs.SimulatedRuns

namespace Interpose

/-- A call that runs alike in worlds that are alike. -/
def VirtualCall.Faithful (u : Universe) (call : VirtualCall) : Prop :=
  ∀ on method frame w other, World.Alike u w other →
    Option.Rel (fun one two => one.1 = two.1 ∧ one.2.1 = two.2.1 ∧
        World.Parallel u w other one.2.2 two.2.2)
      (call on method frame w) (call on method frame other)

namespace World

/-- Worlds that are alike stay so, whatever is cached, and entries count by their methods. -/
def keptAlike (u : Universe) : Simulation u where
  related := Alike u
  carried := Parallel u
  matched := fun _ _ => True
  alike := id
  refl := .refl
  trans := .trans
  after := Parallel.alike
  grows := fun parallel => ⟨parallel.grows, parallel.growsOther⟩
  same := fun _ => trivial
  change := parallel_of_factories
  intercepted := fun alike factory =>
    parallel_count alike factory fun _ => Factory.evolves_countIntercepted
  passedThrough := fun alike factory =>
    parallel_count alike factory fun _ => Factory.evolves_countPassThrough
  compiled := fun alike factory method =>
    parallel_onFactory alike factory
      (Factory.evolves_getOrCompile (alike.coherent factory) method).2
      (Factory.evolves_getOrCompile (alike.coherentOther factory) method).2
  opened := fun alike factory entry entryOther _ _ _ _ =>
    parallel_onFactory alike factory
      (Factory.evolves_entryThunk (alike.coherent factory) entry).2
      (Factory.evolves_entryThunk (alike.coherentOther factory) entryOther).2
  specialized := fun alike factory cache arguments _ _ _ =>
    ⟨parallel_onFactory alike factory
      (Factory.evolves_specialize (alike.coherent factory) cache arguments).2.1
      (Factory.evolves_specialize (alike.coherentOther factory) cache arguments).2.1,
      fun _ _ _ _ => trivial⟩

/-- Setting a target has the same outcome in worlds that are alike. -/
theorem sameOutcome_setTarget {u : Universe} {w other : World} (alike : w.Alike u other)
    (on : ObjectRef) (target : Option ObjectRef) :
    SameOutcome u w other (w.setTarget u on target) (other.setTarget u on target) :=
  (keptAlike u).same_setTarget alike on target

end World

namespace Universe

open World (SameOutcome Parallel keptAlike)

section Calls

variable {u : Universe} {call : VirtualCall} (faithful : call.Faithful u)

include faithful

private theorem respects_of_faithful : (keptAlike u).Respects call := faithful

/-- A call through a thunk runs alike in worlds that are alike. -/
theorem parallel_invoke (thunk : Thunk) (on : ObjectRef) (arguments : List Value)
    {w other : World} (alike : w.Alike u other) :
    Option.Rel (SameOutcome u w other) (thunk.invoke u call on arguments w)
      (thunk.invoke u call on arguments other) :=
  World.Simulation.rel_invoke (respects_of_faithful faithful) thunk on arguments alike

/-- Thunks that factories look up are the same as soon as they are compiled from
the same method, whichever way they are looked up. -/
theorem parallel_invokeVia {factory : FactoryId}
    {lookup lookupOther : Factory → Except Fault SharedThunk × Factory}
    (on : ObjectRef) (arguments : List Value) {w other : World}
    (same : (w.onFactory factory lookup).1.map (·.thunk) =
      (other.onFactory factory lookupOther).1.map (·.thunk))
    (parallel : Parallel u w other (w.onFactory factory lookup).2
      (other.onFactory factory lookupOther).2) :
    Option.Rel (SameOutcome u w other) (u.invokeVia call factory lookup on arguments w)
      (u.invokeVia call factory lookupOther on arguments other) :=
  World.Simulation.rel_invokeVia (respects_of_faithful faithful) on arguments same parallel

theorem parallel_invokeThrough (factory : FactoryId) (method : Method) (on : ObjectRef)
    (arguments : List Value) {w other : World} (alike : w.Alike u other) :
    Option.Rel (SameOutcome u w other) (u.invokeThrough call factory method on arguments w)
      (u.invokeThrough call factory method on arguments other) :=
  World.Simulation.rel_invokeThrough (respects_of_faithful faithful) factory method on arguments
    alike

theorem parallel_serveBody {start startOther : World} (request : BodyRequest)
    (state stateOther : Frame × World)
    (related : state.1 = stateOther.1 ∧
      Parallel u start startOther state.2 stateOther.2) :
    Option.Rel (fun one two => one.1 = two.1 ∧ one.2.1 = two.2.1 ∧
        Parallel u start startOther one.2.2 two.2.2)
      (u.serveBody call request state) (u.serveBody call request stateOther) :=
  World.Simulation.rel_serveBody (respects_of_faithful faithful) request state stateOther related

/-- A request of an interceptor is served alike in worlds that are alike. -/
theorem parallel_serveHook {start startOther : World} (request : HookRequest)
    (state stateOther : Interception × World)
    (related : Interception.Alike state.2 stateOther.2 state.1 stateOther.1 ∧
      Parallel u start startOther state.2 stateOther.2) :
    Option.Rel (fun one two => one.1 = two.1 ∧
        Interception.Alike one.2.2 two.2.2 one.2.1 two.2.1 ∧
        Parallel u start startOther one.2.2 two.2.2)
      (u.serveHook call request state) (u.serveHook call request stateOther) := by
  have served := World.Simulation.rel_serveHook (respects_of_faithful faithful) request state
    stateOther ⟨⟨related.1, trivial⟩, related.2⟩
  generalize u.serveHook call request state = one at served
  generalize u.serveHook call request stateOther = two at served
  cases served with
  | none => exact .none
  | some same => exact .some ⟨same.1, same.2.1.1, same.2.2⟩

end Calls

/-- The interceptor that is consulted, and what it is told, do not depend on what is cached. -/
theorem parallel_consult {u : Universe} (this : ObjectRef) (slot : Slot) {dispatch : Dispatch}
    {factory : FactoryId} (frame : Frame) {w other : World} (alike : w.Alike u other)
    (same : dispatch.Alike (w.factory factory) (other.factory factory)) :
    let one := u.consult this slot dispatch factory frame w
    let two := u.consult this slot dispatch factory frame other
    Parallel u w other one.2 two.2 ∧
      ((∃ fault, one.1 = .error fault ∧ two.1 = .error fault) ∨
        ∃ interceptor context contextOther, one.1 = .ok (interceptor, context) ∧
          two.1 = .ok (interceptor, contextOther) ∧
          Interception.Alike one.2 two.2 context contextOther) := by
  obtain ⟨parallel, failed | ⟨interceptor, context, contextOther, one, two, contexts⟩⟩ :=
    (keptAlike u).rel_consult this slot frame alike same
  · exact ⟨parallel, .inl failed⟩
  · exact ⟨parallel, .inr ⟨interceptor, context, contextOther, one, two, contexts.1⟩⟩

/-- However deep calls may nest, they run alike in worlds that are alike. -/
theorem faithful_callVirtual (u : Universe) (depth : Nat) :
    VirtualCall.Faithful u (u.callVirtual depth) :=
  (keptAlike u).respects_callVirtual depth

end Universe

end Interpose
