/-
Module: Interpose.Proofs.NestedCalls
Purpose: The calls below a call, in whatever way they come about; and that calls in worlds side
  by side have calls below them side by side.
Main exports: MethodBody.Leads, Universe.Below, Session.Begins, Session.Advances, Session.Occurs,
  World.Simulation.exists_below, Session.sound_of_occurs
-/
import Mathlib.Logic.Relation
import Interpose.Proofs.CallEffects
import Interpose.Proofs.CallTrees

namespace Interpose

/-- While it runs for a call a body leads to another: one that it makes, or one on a frame
of its own making that it asks for. -/
inductive MethodBody.Leads (u : Universe) (call : VirtualCall) (a : Activation) :
    MethodBody → Activation → Prop where
  | makes {body : MethodBody} {made : Activation} (makes : body.Makes u call a made) :
      Leads u call a body made
  | asks {run : MethodRun} {method : Method} {on : ObjectRef} {arguments : List Value}
      {frame : Frame} {w : World}
      (asks : (run a.on).Asks (u.serveBody call) (a.frame, a.world)
        (.world (.callVirtual method on arguments)) (frame, w)) :
      Leads u call a (.native run) ⟨on, method, .ofValues arguments, w⟩
  | hookAsks {carried : Slot} {dispatch : Dispatch} {factory : FactoryId}
      {interceptor : Interceptor} {context left : Interception} {start w : World} {method : Method}
      {on : ObjectRef} {arguments : List Value}
      (consulted : u.consult a.on carried dispatch factory a.frame a.world =
        (.ok (interceptor, context), start))
      (asks : interceptor.Asks (u.serveHook call) (context, start)
        (.world (.callVirtual method on arguments)) (left, w)) :
      Leads u call a (.intercepted carried dispatch factory)
        ⟨on, method, .ofValues arguments, w⟩

/-- Within a call that nests less than `depth` deep there is a call that may itself nest
less than `rest` deep: the call itself, or one that a body below it leads to. -/
inductive Universe.Below (u : Universe) :
    (depth : Nat) → Activation → (rest : Nat) → Activation → Prop where
  | self (depth : Nat) (a : Activation) : Below u depth a depth a
  | within {depth rest : Nat} {a child nested : Activation} {body : MethodBody}
      (found : u.require a.on.type a.method = .ok body)
      (leads : body.Leads u (u.callVirtual depth) a child)
      (below : Below u depth child rest nested) : Below u (depth + 1) a rest nested

namespace Session

/-- A session makes a call from outside: through the thunk cache of a factory, through an
entry that is there, through a thunk that was compiled, or past every thunk. -/
inductive Begins (s : Session) (depth : Nat) : Activation → Prop where
  | invoke {factory : FactoryId} {method : Method} {on : ObjectRef} {arguments : List Value}
      {made : Activation}
      (via : s.types.MakesVia (s.types.callVirtual depth) factory (·.getOrCompile s.types method)
        on arguments s.world made) : Begins s depth made
  | invokeEntry {factory : FactoryId} {entry : EntryId} {on : ObjectRef} {arguments : List Value}
      {made : Activation} (known : entry < (s.world.factory factory).entries.size)
      (via : s.types.MakesVia (s.types.callVirtual depth) factory (·.entryThunk s.types entry)
        on arguments s.world made) : Begins s depth made
  | invokeThunk {method : Method} {thunk : Thunk} {on : ObjectRef} {arguments : List Value}
      {made : Activation} (compiled : s.types.compile method = .ok thunk)
      (makes : thunk.Makes s.types (s.types.callVirtual depth) on arguments s.world made) :
      Begins s depth made
  | callVirtual (on : ObjectRef) (method : Method) (frame : Frame) :
      Begins s depth ⟨on, method, frame, s.world⟩

/-- A session in the middle of a call that it began. -/
inductive Enters (s : Session) : Session → Prop where
  | within {depth rest : Nat} {root nested : Activation} (begins : s.Begins depth root)
      (below : s.types.Below depth root rest nested) : Enters s { s with world := nested.world }

/-- A session goes on: something is done to it, or it comes to the middle of a call. -/
inductive Advances (s : Session) : Session → Prop where
  | step {after : Session} (taken : Step s after) : Advances s after
  | enters {after : Session} (entered : s.Enters after) : Advances s after

/-- A session, or one that it becomes later. -/
def Leads : Session → Session → Prop := Relation.ReflTransGen Advances

/-- The sessions that the initial one can become, also in the middle of calls. -/
def Occurs (s : Session) : Prop := initial.Leads s

/-- What is reached by what is done to sessions comes about. -/
theorem occurs_of_reachable {s : Session} (reachable : Reachable s) : s.Occurs := by
  induction reachable with
  | initial => exact .refl
  | step _ taken inductionHypothesis => exact inductionHypothesis.tail (.step taken)

end Session

/-! ### Calls through thunks -/

namespace Universe

variable {u : Universe} {call : VirtualCall}

/-- A thunk that is right for a method makes the call of the method on the values
admitted, in the world that the look-up leaves. -/
private theorem makesVia_iff {factory : FactoryId}
    {lookup : Factory → Except Fault SharedThunk × Factory} {on : ObjectRef}
    {arguments : List Value} {w : World} {made : Activation} {method : Method}
    (right : (lookup (w.factory factory)).1.map (·.thunk) = u.compile method) :
    u.MakesVia call factory lookup on arguments w made ↔
      ∃ thunk values, u.compile method = .ok thunk ∧
        u.admission method on arguments = .ok values ∧
        made = ⟨on, method, u.entry method values, (w.onFactory factory lookup).2⟩ := by
  have looked : (w.onFactory factory lookup).1 = (lookup (w.factory factory)).1 := rfl
  rw [← looked] at right
  constructor
  · rintro ⟨shared, after, found, makes⟩
    rw [found] at right ⊢
    have compiled : u.compile method = .ok shared.thunk := right.symm
    rw [u.eq_assemble_of_compile compiled] at makes
    obtain ⟨values, admitted, rfl⟩ := Thunk.makes_assemble.mp makes
    exact ⟨shared.thunk, values, compiled, admitted, rfl⟩
  · rintro ⟨thunk, values, compiled, admitted, rfl⟩
    rw [compiled] at right
    cases outcome : w.onFactory factory lookup with
    | mk found after =>
        rw [outcome] at right
        cases found with
        | error fault => cases right
        | ok shared =>
            obtain rfl : shared.thunk = thunk := Except.ok.inj right
            refine ⟨shared, after, outcome, ?_⟩
            rw [u.eq_assemble_of_compile compiled]
            exact Thunk.makes_assemble.mpr ⟨values, admitted, rfl⟩

end Universe

/-! ### Calls side by side -/

namespace World.Simulation

variable {u : Universe} (simulation : Simulation u)

/-- The same call in related worlds. -/
structure Calls (a b : Activation) : Prop where
  on : a.on = b.on
  method : a.method = b.method
  frame : a.frame = b.frame
  related : simulation.related a.world b.world

/-- The same call, made on the way from two related worlds. -/
def Reached (w other : World) (a b : Activation) : Prop :=
  simulation.Calls a b ∧ simulation.carried w other a.world b.world

variable {simulation}

theorem Reached.trans {w other later laterOther : World} {a b : Activation}
    (carried : simulation.carried w other later laterOther)
    (reached : simulation.Reached later laterOther a b) : simulation.Reached w other a b :=
  ⟨reached.1, simulation.trans carried reached.2⟩

section Makes

variable {call : VirtualCall} {w other : World} {made : Activation}

/-- A call through a factory is made in the other world as well, through a thunk for the same
method. -/
private theorem exists_makesVia {factory : FactoryId}
    {lookup lookupOther : Factory → Except Fault SharedThunk × Factory} {on : ObjectRef}
    {arguments : List Value} {method : Method}
    (via : u.MakesVia call factory lookup on arguments w made)
    (right : (lookup (w.factory factory)).1.map (·.thunk) = u.compile method)
    (rightOther : (lookupOther (other.factory factory)).1.map (·.thunk) = u.compile method)
    (carried : simulation.carried w other (w.onFactory factory lookup).2
      (other.onFactory factory lookupOther).2) :
    ∃ madeOther, u.MakesVia call factory lookupOther on arguments other madeOther ∧
      simulation.Reached w other made madeOther := by
  obtain ⟨thunk, values, compiled, admitted, rfl⟩ := (Universe.makesVia_iff right).mp via
  refine ⟨⟨on, method, u.entry method values, (other.onFactory factory lookupOther).2⟩, ?_,
    ⟨rfl, rfl, rfl, simulation.after carried⟩, carried⟩
  exact (Universe.makesVia_iff rightOther).mpr ⟨thunk, values, compiled, admitted, rfl⟩

/-- A call through the thunk cache has one beside it. -/
private theorem exists_makesThrough {factory : FactoryId} {method : Method} {on : ObjectRef}
    {arguments : List Value}
    (via : u.MakesVia call factory (·.getOrCompile u method) on arguments w made)
    (related : simulation.related w other) :
    ∃ madeOther,
      u.MakesVia call factory (·.getOrCompile u method) on arguments other madeOther ∧
      simulation.Reached w other made madeOther := by
  have alike := simulation.alike related
  exact exists_makesVia via (Factory.evolves_getOrCompile (alike.coherent factory) method).1
    (Factory.evolves_getOrCompile (alike.coherentOther factory) method).1
    (simulation.compiled related factory method)

/-- A call through an entry has one beside it, through an entry of the same method. -/
private theorem exists_makesEntry {factory : FactoryId} {entry entryOther : EntryId}
    {on : ObjectRef} {arguments : List Value}
    (via : u.MakesVia call factory (·.entryThunk u entry) on arguments w made)
    (related : simulation.related w other) (known : entry < (w.factory factory).entries.size)
    (knownOther : entryOther < (other.factory factory).entries.size)
    (sameMethod : ((w.factory factory).entry entry).method =
      ((other.factory factory).entry entryOther).method)
    (matched : simulation.matched entry entryOther) :
    ∃ madeOther,
      u.MakesVia call factory (·.entryThunk u entryOther) on arguments other madeOther ∧
      simulation.Reached w other made madeOther := by
  have alike := simulation.alike related
  have right := (Factory.evolves_entryThunk (alike.coherent factory) entry).1
  have rightOther := (Factory.evolves_entryThunk (alike.coherentOther factory) entryOther).1
  rw [← sameMethod] at rightOther
  exact exists_makesVia via right rightOther
    (simulation.opened related factory entry entryOther known knownOther sameMethod matched)

/-- A call that a request about the world makes has one beside it. -/
private theorem exists_worldMakes {request : WorldRequest} (makes : request.Makes u call w made)
    (related : simulation.related w other) :
    ∃ madeOther, request.Makes u call other madeOther ∧
      simulation.Reached w other made madeOther := by
  cases makes with
  | invoke via =>
      obtain ⟨madeOther, viaOther, reached⟩ := exists_makesThrough via related
      exact ⟨madeOther, .invoke viaOther, reached⟩

/-- A call that a request of an interceptor makes has one beside it. -/
private theorem exists_hookMakes {request : HookRequest} {context contextOther : Interception}
    (makes : request.Makes u call (context, w) made) (related : simulation.related w other)
    (contexts : simulation.Contexts w other context contextOther) :
    ∃ madeOther, request.Makes u call (contextOther, other) madeOther ∧
      simulation.Reached w other made madeOther := by
  obtain ⟨alike, matched⟩ := contexts
  obtain ⟨known, knownOther, sameMethod⟩ := alike.dispatch
  have factory := alike.factory
  have target := alike.target
  have slots := alike.slots
  rw [factory] at known sameMethod
  cases makes with
  | world makes =>
      obtain ⟨madeOther, makesOther, reached⟩ := exists_worldMakes makes related
      exact ⟨madeOther, .world makesOther, reached⟩
  | proceed targeted via =>
      rw [factory, slots] at via
      obtain ⟨madeOther, viaOther, reached⟩ :=
        exists_makesEntry via related known knownOther sameMethod matched
      exact ⟨madeOther, .proceed (target ▸ targeted) viaOther, reached⟩
  | proceedWith via =>
      rw [factory] at via
      obtain ⟨madeOther, viaOther, reached⟩ :=
        exists_makesEntry via related known knownOther sameMethod matched
      exact ⟨madeOther, .proceedWith viaOther, reached⟩

end Makes

/-- Two contexts in the middle of intercepted calls that started in related worlds. -/
def Hooked (simulation : Simulation u) (start startOther : World)
    (one two : Interception × World) : Prop :=
  simulation.Contexts one.2 two.2 one.1 two.1 ∧ simulation.carried start startOther one.2 two.2

/-- An interceptor that is consulted in one of two related worlds is consulted in the other. -/
theorem exists_consult {on : ObjectRef} {carried : Slot} {dispatch : Dispatch}
    {factory : FactoryId} {frame : Frame} {w other start : World} {interceptor : Interceptor}
    {context : Interception}
    (consulted :
      u.consult on carried dispatch factory frame w = (.ok (interceptor, context), start))
    (related : simulation.related w other)
    (same : dispatch.Alike (w.factory factory) (other.factory factory)) :
    ∃ contextOther startOther,
      u.consult on carried dispatch factory frame other =
        (.ok (interceptor, contextOther), startOther) ∧
      simulation.Hooked w other (context, start) (contextOther, startOther) := by
  have both := simulation.rel_consult on carried frame related same
  simp only [consulted] at both
  generalize u.consult on carried dispatch factory frame other = outcome at both
  obtain ⟨result, startOther⟩ := outcome
  obtain ⟨further, failed | ⟨_, _, contextOther, one, two, contexts⟩⟩ := both
  · obtain ⟨fault, impossible, _⟩ := failed
    cases impossible
  · cases one
    obtain rfl : result = .ok (interceptor, contextOther) := two
    exact ⟨contextOther, startOther, rfl, contexts, further⟩

variable {call : VirtualCall} (respects : simulation.Respects call)

include respects

/-- What one of two native bodies side by side asks for, the other asks for. -/
private theorem exists_asks {on : ObjectRef} {run : MethodRun} {start startFrame : Frame}
    {request : BodyRequest} {w other visited : World}
    (asks : (run on).Asks (u.serveBody call) (startFrame, w) request (start, visited))
    (related : simulation.related w other) :
    ∃ visitedOther,
      (run on).Asks (u.serveBody call) (startFrame, other) request (start, visitedOther) ∧
      simulation.carried w other visited visitedOther := by
  have initially : startFrame = (startFrame, other).1 ∧
      simulation.carried w other w (startFrame, other).2 := ⟨rfl, simulation.refl related⟩
  obtain ⟨⟨frameOther, visitedOther⟩, asksOther, rfl, carried⟩ :=
    Program.related_asks (rel_serveBody respects) asks initially
  exact ⟨visitedOther, asksOther, carried⟩

/-- Whatever one of two bodies side by side leads to, the other does. -/
theorem exists_leads {a b child : Activation} {body : MethodBody}
    (leads : body.Leads u call a child) (calls : simulation.Calls a b)
    (same : body.Alike a.world b.world) :
    ∃ childOther, body.Leads u call b childOther ∧
      simulation.Reached a.world b.world child childOther := by
  obtain ⟨on, method, frame, w⟩ := a
  obtain ⟨onOther, methodOther, frameOther, other⟩ := b
  obtain ⟨rfl, rfl, rfl, related⟩ := calls
  cases leads with
  | makes makes =>
      cases makes with
      -- A body of its own is the same program in both worlds, so it asks for the same things on the
      -- way.
      | native asks makes =>
          obtain ⟨visitedOther, asksOther, carried⟩ := exists_asks respects asks related
          obtain ⟨madeOther, makesOther, reached⟩ :=
            exists_worldMakes makes (simulation.after carried)
          exact ⟨madeOther, .makes (.native asksOther makesOther), .trans carried reached⟩
      -- An interceptor is the same program as well, run in contexts that are alike.
      | intercepted consulted asks makes =>
          rename_i state
          obtain ⟨left, visited⟩ := state
          obtain ⟨contextOther, startOther, consultedOther, hooked⟩ :=
            exists_consult consulted related same
          obtain ⟨⟨leftOther, visitedOther⟩, asksOther, contexts, carried⟩ :=
            Program.related_asks (rel_serveHook respects) asks hooked
          obtain ⟨madeOther, makesOther, reached⟩ :=
            exists_hookMakes makes (simulation.after carried) contexts
          exact ⟨madeOther, .makes (.intercepted consultedOther asksOther makesOther),
            .trans carried reached⟩
      | passThrough found targeted =>
          have counted := simulation.passedThrough related ‹FactoryId›
          have foundOther := found
          rw [World.proxy?_eq (simulation.alike related).objects] at foundOther
          exact ⟨_, .makes (.passThrough foundOther targeted),
            ⟨rfl, rfl, rfl, simulation.after counted⟩, counted⟩
  | asks asks =>
      obtain ⟨visitedOther, asksOther, carried⟩ := exists_asks respects asks related
      exact ⟨_, .asks asksOther, ⟨rfl, rfl, rfl, simulation.after carried⟩, carried⟩
  | hookAsks consulted asks =>
      obtain ⟨contextOther, startOther, consultedOther, hooked⟩ :=
        exists_consult consulted related same
      obtain ⟨⟨leftOther, visitedOther⟩, asksOther, _, carried⟩ :=
        Program.related_asks (rel_serveHook respects) asks hooked
      exact ⟨_, .hookAsks consultedOther asksOther,
        ⟨rfl, rfl, rfl, simulation.after carried⟩, carried⟩

omit respects

variable (simulation)

/-- Calls side by side have calls below them side by side, however deep. -/
theorem exists_below {depth rest : Nat} {a nested : Activation}
    (below : u.Below depth a rest nested) :
    ∀ {b : Activation}, simulation.Calls a b →
      ∃ nestedOther, u.Below depth b rest nestedOther ∧
        simulation.Reached a.world b.world nested nestedOther := by
  induction below with
  | self depth a =>
      intro b calls
      exact ⟨b, .self depth b, calls, simulation.refl calls.related⟩
  | @within depth rest a child nested body found leads below inductionHypothesis =>
      intro b calls
      obtain ⟨type, member⟩ := u.mem_bodies_of_resolve (u.resolve_of_require found)
      have same := (simulation.alike calls.related).bodies type body member
      obtain ⟨childOther, leadsOther, childCalls, carried⟩ :=
        exists_leads (simulation.respects_callVirtual depth) leads calls same
      obtain ⟨nestedOther, belowOther, reached⟩ := inductionHypothesis childCalls
      rw [calls.on, calls.method] at found
      exact ⟨nestedOther, .within found leadsOther belowOther, .trans carried reached⟩

end World.Simulation

/-- What a session begins, another one with the same types and the same entries begins too,
if the worlds are related. -/
theorem Session.exists_begins {s other : Session} (simulation : World.Simulation s.types)
    {depth : Nat} {root : Activation} (begins : s.Begins depth root)
    (types : other.types = s.types) (related : simulation.related s.world other.world)
    (entries : ∀ id entry, entry < (s.world.factory id).entries.size →
      entry < (other.world.factory id).entries.size ∧
        ((s.world.factory id).entry entry).method =
          ((other.world.factory id).entry entry).method) :
    ∃ rootOther, other.Begins depth rootOther ∧
      simulation.Reached s.world other.world root rootOther := by
  obtain ⟨_, w, filters⟩ := other
  obtain rfl : _ = s.types := types
  cases begins with
  | invoke via =>
      obtain ⟨rootOther, viaOther, reached⟩ :=
        World.Simulation.exists_makesThrough via related
      exact ⟨rootOther, .invoke viaOther, reached⟩
  | @invokeEntry factory entry _ _ _ known via =>
      obtain ⟨knownOther, sameMethod⟩ := entries factory entry known
      obtain ⟨rootOther, viaOther, reached⟩ := World.Simulation.exists_makesEntry via related
        known knownOther sameMethod (simulation.same entry)
      exact ⟨rootOther, .invokeEntry knownOther viaOther, reached⟩
  | @invokeThunk method thunk on arguments _ compiled makes =>
      have same := s.types.eq_assemble_of_compile compiled
      rw [same] at makes
      obtain ⟨values, admitted, rfl⟩ := Thunk.makes_assemble.mp makes
      have makesOther : thunk.Makes s.types (s.types.callVirtual depth) on arguments w
          ⟨on, method, s.types.entry method values, w⟩ := by
        rw [same]
        exact Thunk.makes_assemble.mpr ⟨values, admitted, rfl⟩
      exact ⟨_, .invokeThunk compiled makesOther, ⟨rfl, rfl, rfl, related⟩,
        simulation.refl related⟩
  | callVirtual on method frame =>
      exact ⟨_, .callVirtual on method frame, ⟨rfl, rfl, rfl, related⟩, simulation.refl related⟩

namespace Session

/-- Up to the middle of a call there is progress. -/
theorem Sound.progresses_of_enters {s after : Session} (sound : s.Sound)
    (entered : s.Enters after) :
    after.types = s.types ∧ s.world.Progresses s.types after.world := by
  cases entered with
  | within begins below =>
      have related : (World.progress s.types).related s.world s.world := ⟨rfl, sound.alike⟩
      obtain ⟨rootOther, _, calls, _, _, first⟩ :=
        s.exists_begins (World.progress s.types) begins rfl related fun _ _ known => ⟨known, rfl⟩
      obtain ⟨_, _, _, _, _, second⟩ := (World.progress s.types).exists_below below calls
      exact ⟨rfl, first.trans second⟩

/-- In the middle of a call a session is sound, too. -/
theorem Sound.enters {s after : Session} (sound : s.Sound) (entered : s.Enters after) :
    after.Sound := by
  obtain ⟨_, progresses⟩ := sound.progresses_of_enters entered
  cases entered with
  | within => exact sound.of_grows progresses.grows progresses.alike.coherent

theorem Sound.advances {s after : Session} (sound : s.Sound) (advances : s.Advances after) :
    after.Sound := by
  cases advances with
  | step taken => exact sound.step taken
  | enters entered => exact sound.enters entered

theorem Sound.leads {s later : Session} (sound : s.Sound) (leads : s.Leads later) :
    later.Sound := by
  induction leads with
  | refl => exact sound
  | tail _ advances inductionHypothesis => exact inductionHypothesis.advances advances

/-- Every session that can come about, also in the middle of a call, is sound. -/
theorem sound_of_occurs {s : Session} (occurs : s.Occurs) : s.Sound :=
  sound_initial.leads occurs

end Session

end Interpose
