/-
Module: Interpose.Proofs.CallTrails
Purpose: The calls below a call in the order in which they are made.
Main exports: Program.trail, MethodBody.trail, Universe.trail, Session.trail,
  Universe.mem_trail_iff, Session.exists_trail_of_enters, Session.enters_of_mem_trail
-/
import Interpose.Proofs.Operations

namespace Interpose

/-! ### Calls in order

A trail has the calls in the order in which they are made, each before the calls below it,
also those of a run that comes to no end. -/

/-- What the requests that a program makes come with, in order. -/
def Program.trail {Request : Type} {Reply : Request → Type} {α State σ : Type}
    (handle : (r : Request) → State → Option (Reply r × State))
    (calls : Request → State → List σ) : Program Request Reply α → State → List σ
  | done _, _ => []
  | ask request resume, state =>
      calls request state ++
        match handle request state with
        | none => []
        | some (reply, after) => (resume reply).trail handle calls after

/-- The calls below the steps of a thunk, when `below` has those of each call. -/
def Thunk.stepTrail (u : Universe) (call : VirtualCall) (below : Activation → List Activation)
    (on : ObjectRef) (method : Method) :
    List ThunkOp → List Value → Frame → World → List Activation
  | [], _, _, _ => []
  | .cast type :: rest, arguments, frame, w =>
      if u.isAssignable on.type type then stepTrail u call below on method rest arguments frame w
      else []
  | .load index type :: rest, arguments, frame, w =>
      match u.narrow (arguments.getD index .void) type with
      | .error _ => []
      | .ok v => stepTrail u call below on method rest arguments (frame.push v) w
  | .loadAddress index type _ direction :: rest, arguments, frame, w =>
      match u.seed (arguments.getD index .void) type direction with
      | .error _ => []
      | .ok v =>
          stepTrail u call below on method rest arguments
            ((frame.declare v).pushAddress frame.cells.length) w
  | .callVirtual :: rest, arguments, frame, w =>
      below ⟨on, method, frame, w⟩ ++
        match call on method frame w with
        | some (.ok _, left, after) => stepTrail u call below on method rest arguments left after
        | _ => []
  | .storeBack index cell :: rest, arguments, frame, w =>
      match frame.cell cell with
      | .error _ => []
      | .ok v => stepTrail u call below on method rest (arguments.set index v) frame w
  | .returnValue _ :: _, _, _, _ => []
  | .returnVoid :: _, _, _, _ => []

/-- The calls below a call through a thunk. -/
def Thunk.trail (u : Universe) (call : VirtualCall) (below : Activation → List Activation)
    (thunk : Thunk) (on : ObjectRef) (arguments : List Value) (w : World) : List Activation :=
  if arguments.length = thunk.parameterCount then
    stepTrail u call below on thunk.method thunk.ops arguments (.empty thunk.method.generics) w
  else []

/-- The calls below a call through a thunk that a factory operation looks up. -/
def Universe.trailVia (u : Universe) (call : VirtualCall) (below : Activation → List Activation)
    (factory : FactoryId) (lookup : Factory → Except Fault SharedThunk × Factory)
    (on : ObjectRef) (arguments : List Value) (w : World) : List Activation :=
  match w.onFactory factory lookup with
  | (.error _, _) => []
  | (.ok shared, after) => shared.thunk.trail u call below on arguments after

/-- The calls below a request about the world. -/
def WorldRequest.trail (u : Universe) (call : VirtualCall)
    (below : Activation → List Activation) : WorldRequest → World → List Activation
  | .invoke factory method on arguments, w =>
      u.trailVia call below factory (·.getOrCompile u method) on arguments w
  | .callVirtual method on arguments, w => below ⟨on, method, .ofValues arguments, w⟩
  | _, _ => []

/-- The calls below a request of a method body. -/
def BodyRequest.trail (u : Universe) (call : VirtualCall)
    (below : Activation → List Activation) : BodyRequest → Frame × World → List Activation
  | .world request, (_, w) => request.trail u call below w
  | _, _ => []

/-- The calls below a request of an interceptor. -/
def HookRequest.trail (u : Universe) (call : VirtualCall)
    (below : Activation → List Activation) : HookRequest → Interception × World → List Activation
  | .world request, (_, w) => request.trail u call below w
  | .proceed, (context, w) =>
      match context.target with
      | none => []
      | some on =>
          u.trailVia call below context.factory (·.entryThunk u context.entry) on context.slots w
  | .proceedWith on arguments, (context, w) =>
      u.trailVia call below context.factory (·.entryThunk u context.entry) on arguments w
  | _, _ => []

/-- The calls below a body that runs for a call. -/
def MethodBody.trail (u : Universe) (call : VirtualCall) (below : Activation → List Activation)
    (a : Activation) : MethodBody → List Activation
  | .native run =>
      (run a.on).trail (u.serveBody call) (BodyRequest.trail u call below) (a.frame, a.world)
  | .intercepted carried dispatch factory =>
      match u.consult a.on carried dispatch factory a.frame a.world with
      | (.error _, _) => []
      | (.ok (interceptor, context), w) =>
          interceptor.trail (u.serveHook call) (HookRequest.trail u call below) (context, w)
  | .passThrough carried factory =>
      match a.world.proxy? a.on with
      | none => []
      | some proxy =>
          match proxy.target with
          | none => []
          | some target =>
              below ⟨target, carried.toMethod, a.frame,
                (a.world.onFactory factory fun f => ((), f.countPassThrough)).2⟩
  | .accessor _ => []

/-- A call that nests less than `depth` deep, and all calls below it. -/
def Universe.trail (u : Universe) : (depth : Nat) → Activation → List Activation
  | 0, a => [a]
  | depth + 1, a =>
      a :: match u.require a.on.type a.method with
        | .error _ => []
        | .ok body => body.trail u (u.callVirtual depth) (u.trail depth) a

/-- All calls that an operation on a session makes. -/
def Session.trail (s : Session) : Operation → List Activation
  | .invoke depth factory method on arguments =>
      s.types.trailVia (s.types.callVirtual depth) (s.types.trail depth) factory
        (·.getOrCompile s.types method) on arguments s.world
  | .invokeEntry depth factory entry on arguments =>
      s.types.trailVia (s.types.callVirtual depth) (s.types.trail depth) factory
        (·.entryThunk s.types entry) on arguments s.world
  | .invokeThunk depth thunk on arguments =>
      thunk.trail s.types (s.types.callVirtual depth) (s.types.trail depth) on arguments s.world
  | .callVirtual depth on method frame => s.types.trail depth ⟨on, method, frame, s.world⟩
  | _ => []

/-- The operations that call methods. -/
def Operation.IsCall : Operation → Prop
  | .invoke .. | .invokeEntry .. | .invokeThunk .. | .callVirtual .. => True
  | _ => False

/-! ### A trail has the calls below a call and no others -/

/-- What a program comes with is what the requests come with that it asks on its way. -/
theorem Program.mem_trail_iff {Request : Type} {Reply : Request → Type} {α State σ : Type}
    {handle : (r : Request) → State → Option (Reply r × State)}
    {calls : Request → State → List σ} {nested : σ} (program : Program Request Reply α) :
    ∀ state, nested ∈ program.trail handle calls state ↔
      ∃ request visited, Asks handle program state request visited ∧
        nested ∈ calls request visited := by
  induction program with
  | done result =>
      intro state
      constructor
      · exact fun listed => absurd listed List.not_mem_nil
      · rintro ⟨_, _, asks, _⟩
        cases asks
  | ask request resume inductionHypothesis =>
      intro state
      unfold trail
      rw [List.mem_append]
      constructor
      · rintro (first | later)
        · exact ⟨request, state, .here resume state, first⟩
        · cases served : handle request state with
          | none => simp [served] at later
          | some answer =>
              rw [served] at later
              obtain ⟨asked, visited, asks, listed⟩ :=
                (inductionHypothesis answer.1 answer.2).mp later
              exact ⟨asked, visited, .later served asks, listed⟩
      · rintro ⟨asked, visited, asks, listed⟩
        cases asks with
        | here => exact .inl listed
        | later served rest =>
            rw [served]
            exact .inr ((inductionHypothesis _ _).mpr ⟨asked, visited, rest, listed⟩)

section Membership

variable {u : Universe} {call : VirtualCall} {below : Activation → List Activation}
  {nested : Activation}

/-- The calls below the steps of a thunk are those below the calls that they make. -/
private theorem Thunk.mem_stepTrail_iff {on : ObjectRef} {method : Method} {ops : List ThunkOp} :
    ∀ {arguments : List Value} {frame : Frame} {w : World},
      nested ∈ stepTrail u call below on method ops arguments frame w ↔
        ∃ made, Performs u call on method made ops arguments frame w ∧ nested ∈ below made := by
  induction ops with
  | nil => simp [stepTrail, Performs]
  | cons op rest inductionHypothesis =>
      intro arguments frame w
      cases op with
      | cast type =>
          simp only [stepTrail, Performs]
          cases u.isAssignable on.type type <;> simp [inductionHypothesis]
      | load index type =>
          simp only [stepTrail, Performs]
          cases u.narrow (arguments.getD index .void) type <;> simp [inductionHypothesis]
      | loadAddress index type cell direction =>
          simp only [stepTrail, Performs]
          cases u.seed (arguments.getD index .void) type direction <;> simp [inductionHypothesis]
      | callVirtual =>
          simp only [stepTrail, Performs, List.mem_append]
          constructor
          · rintro (first | later)
            · exact ⟨_, .inl rfl, first⟩
            · split at later
              · rename_i v left after called
                obtain ⟨made, performs, listed⟩ := inductionHypothesis.mp later
                exact ⟨made, .inr ⟨v, left, after, called, performs⟩, listed⟩
              · exact absurd later List.not_mem_nil
          · rintro ⟨made, rfl | ⟨v, left, after, called, performs⟩, listed⟩
            · exact .inl listed
            · rw [called]
              exact .inr (inductionHypothesis.mpr ⟨made, performs, listed⟩)
      | storeBack index cell =>
          simp only [stepTrail, Performs]
          cases frame.cell cell <;> simp [inductionHypothesis]
      | returnValue type => simp [stepTrail, Performs]
      | returnVoid => simp [stepTrail, Performs]

/-- The calls below a call through a thunk are those below the calls that the thunk makes. -/
theorem Thunk.mem_trail_iff {thunk : Thunk} {on : ObjectRef} {arguments : List Value} {w : World} :
    nested ∈ thunk.trail u call below on arguments w ↔
      ∃ made, thunk.Makes u call on arguments w made ∧ nested ∈ below made := by
  unfold trail Makes
  split
  · rename_i sameLength
    simp [mem_stepTrail_iff, sameLength]
  · rename_i otherLength
    simp [otherLength]

/-- The same for a thunk that a factory looks up. -/
private theorem Universe.mem_trailVia_iff {factory : FactoryId}
    {lookup : Factory → Except Fault SharedThunk × Factory} {on : ObjectRef}
    {arguments : List Value} {w : World} :
    nested ∈ u.trailVia call below factory lookup on arguments w ↔
      ∃ made, u.MakesVia call factory lookup on arguments w made ∧ nested ∈ below made := by
  unfold trailVia MakesVia
  rcases found : w.onFactory factory lookup with ⟨fault | shared, after⟩
  · simp
  · constructor
    · intro listed
      obtain ⟨made, makes, listed⟩ := Thunk.mem_trail_iff.mp listed
      exact ⟨made, ⟨shared, after, rfl, makes⟩, listed⟩
    · rintro ⟨made, ⟨_, _, same, makes⟩, listed⟩
      obtain ⟨sameShared, rfl⟩ := Prod.mk.inj same
      obtain rfl := Except.ok.inj sameShared
      exact Thunk.mem_trail_iff.mpr ⟨made, makes, listed⟩

/-- A request about the world makes calls through thunks, or asks for a virtual call directly. -/
theorem WorldRequest.mem_trail_iff {request : WorldRequest} {w : World} :
    nested ∈ request.trail u call below w ↔
      ∃ child, (request.Makes u call w child ∨ ∃ method on arguments,
          request = .callVirtual method on arguments ∧
          child = ⟨on, method, .ofValues arguments, w⟩) ∧ nested ∈ below child := by
  constructor
  · intro listed
    cases request with
    | invoke factory method on arguments =>
        obtain ⟨made, via, listed⟩ := Universe.mem_trailVia_iff.mp listed
        exact ⟨made, .inl (.invoke via), listed⟩
    | callVirtual method on arguments =>
        exact ⟨_, .inr ⟨method, on, arguments, rfl, rfl⟩, listed⟩
    | _ => exact absurd listed List.not_mem_nil
  · rintro ⟨child, makes | ⟨method, on, arguments, rfl, rfl⟩, listed⟩
    · cases makes with
      | invoke via => exact Universe.mem_trailVia_iff.mpr ⟨child, via, listed⟩
    · exact listed

/-- So does a request of an interceptor. -/
theorem HookRequest.mem_trail_iff {request : HookRequest} {state : Interception × World} :
    nested ∈ request.trail u call below state ↔
      ∃ child, (request.Makes u call state child ∨ ∃ method on arguments,
          request = .world (.callVirtual method on arguments) ∧
          child = ⟨on, method, .ofValues arguments, state.2⟩) ∧ nested ∈ below child := by
  obtain ⟨context, w⟩ := state
  constructor
  · intro listed
    cases request with
    | world request =>
        obtain ⟨child, makes | ⟨method, on, arguments, rfl, rfl⟩, listed⟩ :=
          WorldRequest.mem_trail_iff.mp listed
        · exact ⟨child, .inl (.world makes), listed⟩
        · exact ⟨_, .inr ⟨method, on, arguments, rfl, rfl⟩, listed⟩
    | proceed =>
        simp only [trail] at listed
        split at listed
        · exact absurd listed List.not_mem_nil
        · rename_i target targeted
          obtain ⟨made, via, listed⟩ := Universe.mem_trailVia_iff.mp listed
          exact ⟨made, .inl (.proceed targeted via), listed⟩
    | proceedWith on arguments =>
        obtain ⟨made, via, listed⟩ := Universe.mem_trailVia_iff.mp listed
        exact ⟨made, .inl (.proceedWith via), listed⟩
    | _ => exact absurd listed List.not_mem_nil
  · rintro ⟨child, makes | ⟨method, on, arguments, rfl, rfl⟩, listed⟩
    · cases makes with
      | world makes => exact WorldRequest.mem_trail_iff.mpr ⟨child, .inl makes, listed⟩
      | proceed targeted via =>
          simp only [trail, targeted]
          exact Universe.mem_trailVia_iff.mpr ⟨child, via, listed⟩
      | proceedWith via => exact Universe.mem_trailVia_iff.mpr ⟨child, via, listed⟩
    · exact listed

/-- The calls below a body are those that it leads to, each with the calls below it. -/
theorem MethodBody.mem_trail_iff {a : Activation} {body : MethodBody} :
    nested ∈ body.trail u call below a ↔
      ∃ child, body.Leads u call a child ∧ nested ∈ below child := by
  constructor
  · intro listed
    cases body with
    | native run =>
        obtain ⟨request, ⟨frame, w⟩, asks, listed⟩ := (Program.mem_trail_iff _ _).mp listed
        cases request with
        | world request =>
            obtain ⟨child, makes | ⟨method, on, arguments, rfl, rfl⟩, listed⟩ :=
              WorldRequest.mem_trail_iff.mp listed
            · exact ⟨child, .makes (.native asks makes), listed⟩
            · exact ⟨_, .asks asks, listed⟩
        | _ => exact absurd listed List.not_mem_nil
    | intercepted carried dispatch factory =>
        simp only [trail] at listed
        split at listed
        · exact absurd listed List.not_mem_nil
        · rename_i interceptor context start consulted
          obtain ⟨request, state, asks, listed⟩ := (Program.mem_trail_iff _ _).mp listed
          obtain ⟨child, makes | ⟨method, on, arguments, rfl, rfl⟩, listed⟩ :=
            HookRequest.mem_trail_iff.mp listed
          · exact ⟨child, .makes (.intercepted consulted asks makes), listed⟩
          · exact ⟨_, .hookAsks consulted asks, listed⟩
    | passThrough carried factory =>
        simp only [trail] at listed
        split at listed
        · exact absurd listed List.not_mem_nil
        · rename_i proxy found
          split at listed
          · exact absurd listed List.not_mem_nil
          · rename_i target targeted
            exact ⟨_, .makes (.passThrough found targeted), listed⟩
    | accessor which => exact absurd listed List.not_mem_nil
  · rintro ⟨child, leads, listed⟩
    cases leads with
    | makes makes =>
        cases makes with
        | native asks makes =>
            exact (Program.mem_trail_iff _ _).mpr ⟨_, _, asks,
              WorldRequest.mem_trail_iff.mpr ⟨child, .inl makes, listed⟩⟩
        | intercepted consulted asks makes =>
            simp only [trail, consulted]
            exact (Program.mem_trail_iff _ _).mpr ⟨_, _, asks,
              HookRequest.mem_trail_iff.mpr ⟨child, .inl makes, listed⟩⟩
        | passThrough found targeted => simpa only [trail, found, targeted] using listed
    | asks asks => exact (Program.mem_trail_iff _ _).mpr ⟨_, _, asks, listed⟩
    | hookAsks consulted asks =>
        simp only [trail, consulted]
        exact (Program.mem_trail_iff _ _).mpr ⟨_, _, asks, listed⟩

/-- The trail of a call has the call and the calls below it, and no others. -/
theorem Universe.mem_trail_iff {depth : Nat} :
    ∀ {a : Activation}, nested ∈ u.trail depth a ↔ ∃ rest, u.Below depth a rest nested := by
  induction depth with
  | zero =>
      intro a
      constructor
      · intro listed
        obtain rfl := List.mem_singleton.mp listed
        exact ⟨0, .self 0 nested⟩
      · rintro ⟨_, ⟨⟩⟩
        exact List.mem_singleton.mpr rfl
  | succ depth inductionHypothesis =>
      intro a
      unfold trail
      rw [List.mem_cons]
      constructor
      · rintro (rfl | listed)
        · exact ⟨depth + 1, .self (depth + 1) nested⟩
        · split at listed
          · exact absurd listed List.not_mem_nil
          · rename_i body found
            obtain ⟨child, leads, listed⟩ := MethodBody.mem_trail_iff.mp listed
            obtain ⟨rest, deeper⟩ := inductionHypothesis.mp listed
            exact ⟨rest, .within found leads deeper⟩
      · rintro ⟨rest, self | ⟨found, leads, deeper⟩⟩
        · exact .inl rfl
        · rw [found]
          exact .inr (MethodBody.mem_trail_iff.mpr
            ⟨_, leads, inductionHypothesis.mpr ⟨rest, deeper⟩⟩)

end Membership

/-- In the middle of a call a session is about to make a call of some trail. -/
theorem Session.exists_trail_of_enters {s after : Session} (entered : s.Enters after) :
    ∃ operation nested, nested ∈ s.trail operation ∧
      after = { s with world := nested.world } := by
  cases entered with
  | @within depth rest root nested begins deeper =>
      have listed : nested ∈ s.types.trail depth root := Universe.mem_trail_iff.mpr ⟨rest, deeper⟩
      cases begins with
      | @invoke factory method on arguments _ via =>
          exact ⟨.invoke depth factory method on arguments, nested,
            Universe.mem_trailVia_iff.mpr ⟨root, via, listed⟩, rfl⟩
      | @invokeEntry factory entry on arguments _ known via =>
          exact ⟨.invokeEntry depth factory entry on arguments, nested,
            Universe.mem_trailVia_iff.mpr ⟨root, via, listed⟩, rfl⟩
      | @invokeThunk method thunk on arguments _ compiled makes =>
          exact ⟨.invokeThunk depth thunk on arguments, nested,
            Thunk.mem_trail_iff.mpr ⟨root, makes, listed⟩, rfl⟩
      | callVirtual on method frame =>
          exact ⟨.callVirtual depth on method frame, nested, listed, rfl⟩

/-- The calls in the trail of an operation are calls that a session comes to make, if what the
operation names was made before and its thunk, if it has one, was compiled. -/
theorem Session.enters_of_mem_trail {s : Session} {operation : Operation} {nested : Activation}
    (permits : s.Permits operation)
    (compiled : ∀ depth thunk on arguments, operation = .invokeThunk depth thunk on arguments →
      ∃ method, s.types.compile method = .ok thunk)
    (listed : nested ∈ s.trail operation) : s.Enters { s with world := nested.world } := by
  have entered : ∀ {depth : Nat} {root : Activation}, s.Begins depth root →
      nested ∈ s.types.trail depth root → s.Enters { s with world := nested.world } := by
    intro depth root begins inside
    obtain ⟨rest, deeper⟩ := Universe.mem_trail_iff.mp inside
    exact .within begins deeper
  cases operation with
  | invoke depth factory method on arguments =>
      obtain ⟨root, via, inside⟩ := Universe.mem_trailVia_iff.mp listed
      exact entered (.invoke via) inside
  | invokeEntry depth factory entry on arguments =>
      obtain ⟨root, via, inside⟩ := Universe.mem_trailVia_iff.mp listed
      exact entered (.invokeEntry permits via) inside
  | invokeThunk depth thunk on arguments =>
      obtain ⟨method, compiles⟩ := compiled depth thunk on arguments rfl
      obtain ⟨root, makes, inside⟩ := Thunk.mem_trail_iff.mp listed
      exact entered (.invokeThunk compiles makes) inside
  | callVirtual depth on method frame => exact entered (.callVirtual on method frame) listed
  | _ => exact absurd listed List.not_mem_nil

end Interpose
