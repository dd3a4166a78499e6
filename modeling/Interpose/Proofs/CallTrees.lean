/-
Module: Interpose.Proofs.CallTrees
Purpose: Trees of nested calls, and that no body in them is entered on arguments of wrong types.
Main exports: Activation, Thunk.Makes, MethodBody.Makes, Universe.Enters, Activation.WellTyped,
  Session.entered_well_typed
-/
import Interpose.Proofs.DirectCalls
import Interpose.Proofs.InterceptedCalls
import Interpose.Proofs.ValueSets

namespace Interpose

/-! ### The calls that a call makes

A virtual call that a program asks for directly brings a frame of its own making and is
no call of these. -/

/-- A virtual call as it is made: receiver, method, frame, and the world at that moment. -/
structure Activation where
  on : ObjectRef
  method : Method
  frame : Frame
  world : World

/-- What comes of a call. -/
def Activation.outcome (made : Activation) (call : VirtualCall) :
    Option (Except Fault Value × Frame × World) :=
  call made.on made.method made.frame made.world

/-- The steps of a thunk, run from here on, make a call. -/
def Thunk.Performs (u : Universe) (call : VirtualCall) (on : ObjectRef) (method : Method)
    (made : Activation) : List ThunkOp → List Value → Frame → World → Prop
  | [], _, _, _ => False
  | .cast type :: rest, arguments, frame, w =>
      u.isAssignable on.type type = true ∧ Performs u call on method made rest arguments frame w
  | .load index type :: rest, arguments, frame, w =>
      ∃ v, u.narrow (arguments.getD index .void) type = .ok v ∧
        Performs u call on method made rest arguments (frame.push v) w
  | .loadAddress index type _ direction :: rest, arguments, frame, w =>
      ∃ v, u.seed (arguments.getD index .void) type direction = .ok v ∧
        Performs u call on method made rest arguments
          ((frame.declare v).pushAddress frame.cells.length) w
  | .callVirtual :: rest, arguments, frame, w =>
      made = ⟨on, method, frame, w⟩ ∨
        ∃ v left after, call on method frame w = some (.ok v, left, after) ∧
          Performs u call on method made rest arguments left after
  | .storeBack index cell :: rest, arguments, frame, w =>
      ∃ v, frame.cell cell = .ok v ∧
        Performs u call on method made rest (arguments.set index v) frame w
  | .returnValue _ :: _, _, _, _ => False
  | .returnVoid :: _, _, _, _ => False

/-- A thunk makes a call when it is invoked. -/
def Thunk.Makes (u : Universe) (call : VirtualCall) (thunk : Thunk) (on : ObjectRef)
    (arguments : List Value) (w : World) (made : Activation) : Prop :=
  arguments.length = thunk.parameterCount ∧
    Performs u call on thunk.method made thunk.ops arguments (.empty thunk.method.generics) w

/-- The thunk that a factory operation looks up makes a call. -/
def Universe.MakesVia (u : Universe) (call : VirtualCall) (factory : FactoryId)
    (lookup : Factory → Except Fault SharedThunk × Factory) (on : ObjectRef)
    (arguments : List Value) (w : World) (made : Activation) : Prop :=
  ∃ shared after, w.onFactory factory lookup = (.ok shared, after) ∧
    shared.thunk.Makes u call on arguments after made

/-- A request about the world makes a call. -/
inductive WorldRequest.Makes (u : Universe) (call : VirtualCall) :
    WorldRequest → World → Activation → Prop where
  | invoke {factory : FactoryId} {method : Method} {on : ObjectRef} {arguments : List Value}
      {w : World} {made : Activation}
      (via : u.MakesVia call factory (·.getOrCompile u method) on arguments w made) :
      Makes u call (.invoke factory method on arguments) w made

/-- A request of an interceptor makes a call. -/
inductive HookRequest.Makes (u : Universe) (call : VirtualCall) :
    HookRequest → Interception × World → Activation → Prop where
  | world {request : WorldRequest} {context : Interception} {w : World} {made : Activation}
      (makes : request.Makes u call w made) : Makes u call (.world request) (context, w) made
  | proceed {context : Interception} {target : ObjectRef} {w : World} {made : Activation}
      (targeted : context.target = some target)
      (via : u.MakesVia call context.factory (·.entryThunk u context.entry) target context.slots
        w made) : Makes u call .proceed (context, w) made
  | proceedWith {context : Interception} {on : ObjectRef} {arguments : List Value} {w : World}
      {made : Activation}
      (via : u.MakesVia call context.factory (·.entryThunk u context.entry) on arguments w made) :
      Makes u call (.proceedWith on arguments) (context, w) made

/-- A body makes a call while it runs for another. -/
inductive MethodBody.Makes (u : Universe) (call : VirtualCall) (a : Activation) :
    MethodBody → Activation → Prop where
  | native {run : MethodRun} {request : WorldRequest} {frame : Frame} {w : World}
      {made : Activation}
      (asks : (run a.on).Asks (u.serveBody call) (a.frame, a.world) (.world request) (frame, w))
      (makes : request.Makes u call w made) : Makes u call a (.native run) made
  | intercepted {carried : Slot} {dispatch : Dispatch} {factory : FactoryId}
      {interceptor : Interceptor} {context : Interception} {w : World} {request : HookRequest}
      {state : Interception × World} {made : Activation}
      (consulted : u.consult a.on carried dispatch factory a.frame a.world =
        (.ok (interceptor, context), w))
      (asks : interceptor.Asks (u.serveHook call) (context, w) request state)
      (makes : request.Makes u call state made) :
      Makes u call a (.intercepted carried dispatch factory) made
  | passThrough {carried : Slot} {factory : FactoryId} {proxy : ProxyState} {target : ObjectRef}
      (found : a.world.proxy? a.on = some proxy) (targeted : proxy.target = some target) :
      Makes u call a (.passThrough carried factory)
        ⟨target, carried.toMethod, a.frame,
          (a.world.onFactory factory fun f => ((), f.countPassThrough)).2⟩

/-- While it runs for a call, a body asks for a virtual call on a frame of its own making. -/
inductive MethodBody.AsksDirectly (u : Universe) (call : VirtualCall)
    (a : Activation) : MethodBody → Prop where
  | native {run : MethodRun} {method : Method} {on : ObjectRef} {arguments : List Value}
      {state : Frame × World}
      (asks : (run a.on).Asks (u.serveBody call) (a.frame, a.world)
        (.world (.callVirtual method on arguments)) state) : AsksDirectly u call a (.native run)
  | intercepted {carried : Slot} {dispatch : Dispatch} {factory : FactoryId}
      {interceptor : Interceptor} {context : Interception} {w : World} {method : Method}
      {on : ObjectRef} {arguments : List Value} {state : Interception × World}
      (consulted : u.consult a.on carried dispatch factory a.frame a.world =
        (.ok (interceptor, context), w))
      (asks : interceptor.Asks (u.serveHook call) (context, w)
        (.world (.callVirtual method on arguments)) state) :
      AsksDirectly u call a (.intercepted carried dispatch factory)

/-- Within a call that nests less than `depth` deep a body is entered, be it the body of
the call itself or that of a call somewhere below it. -/
inductive Universe.Enters (u : Universe) : (depth : Nat) → Activation → Activation → Prop where
  | here {depth : Nat} {a : Activation} {body : MethodBody}
      (found : u.require a.on.type a.method = .ok body) : Enters u (depth + 1) a a
  | within {depth : Nat} {a child entered : Activation} {body : MethodBody}
      (found : u.require a.on.type a.method = .ok body)
      (makes : body.Makes u (u.callVirtual depth) a child)
      (enters : Enters u depth child entered) : Enters u (depth + 1) a entered

/-- A session makes a call from outside: through the thunk cache of a factory, through
an entry, or through a thunk that was compiled. -/
inductive Session.Starts (s : Session) (depth : Nat) : Activation → Prop where
  | invoke {factory : FactoryId} {method : Method} {on : ObjectRef} {arguments : List Value}
      {made : Activation}
      (via : s.types.MakesVia (s.types.callVirtual depth) factory (·.getOrCompile s.types method)
        on arguments s.world made) : Starts s depth made
  | invokeEntry {factory : FactoryId} {entry : EntryId} {on : ObjectRef} {arguments : List Value}
      {made : Activation}
      (via : s.types.MakesVia (s.types.callVirtual depth) factory (·.entryThunk s.types entry)
        on arguments s.world made) : Starts s depth made
  | invokeThunk {method : Method} {thunk : Thunk} {on : ObjectRef} {arguments : List Value}
      {made : Activation} (compiled : s.types.compile method = .ok thunk)
      (makes : thunk.Makes s.types (s.types.callVirtual depth) on arguments s.world made) :
      Starts s depth made

/-- All types but proxy types hold bodies of their own only. -/
def Universe.NativeOnly (u : Universe) : Prop :=
  ∀ type, u.kind type ≠ .proxyType → ∀ body ∈ (u.declaration type).bodies,
    ∃ run, body = .native run

/-- The arguments of a call have the types that its method wants.  Types are resolved by
the type arguments that the frame carries.  These are the type arguments of the method
wherever it needs any; only a generic definition has none of its own. -/
structure Activation.WellTyped (u : Universe) (a : Activation) : Prop where
  count : a.frame.argumentCount = (u.parameters a.method).length
  byRef : ∀ index parameter, (u.parameters a.method)[index]? = some parameter →
    a.frame.isByRef index = parameter.direction.isByRef
  fits : ∀ index parameter, (u.parameters a.method)[index]? = some parameter →
    ∃ v, a.frame.argument index = .ok v ∧
      u.fits v (parameter.type.concrete a.frame.generics) = true
  resolved : u.isGenericDefinition a.method = false → ∀ parameter ∈ u.parameters a.method,
    parameter.type.concrete a.frame.generics = Universe.parameterType a.method parameter

/-! ### No call is missed -/

namespace Thunk

variable {u : Universe} {call other : VirtualCall} {on : ObjectRef} {method : Method}

/-- The steps of a thunk depend on calls by the outcomes of those that they make. -/
theorem execute_congr {ops : List ThunkOp} :
    ∀ {arguments : List Value} {frame : Frame} {result : Value} {w : World},
      (∀ made, Performs u call on method made ops arguments frame w →
        made.outcome call = made.outcome other) →
      execute u call on method ops arguments frame result w =
        execute u other on method ops arguments frame result w := by
  induction ops with
  | nil => exact fun _ => rfl
  | cons op rest inductionHypothesis =>
      intro arguments frame result w same
      cases op with
      | cast type =>
          simp only [execute]
          split
          · rename_i assignable
            exact inductionHypothesis fun made later => same made ⟨assignable, later⟩
          · rfl
      | load index type =>
          simp only [execute]
          split
          · rfl
          · rename_i v narrowed
            exact inductionHypothesis fun made later => same made ⟨v, narrowed, later⟩
      | loadAddress index type cell direction =>
          simp only [execute]
          split
          · rfl
          · rename_i v seeded
            exact inductionHypothesis fun made later => same made ⟨v, seeded, later⟩
      | callVirtual =>
          have here : call on method frame w = other on method frame w := same _ (.inl rfl)
          simp only [execute, ← here]
          split
          · rfl
          · rfl
          · rename_i v left after called
            exact inductionHypothesis fun made later =>
              same made (.inr ⟨v, left, after, called, later⟩)
      | storeBack index cell =>
          simp only [execute]
          split
          · rfl
          · rename_i v stored
            exact inductionHypothesis fun made later => same made ⟨v, stored, later⟩
      | returnValue type => rfl
      | returnVoid => rfl

end Thunk

namespace Universe

variable {u : Universe} {call other : VirtualCall}

/-- A call through a factory depends on calls by the outcomes of those that its thunk makes. -/
private theorem invokeVia_congr {factory : FactoryId}
    {lookup : Factory → Except Fault SharedThunk × Factory} {on : ObjectRef}
    {arguments : List Value} {w : World}
    (same : ∀ made, u.MakesVia call factory lookup on arguments w made →
      made.outcome call = made.outcome other) :
    u.invokeVia call factory lookup on arguments w =
      u.invokeVia other factory lookup on arguments w := by
  unfold invokeVia
  split
  · rfl
  · rename_i shared after found
    unfold Thunk.invoke
    split
    · rename_i sameLength
      exact Thunk.execute_congr fun made performs =>
        same made ⟨shared, after, found, sameLength, performs⟩
    · rfl

/-- A request about the world that is no virtual call depends on calls by the outcomes of those that
it makes. -/
private theorem serveWorld_congr {request : WorldRequest} {w : World}
    (direct : ∀ method on arguments, request ≠ .callVirtual method on arguments)
    (same : ∀ made, request.Makes u call w made → made.outcome call = made.outcome other) :
    u.serveWorld call request w = u.serveWorld other request w := by
  cases request with
  | invoke factory method on arguments =>
      apply invokeVia_congr
      exact fun made via => same made (.invoke via)
  | callVirtual method on arguments => exact absurd rfl (direct method on arguments)
  | _ => rfl

/-- No call of a body is missed.  Unless it asks for a virtual call directly, a body
depends on the outcomes of the calls that it makes and of no others. -/
theorem runBody_congr {a : Activation} {body : MethodBody}
    (indirect : ¬ body.AsksDirectly u call a)
    (same : ∀ made, body.Makes u call a made → made.outcome call = made.outcome other) :
    u.runBody call a.on body a.frame a.world = u.runBody other a.on body a.frame a.world := by
  cases body with
  | native run =>
      apply Program.run_congr
      rintro request ⟨frame, w⟩ asks
      cases request with
      | world request =>
          have served : u.serveWorld call request w = u.serveWorld other request w := by
            apply serveWorld_congr
            · rintro method on arguments rfl
              exact indirect (.native asks)
            · exact fun made makes => same made (.native asks makes)
          simp only [serveBody, served]
      | _ => rfl
  | intercepted carried dispatch factory =>
      simp only [runBody, runIntercepted]
      split
      · rfl
      · rename_i interceptor context between consulted
        have ran : interceptor.run (u.serveHook call) (context, between) =
            interceptor.run (u.serveHook other) (context, between) := by
          apply Program.run_congr
          rintro request ⟨current, w⟩ asks
          have makes : ∀ made, request.Makes u call (current, w) made →
              made.outcome call = made.outcome other :=
            fun made makes => same made (.intercepted consulted asks makes)
          cases request with
          | world request =>
              have served : u.serveWorld call request w = u.serveWorld other request w := by
                apply serveWorld_congr
                · rintro method on arguments rfl
                  exact indirect (.intercepted consulted asks)
                · exact fun made asked => makes made (.world asked)
              simp only [serveHook, served]
          | proceed =>
              simp only [serveHook]
              split
              · rfl
              · rename_i target targeted
                have invoked := invokeVia_congr fun made via => makes made (.proceed targeted via)
                simp only [invokeEntry, invoked]
          | proceedWith on arguments =>
              have invoked := invokeVia_congr fun made via => makes made (.proceedWith via)
              simp only [serveHook, invokeEntry, invoked]
          | _ => rfl
        -- The same interceptor ran in the same context, so what is written back is the same.
        rw [ran]
  | passThrough carried factory =>
      simp only [runBody, forward]
      split
      · rfl
      · rename_i proxy found
        split
        · rfl
        · rename_i target targeted
          exact same _ (.passThrough found targeted)
  | accessor which => rfl

end Universe

/-! ### What a thunk passes -/

namespace Universe

variable {u : Universe} {method : Method}

/-- A value that enters a frame fits its parameter: it was narrowed, or is a default. -/
private theorem fits_receive {parameter : Parameter} {argument v : Value}
    (closed : (parameterType method parameter).isOpen = false)
    (received : u.receive method parameter argument = .ok v) :
    u.fits v (parameterType method parameter) = true := by
  rw [← accept_eq_receive] at received
  unfold accept at received
  split at received
  · rename_i narrowed
    obtain rfl := Except.ok.inj received
    obtain ⟨fits, rfl⟩ := (u.narrow_eq_ok_iff _ _ _).mp narrowed
    exact fits
  · split at received
    · obtain rfl := Except.ok.inj received
      exact u.fits_defaultValue closed
    · cases received

/-- Values that enter a frame fit their parameters. -/
private theorem fits_receiveAll {parameters : List Parameter}
    (closed : ∀ parameter ∈ parameters, (parameterType method parameter).isOpen = false) :
    ∀ {arguments values : List Value} {index : Nat} {parameter : Parameter} {v : Value},
      u.receiveAll method parameters arguments = .ok values →
      parameters[index]? = some parameter → values[index]? = some v →
      u.fits v (parameterType method parameter) = true := by
  induction parameters with
  | nil => simp
  | cons head parameters inductionHypothesis =>
      intro arguments values index parameter v received found held
      cases arguments with
      | nil =>
          obtain rfl := Except.ok.inj received
          simp at held
      | cons argument arguments =>
          obtain ⟨first, rest, accepted, others, rfl⟩ := u.receiveAll_cons_ok received
          cases index with
          | zero =>
              obtain rfl : head = parameter := by simpa using found
              obtain rfl : first = v := by simpa using held
              exact fits_receive (closed head List.mem_cons_self) accepted
          | succ index =>
              have laterClosed : ∀ later ∈ parameters,
                  (parameterType method later).isOpen = false :=
                fun later member => closed later (List.mem_cons_of_mem head member)
              exact inductionHypothesis laterClosed others (by simpa using found)
                (by simpa using held)

/-- The types of a method that compiles mention no type argument. -/
private theorem closed_of_compile {thunk : Thunk} (compiled : u.compile method = .ok thunk) :
    ∀ parameter ∈ u.parameters method, (parameterType method parameter).isOpen = false := by
  obtain ⟨_, _, definition | ⟨closed, _⟩⟩ :=
    (u.checkSignature_eq_ok_iff method).mp (u.checkSignature_of_compile compiled)
  · simp [compile, definition, u.checkSignature_of_compile compiled] at compiled
  · intro parameter member
    simpa using List.find?_eq_none.mp closed parameter member

/-- A call that is admitted is well-typed. -/
private theorem wellTyped_entry {on : ObjectRef} {arguments values : List Value} {w : World}
    (closed : ∀ parameter ∈ u.parameters method, (parameterType method parameter).isOpen = false)
    (admitted : u.admission method on arguments = .ok values) :
    (⟨on, method, u.entry method values, w⟩ : Activation).WellTyped u := by
  have sameLength := length_of_admission admitted
  have holds := holds_entry sameLength
  have received := (admission_eq_ok_iff.mp admitted).2.2
  have valued : ∀ {index : Nat} {parameter : Parameter},
      (u.parameters method)[index]? = some parameter → ∃ v, values[index]? = some v := by
    intro index parameter found
    have bound := (List.getElem?_eq_some_iff.mp found).1
    exact ⟨_, List.getElem?_eq_getElem (sameLength ▸ bound)⟩
  constructor
  case count => exact holds.count
  case byRef =>
    intro index parameter found
    obtain ⟨v, value⟩ := valued found
    cases address : parameter.direction.isByRef with
    | true =>
        obtain ⟨cell, passed, _⟩ := holds.address index parameter v found value address
        simp [Frame.isByRef, passed]
    | false =>
        have passed := holds.value index parameter v found value address
        simp [Frame.isByRef, passed]
  case fits =>
    intro index parameter found
    obtain ⟨v, value⟩ := valued found
    have fits := fits_receiveAll closed received found value
    refine ⟨v, ?_, ?_⟩
    · cases address : parameter.direction.isByRef with
      | true =>
          obtain ⟨cell, passed, stored⟩ := holds.address index parameter v found value address
          simp [Frame.argument, Frame.cell, passed, stored]
      | false =>
          have passed := holds.value index parameter v found value address
          simp [Frame.argument, passed]
    · rw [holds.generics]
      exact fits
  case resolved =>
    intro _ parameter _
    rw [holds.generics]
    rfl

end Universe

namespace Thunk

variable {u : Universe} {call : VirtualCall} {on : ObjectRef} {method : Method} {made : Activation}

/-- The steps after the loads of a thunk have the values that were received. -/
private theorem performs_loads {rest : List ThunkOp} {w : World} {parameters : List Parameter} :
    ∀ (current before : List Value) (frame : Frame) (cells : Nat),
      current.length = parameters.length →
      (Performs u call on method made
          (loads method.generics parameters before.length cells ++ rest) (before ++ current)
          frame w ↔
        ∃ values, u.receiveAll method parameters current = .ok values ∧
          Performs u call on method made rest (before ++ current)
            ((parameters.zip values).foldl Frame.enter frame) w) := by
  induction parameters with
  | nil =>
      intro current before frame cells sameLength
      obtain rfl := List.eq_nil_of_length_eq_zero sameLength
      simp [loads, Universe.receiveAll]
  | cons parameter parameters inductionHypothesis =>
      intro current before frame cells sameLength
      cases current with
      | nil => cases sameLength
      | cons argument arguments =>
          have here : (before ++ argument :: arguments).getD before.length .void = argument := by
            simp
          -- The first load enters one parameter, the others go on from there.
          have first : ∃ further,
              (Performs u call on method made
                  (loads method.generics (parameter :: parameters) before.length cells ++ rest)
                  (before ++ argument :: arguments) frame w ↔
                ∃ v, u.receive method parameter argument = .ok v ∧
                  Performs u call on method made
                    (loads method.generics parameters (before.length + 1) further ++ rest)
                    (before ++ argument :: arguments) (frame.enter (parameter, v)) w) := by
            by_cases address : parameter.direction.isByRef = true
            · refine ⟨cells + 1, ?_⟩
              simp only [loads, address, if_true, List.cons_append, Performs, here,
                Universe.receive, Frame.enter]
              rfl
            · refine ⟨cells, ?_⟩
              simp only [loads, address, Bool.false_eq_true, if_false, List.cons_append,
                Performs, here, Universe.receive, Frame.enter]
              rfl
          -- What the loads go on from has one argument more, read from the same arguments.
          obtain ⟨further, first⟩ := first
          have others : ∀ v, _ := fun v =>
            inductionHypothesis arguments (before ++ [argument]) (frame.enter (parameter, v))
              further (Nat.succ.inj sameLength)
          simp only [List.length_append, List.length_singleton, List.append_assoc,
            List.singleton_append] at others
          simp only [first, others]
          constructor
          · rintro ⟨v, received, values, rest, reached⟩
            refine ⟨v :: values, ?_, reached⟩
            simp only [Universe.receiveAll, received, rest]
          · rintro ⟨values, received, reached⟩
            obtain ⟨v, values, accepted, rest, rfl⟩ := u.receiveAll_cons_ok received
            exact ⟨v, accepted, values, rest, reached⟩

/-- Once a method has returned, its thunk makes no further call. -/
private theorem not_performs_stores {type : RuntimeType} {parameters : List Parameter} :
    ∀ {index cells : Nat} {arguments : List Value} {frame : Frame} {w : World},
      ¬ Performs u call on method made (stores parameters index cells ++ [returnOp type])
        arguments frame w := by
  induction parameters with
  | nil =>
      intro index cells arguments frame w performs
      simp only [stores, List.nil_append, returnOp] at performs
      split at performs <;> exact performs
  | cons parameter parameters inductionHypothesis =>
      intro index cells arguments frame w performs
      simp only [stores] at performs
      split at performs
      · obtain ⟨v, _, later⟩ := performs
        exact inductionHypothesis later
      · exact inductionHypothesis performs

/-- The one call of a compiled thunk is that of its method on the values admitted. -/
theorem makes_assemble {arguments : List Value} {w : World} :
    (assemble u method).Makes u call on arguments w made ↔
      ∃ values, u.admission method on arguments = .ok values ∧
        made = ⟨on, method, u.entry method values, w⟩ := by
  constructor
  · rintro ⟨sameLength, assignable, performs⟩
    obtain ⟨values, received, reached⟩ :=
      (performs_loads arguments [] (.empty method.generics) 0 sameLength).mp performs
    refine ⟨values, Universe.admission_eq_ok_iff.mpr ⟨sameLength, assignable, received⟩, ?_⟩
    rcases reached with same | ⟨v, left, after, _, later⟩
    · exact same
    · exact absurd later not_performs_stores
  · rintro ⟨values, admitted, rfl⟩
    obtain ⟨sameLength, assignable, received⟩ := Universe.admission_eq_ok_iff.mp admitted
    refine ⟨sameLength, assignable, ?_⟩
    apply (performs_loads arguments [] (.empty method.generics) 0 sameLength).mpr
    exact ⟨values, received, .inl rfl⟩

/-- A compiled thunk makes well-typed calls only, in the world that it is invoked in. -/
theorem Makes.wellTyped {thunk : Thunk} {arguments : List Value} {w : World}
    (makes : thunk.Makes u call on arguments w made) (compiled : u.compile method = .ok thunk) :
    made.WellTyped u ∧ made.world = w := by
  obtain rfl := u.eq_assemble_of_compile compiled
  obtain ⟨values, admitted, rfl⟩ := makes_assemble.mp makes
  exact ⟨Universe.wellTyped_entry (Universe.closed_of_compile compiled) admitted, rfl⟩

end Thunk

/-! ### Worlds in which calls are made -/

namespace Universe

variable {u : Universe} {call : VirtualCall}

/-- Through a thunk that is right for some method well-typed calls are made only, in
worlds that are still coherent. -/
theorem MakesVia.wellTyped {factory : FactoryId}
    {lookup : Factory → Except Fault SharedThunk × Factory} {on : ObjectRef}
    {arguments : List Value} {w : World} {made : Activation} {method : Method}
    (via : u.MakesVia call factory lookup on arguments w made) (alike : w.Alike u w)
    (right : (lookup (w.factory factory)).1.map (·.thunk) = u.compile method)
    (evolved : (w.factory factory).Evolves u (lookup (w.factory factory)).2) :
    made.WellTyped u ∧ made.world.Alike u made.world := by
  obtain ⟨shared, after, found, makes⟩ := via
  have first : (w.onFactory factory lookup).1 = (lookup (w.factory factory)).1 := rfl
  have parallel := World.parallel_onFactory alike factory evolved evolved
  rw [found] at first parallel
  rw [← first] at right
  obtain ⟨wellTyped, same⟩ := makes.wellTyped right.symm
  refine ⟨wellTyped, ?_⟩
  rw [same]
  exact parallel.alike

end Universe

/-- A request about the world makes calls through thunks only, so what it passes is of the right
types. -/
theorem WorldRequest.Makes.wellTyped {u : Universe} {call : VirtualCall} {request : WorldRequest}
    {w : World} {made : Activation} (makes : request.Makes u call w made) (alike : w.Alike u w) :
    made.WellTyped u ∧ made.world.Alike u made.world := by
  cases makes with
  | @invoke factory method _ _ _ _ via =>
      obtain ⟨right, evolved⟩ := Factory.evolves_getOrCompile (alike.coherent factory) method
      exact via.wellTyped alike right evolved

/-- The same is so of a request of an interceptor, whether it proceeds or asks about the world. -/
theorem HookRequest.Makes.wellTyped {u : Universe} {call : VirtualCall} {request : HookRequest}
    {state : Interception × World} {made : Activation} (makes : request.Makes u call state made)
    (alike : state.2.Alike u state.2) : made.WellTyped u ∧ made.world.Alike u made.world := by
  cases makes with
  | world makes => exact makes.wellTyped alike
  | @proceed context _ _ _ _ via | @proceedWith context _ _ _ _ via =>
      obtain ⟨right, evolved⟩ :=
        Factory.evolves_entryThunk (alike.coherent context.factory) context.entry
      exact via.wellTyped alike right evolved

namespace Universe

/-- A method body asks in worlds that are as coherent as the one that it started in. -/
private theorem alike_of_asks (u : Universe) {depth : Nat} {α : Type} {program : BodyProgram α}
    {request : BodyRequest} {state visited : Frame × World}
    (asks : program.Asks (u.serveBody (u.callVirtual depth)) state request visited)
    (alike : state.2.Alike u state.2) : visited.2.Alike u visited.2 := by
  have kept : ∀ request (state : Frame × World) reply after, state.2.Alike u state.2 →
      u.serveBody (u.callVirtual depth) request state = some (reply, after) →
      after.2.Alike u after.2 := by
    intro request state reply after alike served
    have parallel := parallel_serveBody (u.faithful_callVirtual depth) request state state
      ⟨rfl, .refl alike⟩
    rw [served] at parallel
    exact (Option.rel_some_some.mp parallel).2.2.alike
  exact Program.kept_of_asks kept asks alike

/-- So does an interceptor, as long as its call proceeds to an entry that is there. -/
private theorem alike_of_asks_hook (u : Universe) {depth : Nat} {α : Type} {program : HookProgram α}
    {request : HookRequest} {state visited : Interception × World}
    (asks : program.Asks (u.serveHook (u.callVirtual depth)) state request visited)
    (alike : state.2.Alike u state.2)
    (context : Interception.Alike state.2 state.2 state.1 state.1) :
    visited.2.Alike u visited.2 := by
  have kept : ∀ request (state : Interception × World) reply after,
      (state.2.Alike u state.2 ∧ Interception.Alike state.2 state.2 state.1 state.1) →
      u.serveHook (u.callVirtual depth) request state = some (reply, after) →
      after.2.Alike u after.2 ∧ Interception.Alike after.2 after.2 after.1 after.1 := by
    rintro request state reply after ⟨alike, context⟩ served
    have parallel := parallel_serveHook (u.faithful_callVirtual depth) request state state
      ⟨context, .refl alike⟩
    rw [served] at parallel
    obtain ⟨_, still, further⟩ := Option.rel_some_some.mp parallel
    exact ⟨further.alike, still⟩
  exact (Program.kept_of_asks kept asks ⟨alike, context⟩).1

end Universe

/-! ### Calls that are forwarded -/

/-- A frame may be forwarded as it is to a method with the same parameters. -/
theorem Activation.WellTyped.forward {u : Universe} {a : Activation} (wellTyped : a.WellTyped u)
    {carried : Slot} (supported : u.checkSignature carried.toMethod = .ok ())
    (parameters : (u.signature a.method.slot).parameters = (u.signature carried).parameters)
    (target : ObjectRef) (w : World) :
    (⟨target, carried.toMethod, a.frame, w⟩ : Activation).WellTyped u := by
  have same : u.parameters carried.toMethod = u.parameters a.method := parameters.symm
  constructor
  case count => exact wellTyped.count.trans (congrArg List.length same).symm
  case byRef =>
    intro index parameter found
    exact wellTyped.byRef index parameter (same ▸ found)
  case fits =>
    intro index parameter found
    exact wellTyped.fits index parameter (same ▸ found)
  case resolved =>
    -- A generic definition is left to the frame; the types of any other method are closed.
    intro closed parameter member
    have plain : u.isGeneric carried = false := by
      simpa [Universe.isGenericDefinition, Method.isOpen] using closed
    have mentionsNone := (u.closed_of_checkSignature supported plain).1 parameter member
    rw [RuntimeType.concrete_of_closed mentionsNone, Universe.parameterType,
      RuntimeType.concrete_of_closed mentionsNone]

namespace Session

variable {s : Session} (reachable : Reachable s) (nativeOnly : s.types.NativeOnly)

include reachable nativeOnly

/-- Only a proxy type that was built forwards calls: to a method with a supported
signature, which has the parameters of the method called. -/
private theorem forwards_alike {type : TypeId} {method : Method} {carried : Slot}
    {factory : FactoryId}
    (found : s.types.require type method = .ok (.passThrough carried factory)) :
    s.types.checkSignature carried.toMethod = .ok () ∧
      (s.types.signature method.slot).parameters = (s.types.signature carried).parameters := by
  obtain ⟨holder, _, held⟩ := s.types.exists_of_resolve (s.types.resolve_of_require found)
  have inside := s.types.mem_bodies_of_find? held
  have isProxy : s.types.kind holder = .proxyType := by
    by_contra different
    obtain ⟨run, impossible⟩ := nativeOnly holder different _ inside
    cases impossible
  obtain ⟨proxyType, built, rfl⟩ :=
    built_of_kind reachable holder (s.types.lt_size_of_mem_bodies inside) isProxy
  obtain ⟨supported, parameters, _⟩ := built.carrier held rfl
  exact ⟨supported, parameters⟩

/-- A body that is entered on a well-typed call makes well-typed calls only. -/
theorem wellTyped_of_makes {depth : Nat} {a child : Activation} {body : MethodBody}
    (found : s.types.require a.on.type a.method = .ok body)
    (makes : body.Makes s.types (s.types.callVirtual depth) a child)
    (wellTyped : a.WellTyped s.types) (alike : a.world.Alike s.types a.world) :
    child.WellTyped s.types ∧ child.world.Alike s.types child.world := by
  cases makes with
  | native asks makes => exact makes.wellTyped (s.types.alike_of_asks asks alike)
  | @intercepted carried dispatch factory _ _ _ _ _ _ consulted asks makes =>
      obtain ⟨type, member⟩ := s.types.mem_bodies_of_resolve (s.types.resolve_of_require found)
      have present := alike.bodies type _ member
      obtain ⟨parallel, failed | ⟨_, _, _, one, two, context⟩⟩ :=
        Universe.parallel_consult a.on carried a.frame alike present
      · obtain ⟨fault, failed, _⟩ := failed
        rw [consulted] at failed
        cases failed
      · rw [consulted] at parallel one two context
        cases one
        cases two
        exact makes.wellTyped (s.types.alike_of_asks_hook asks parallel.alike context)
  | passThrough _ _ =>
      obtain ⟨supported, parameters⟩ := forwards_alike reachable nativeOnly found
      refine ⟨wellTyped.forward supported parameters _ _, ?_⟩
      exact (World.parallel_count alike _ fun _ => Factory.evolves_countPassThrough).alike

/-- What holds of a call holds of every call below it whose body is entered. -/
theorem wellTyped_of_enters {depth : Nat} {root entered : Activation}
    (enters : s.types.Enters depth root entered) (wellTyped : root.WellTyped s.types)
    (alike : root.world.Alike s.types root.world) : entered.WellTyped s.types := by
  induction enters with
  | here _ => exact wellTyped
  | within found makes _ inductionHypothesis =>
      obtain ⟨childWellTyped, childAlike⟩ :=
        wellTyped_of_makes reachable nativeOnly found makes wellTyped alike
      exact inductionHypothesis childWellTyped childAlike

/-- No body runs on arguments of wrong types.  In every session that can come about, if
all types but proxy types hold bodies of their own only: whatever interceptors and bodies
do, when a body is entered in the tree of calls below one that the session starts, the
frame has one argument for each parameter, an address exactly for by-reference
parameters, and every argument reads as a value of the type of its parameter. -/
theorem entered_well_typed {depth : Nat} {root entered : Activation}
    (starts : s.Starts depth root) (enters : s.types.Enters depth root entered) :
    entered.WellTyped s.types := by
  have alike := (sound_of_reachable reachable).alike
  have rooted : root.WellTyped s.types ∧ root.world.Alike s.types root.world := by
    cases starts with
    | @invoke factory method _ _ _ via =>
        obtain ⟨right, evolved⟩ := Factory.evolves_getOrCompile (alike.coherent factory) method
        exact via.wellTyped alike right evolved
    | @invokeEntry factory entry _ _ _ via =>
        obtain ⟨right, evolved⟩ := Factory.evolves_entryThunk (alike.coherent factory) entry
        exact via.wellTyped alike right evolved
    | invokeThunk compiled makes =>
        obtain ⟨wellTyped, same⟩ := makes.wellTyped compiled
        refine ⟨wellTyped, ?_⟩
        rw [same]
        exact alike
  exact wellTyped_of_enters reachable nativeOnly enters rooted.1 rooted.2

omit reachable nativeOnly

/-- Leaves something of a type in a place. -/
def fill : Signature :=
  { name := "Fill", parameters := [⟨"place", .methodParameter 0, .out⟩],
    genericParameters := ["T"] }

/-- A class with one method, which leaves the place as it is. -/
def box : TypeDeclaration :=
  (TypeDeclaration.ofClass "Box").addMethod fill (some (.native fun _ => .done (.ok .void)))

/-- A filter that intercepts no method. -/
def nothing : MethodFilter := ⟨2, fun _ _ => false⟩

/-- One object of the class, and a proxy that forwards all calls to it. -/
def forwarding : Session :=
  let (target, created) := (initial.define box).2.create 2 "box"
  (created.createProxy 0 ⟨2, [], nothing⟩ (some target) transparent).2

theorem reachable_forwarding : Reachable forwarding := by
  have defined : Reachable (initial.define box).2 :=
    .step .initial (.define box (by decide) fun _ held => MethodBody.alike_of_mem_native held)
  have created := defined.step (.create 2 "box")
  exact created.step (.createProxy 0 _ _ transparent (by decide))

/-- The class has a body of its own, and so do the predefined types. -/
theorem nativeOnly_forwarding : forwarding.types.NativeOnly := by
  intro type kind body held
  match type with
  | 0 =>
      have same : forwarding.types.declaration 0 = Universe.initial.declaration 0 := by
        with_unfolding_all rfl
      exact native_of_mem_bodies_initial (same ▸ held)
  | 1 =>
      have same : forwarding.types.declaration 1 = Universe.initial.declaration 1 := by
        with_unfolding_all rfl
      exact native_of_mem_bodies_initial (same ▸ held)
  | 2 =>
      have same : forwarding.types.declaration 2 = box := by with_unfolding_all rfl
      rw [same] at held
      exact ⟨_, List.mem_singleton.mp held⟩
  | 3 =>
      have isProxy : forwarding.types.kind 3 = .proxyType := by with_unfolding_all rfl
      exact absurd isProxy kind
  | further + 4 =>
      have size : forwarding.types.size = 4 := by with_unfolding_all rfl
      have known := forwarding.types.lt_size_of_mem_bodies held
      rw [size] at known
      exact absurd known (Nat.not_lt.mpr (Nat.le_add_left 4 further))

/-- A text is passed for a place that is to take a number.  The proxy forwards the
frame, and the object gets the default of the number. -/
theorem entered_well_typed_fill :
    ∃ root entered, forwarding.Starts 2 root ∧ forwarding.types.Enters 2 root entered ∧
      entered.on = ⟨0, 2⟩ ∧ entered.method = ⟨⟨2, 0⟩, []⟩ ∧
      entered.frame = ⟨[.address 0], [.int32 0], [.int32]⟩ ∧
      entered.WellTyped forwarding.types := by
  have compiled : forwarding.types.compile ⟨⟨2, 0⟩, [.int32]⟩ =
      .ok (.assemble forwarding.types ⟨⟨2, 0⟩, [.int32]⟩) := by with_unfolding_all rfl
  have admitted : forwarding.types.admission ⟨⟨2, 0⟩, [.int32]⟩ ⟨1, 3⟩ [.string "lid"] =
      .ok [.int32 0] := by with_unfolding_all rfl
  have forwards : forwarding.types.require 3 ⟨⟨2, 0⟩, [.int32]⟩ =
      .ok (.passThrough ⟨2, 0⟩ 0) := by with_unfolding_all rfl
  have found : forwarding.world.proxy? ⟨1, 3⟩ =
      some ⟨⟨3, 2, [], nothing⟩, some ⟨0, 2⟩, some transparent⟩ := by with_unfolding_all rfl
  have native : forwarding.types.require 2 ⟨⟨2, 0⟩, []⟩ =
      .ok (.native fun _ => .done (.ok .void)) := by with_unfolding_all rfl
  have starts : forwarding.Starts 2 ⟨⟨1, 3⟩, ⟨⟨2, 0⟩, [.int32]⟩, _, _⟩ :=
    .invokeThunk compiled (Thunk.makes_assemble.mpr ⟨_, admitted, rfl⟩)
  have enters : forwarding.types.Enters 2
      ⟨⟨1, 3⟩, ⟨⟨2, 0⟩, [.int32]⟩, forwarding.types.entry ⟨⟨2, 0⟩, [.int32]⟩ [.int32 0], _⟩
      ⟨⟨0, 2⟩, ⟨⟨2, 0⟩, []⟩, _, _⟩ :=
    .within forwards (.passThrough found rfl) (.here native)
  refine ⟨_, _, starts, enters, rfl, rfl, ?_,
    entered_well_typed reachable_forwarding nativeOnly_forwarding starts enters⟩
  with_unfolding_all rfl

end Session

end Interpose
