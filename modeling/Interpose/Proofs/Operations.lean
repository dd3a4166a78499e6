/-
Module: Interpose.Proofs.Operations
Purpose: What can be done to a session as data, with the reply that comes of it.
Main exports: Factory.Request, Factory.answer, Operation, Operation.Reply, Session.perform,
  Session.Permits, Session.step_of_perform, Session.Runs
-/
import Interpose.Proofs.NestedCalls

namespace Interpose

/-- What can be asked of a factory, beside proxy types and calls. -/
inductive Factory.Request where
  /-- A delegate, which is compiled past the cache. -/
  | compile (method : Method)
  | thunkEntry (method : Method)
  | entryThunk (entry : EntryId)
  | getOrCompile (method : Method)
  | addSpecializationCache (slot : Slot)
  | specialize (cache : CacheId) (arguments : List RuntimeType)

/-- Replies to `Factory.Request`.  A thunk comes without the number of its compilation. -/
def Factory.Request.Reply : Factory.Request → Type
  | compile _ | entryThunk _ | getOrCompile _ => Except Fault Thunk
  | thunkEntry _ => EntryId
  | addSpecializationCache _ => CacheId
  | specialize _ _ => Except Fault Specialization

namespace Factory

/-- Answer a request. -/
def answer (u : Universe) : (request : Request) → Factory → request.Reply × Factory
  | .compile method, f => ((f.compile u method).1.map (·.thunk), (f.compile u method).2)
  | .thunkEntry method, f => f.thunkEntry method
  | .entryThunk entry, f => ((f.entryThunk u entry).1.map (·.thunk), (f.entryThunk u entry).2)
  | .getOrCompile method, f =>
      ((f.getOrCompile u method).1.map (·.thunk), (f.getOrCompile u method).2)
  | .addSpecializationCache slot, f => f.addSpecializationCache slot
  | .specialize cache arguments, f => f.specialize u cache arguments

/-- Entries and caches that a request names are there. -/
def Permits (f : Factory) : Request → Prop
  | .entryThunk entry => entry < f.entries.size
  | .specialize cache _ => cache < f.specializationCaches.size
  | _ => True

private theorem serves_answer (u : Universe) (f : Factory) (request : Request) :
    f.Serves u (f.answer u request).2 := by
  cases request with
  | compile method => exact .compile method
  | thunkEntry method => exact .thunkEntry method
  | entryThunk entry => exact .entryThunk entry
  | getOrCompile method => exact .getOrCompile method
  | addSpecializationCache slot => exact .addSpecializationCache slot
  | specialize cache arguments => exact .specialize cache arguments

end Factory

/-- What can be done to a session. -/
inductive Operation where
  | define (declaration : TypeDeclaration)
  | create (type : TypeId) (tag : String)
  | addFactory (config : Config)
  | addFilter (rule : FilterRule)
  | rename (change : Scope → Scope)
  | serve (factory : FactoryId) (request : Factory.Request)
  | request (factory : FactoryId) (request : TypeRequest) (descriptor : Descriptor)
  | instantiate (proxyType : ProxyType)
  | createProxy (factory : FactoryId) (descriptor : Descriptor) (target : Option ObjectRef)
      (interceptor : Interceptor)
  | setTarget (o : ObjectRef) (target : Option ObjectRef)
  | setInterceptor (o : ObjectRef) (interceptor : Option Interceptor)
  /-- Call through the thunk cache; calls nest less than `depth` deep, here and below. -/
  | invoke (depth : Nat) (factory : FactoryId) (method : Method) (on : ObjectRef)
      (arguments : List Value)
  | invokeEntry (depth : Nat) (factory : FactoryId) (entry : EntryId) (on : ObjectRef)
      (arguments : List Value)
  | invokeThunk (depth : Nat) (thunk : Thunk) (on : ObjectRef) (arguments : List Value)
  | callVirtual (depth : Nat) (on : ObjectRef) (method : Method) (frame : Frame)
  | takeJournal

/-- Replies to `Operation`. -/
def Operation.Reply : Operation → Type
  | define _ => TypeId
  | create _ _ => ObjectRef
  | addFactory _ => FactoryId
  | addFilter _ => MethodFilter
  | rename _ => Unit
  | serve _ asked => asked.Reply
  | request _ _ _ => Except Fault ProxyType
  | instantiate _ => ObjectRef
  | createProxy _ _ _ _ => Except Fault ObjectRef
  | setTarget _ _ => Except Fault Unit
  | setInterceptor _ _ => Except Fault Unit
  | invoke _ _ _ _ _ | invokeEntry _ _ _ _ _ | invokeThunk _ _ _ _ => CallResult
  | callVirtual _ _ _ _ => Except Fault Value × Frame
  | takeJournal => Array JournalEntry

namespace Session

/-- Do something to a session.  Only calls can fail to come to an end. -/
def perform (s : Session) : (operation : Operation) → Option (operation.Reply × Session)
  | .define declaration => some (s.define declaration)
  | .create type tag => some (s.create type tag)
  | .addFactory config => some (s.addFactory config)
  | .addFilter rule => some (s.addFilter rule)
  | .rename change => some (s.withScope fun scope => ((), change scope))
  | .serve factory request => some (s.onFactory factory (·.answer s.types request))
  | .request factory request descriptor => some (s.requestProxyType factory request descriptor)
  | .instantiate proxyType => some (s.instantiate proxyType)
  | .createProxy factory descriptor target interceptor =>
      some (s.createProxy factory descriptor target interceptor)
  | .setTarget o target => some (s.setTarget o target)
  | .setInterceptor o interceptor => some (s.setInterceptor o interceptor)
  | .invoke depth factory method on arguments => s.invoke depth factory method on arguments
  | .invokeEntry depth factory entry on arguments =>
      s.invokeEntry depth factory entry on arguments
  | .invokeThunk depth thunk on arguments => s.invokeThunk depth thunk on arguments
  | .callVirtual depth on method frame => s.callVirtual depth on method frame
  | .takeJournal => some s.takeJournal

/-- What an operation names was made before.  Proxy types are defined by factories only, and
intercepted bodies of other types proceed to something that is there. -/
def Permits (s : Session) : Operation → Prop
  | .define declaration => declaration.kind ≠ .proxyType ∧
      ∀ body ∈ declaration.bodies, body.Alike s.world s.world
  | .serve factory request =>
      factory < s.world.factories.size ∧ (s.world.factory factory).Permits request
  | .request factory _ _ => factory < s.world.factories.size
  | .instantiate proxyType => s.types.Built proxyType
  | .createProxy factory _ _ _ => factory < s.world.factories.size
  | .invokeEntry _ factory entry _ _ => entry < (s.world.factory factory).entries.size
  | _ => True

/-- What is done to a session is a step of it. -/
theorem step_of_perform {s after : Session} {operation : Operation} {reply : operation.Reply}
    (permits : s.Permits operation) (performed : s.perform operation = some (reply, after)) :
    Step s after := by
  cases operation with
  | invoke => exact .invoke performed
  | invokeEntry => exact .invokeEntry performed
  | invokeThunk => exact .invokeThunk performed
  | callVirtual => exact .callVirtual performed
  | define declaration =>
      obtain ⟨_, rfl⟩ := Prod.mk.inj (Option.some.inj performed)
      exact .define declaration permits.1 permits.2
  | create type tag =>
      obtain ⟨_, rfl⟩ := Prod.mk.inj (Option.some.inj performed)
      exact .create type tag
  | addFactory config =>
      obtain ⟨_, rfl⟩ := Prod.mk.inj (Option.some.inj performed)
      exact .addFactory config
  | addFilter rule =>
      obtain ⟨_, rfl⟩ := Prod.mk.inj (Option.some.inj performed)
      exact .addFilter rule
  | rename change =>
      obtain ⟨_, rfl⟩ := Prod.mk.inj (Option.some.inj performed)
      exact .rename fun scope => ((), change scope)
  | serve factory request =>
      obtain ⟨_, rfl⟩ := Prod.mk.inj (Option.some.inj performed)
      exact .serve factory ((s.world.factory factory).serves_answer s.types request)
  | request factory request descriptor =>
      have ran : s.requestProxyType factory request descriptor = (reply, after) :=
        Option.some.inj performed
      have taken := Step.request factory request descriptor permits
      rw [ran] at taken
      exact taken
  | instantiate proxyType =>
      obtain ⟨_, rfl⟩ := Prod.mk.inj (Option.some.inj performed)
      exact .instantiate proxyType permits
  | createProxy factory descriptor target interceptor =>
      have ran : s.createProxy factory descriptor target interceptor = (reply, after) :=
        Option.some.inj performed
      have taken := Step.createProxy factory descriptor target interceptor permits
      rw [ran] at taken
      exact taken
  | setTarget o target =>
      obtain ⟨_, rfl⟩ := Prod.mk.inj (Option.some.inj performed)
      exact .setTarget o target
  | setInterceptor o interceptor =>
      obtain ⟨_, rfl⟩ := Prod.mk.inj (Option.some.inj performed)
      exact .setInterceptor o interceptor
  | takeJournal =>
      obtain ⟨_, rfl⟩ := Prod.mk.inj (Option.some.inj performed)
      exact .takeJournal

/-- Whatever can be done to a session is an operation on it. -/
theorem exists_perform_of_step {s after : Session} (taken : Step s after) :
    ∃ (operation : Operation) (reply : operation.Reply),
      s.perform operation = some (reply, after) := by
  cases taken with
  | define declaration => exact ⟨.define declaration, _, rfl⟩
  | create type tag => exact ⟨.create type tag, _, rfl⟩
  | addFactory config => exact ⟨.addFactory config, _, rfl⟩
  | addFilter rule => exact ⟨.addFilter rule, _, rfl⟩
  | rename change => exact ⟨.rename fun scope => (change scope).2, (), rfl⟩
  | serve id serves =>
      cases serves with
      | compile method => exact ⟨.serve id (.compile method), _, rfl⟩
      | thunkEntry method => exact ⟨.serve id (.thunkEntry method), _, rfl⟩
      | entryThunk entry => exact ⟨.serve id (.entryThunk entry), _, rfl⟩
      | getOrCompile method => exact ⟨.serve id (.getOrCompile method), _, rfl⟩
      | addSpecializationCache slot => exact ⟨.serve id (.addSpecializationCache slot), _, rfl⟩
      | specialize cache arguments => exact ⟨.serve id (.specialize cache arguments), _, rfl⟩
  | request id request descriptor => exact ⟨.request id request descriptor, _, rfl⟩
  | instantiate proxyType => exact ⟨.instantiate proxyType, _, rfl⟩
  | createProxy id descriptor target interceptor =>
      exact ⟨.createProxy id descriptor target interceptor, _, rfl⟩
  | setTarget o target => exact ⟨.setTarget o target, _, rfl⟩
  | setInterceptor o interceptor => exact ⟨.setInterceptor o interceptor, _, rfl⟩
  | invoke ran => exact ⟨.invoke _ _ _ _ _, _, ran⟩
  | invokeEntry ran => exact ⟨.invokeEntry _ _ _ _ _, _, ran⟩
  | invokeThunk ran => exact ⟨.invokeThunk _ _ _ _, _, ran⟩
  | callVirtual ran => exact ⟨.callVirtual _ _ _ _, _, ran⟩
  | takeJournal => exact ⟨.takeJournal, _, rfl⟩

/-- Operations are done to a session one after the other, with a reply to each. -/
inductive Runs : Session → List ((operation : Operation) × operation.Reply) → Session → Prop where
  | done (s : Session) : Runs s [] s
  | next {s between after : Session} {operation : Operation} {reply : operation.Reply}
      {rest : List ((operation : Operation) × operation.Reply)} (permits : s.Permits operation)
      (performed : s.perform operation = some (reply, between)) (runs : Runs between rest after) :
      Runs s (⟨operation, reply⟩ :: rest) after

/-- The operations alone determine a run. -/
theorem Runs.unique {s one two : Session}
    {trace traceOther : List ((operation : Operation) × operation.Reply)}
    (runs : s.Runs trace one) :
    s.Runs traceOther two → trace.map (·.1) = traceOther.map (·.1) →
      trace = traceOther ∧ one = two := by
  induction runs generalizing traceOther with
  | done s =>
      intro runsOther same
      cases runsOther with
      | done => exact ⟨rfl, rfl⟩
      | next => cases same
  | next _ performed _ inductionHypothesis =>
      intro runsOther same
      cases runsOther with
      | done => cases same
      | next _ performedOther runsOther =>
          rw [List.map_cons, List.map_cons] at same
          obtain ⟨rfl, sameRest⟩ := List.cons.inj same
          obtain ⟨rfl, rfl⟩ := Prod.mk.inj (Option.some.inj (performed.symm.trans performedOther))
          obtain ⟨rfl, rfl⟩ := inductionHypothesis runsOther sameRest
          exact ⟨rfl, rfl⟩

/-- If every operation on one of two matched sessions can be done to the other, with the same
reply and so that they stay matched, then every run of the one is a run of the other. -/
theorem Runs.simulate (matched : Session → Session → Prop)
    (step : ∀ {s t : Session}, matched s t → ∀ {operation : Operation} {reply : operation.Reply}
      {after : Session}, s.Permits operation → s.perform operation = some (reply, after) →
        ∃ other, t.Permits operation ∧ t.perform operation = some (reply, other) ∧
          matched after other)
    {s after : Session} {trace : List ((operation : Operation) × operation.Reply)}
    (runs : s.Runs trace after) :
    ∀ {t : Session}, matched s t → ∃ other, t.Runs trace other ∧ matched after other := by
  induction runs with
  | done s => exact fun initially => ⟨_, .done _, initially⟩
  | next permits performed _ inductionHypothesis =>
      intro t before
      obtain ⟨between, permitsOther, performedOther, still⟩ := step before permits performed
      obtain ⟨other, runsOther, reached⟩ := inductionHypothesis still
      exact ⟨other, .next permitsOther performedOther runsOther, reached⟩

end Session

end Interpose
