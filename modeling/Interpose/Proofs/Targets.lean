/-
Module: Interpose.Proofs.Targets
Purpose: What proxies hold as their targets over whole runs: objects of the primary type only, and
  what was put in place last.
Main exports: TargetAccess, TargetAccess.Replays, Session.Chronicles, World.Heeds,
  Session.heeds_of_perform, Session.KeepsTargets
-/
import Interpose.Proofs.CallAccounts
import Interpose.Proofs.TargetAccessors

namespace Interpose

/-! ### Accesses in order -/

/-- A read or write of a target that succeeded: the identity of the proxy, and the value that
was returned or put in place. -/
structure TargetAccess where
  proxy : Nat
  which : Accessor
  value : Value
deriving DecidableEq, Repr, Inhabited

namespace TargetAccess

/-- What is held after an access. -/
def leave (access : TargetAccess) (held : Nat → Value) : Nat → Value :=
  match access.which with
  | .get => held
  | .set => Function.update held access.proxy access.value

/-- Accesses are made one after the other, and each read returns what is held at its moment. -/
def Replays : List TargetAccess → (Nat → Value) → (Nat → Value) → Prop
  | [], held, after => after = held
  | access :: rest, held, after =>
      (access.which = .get → access.value = held access.proxy) ∧
        Replays rest (access.leave held) after

/-- No access writes the target of a proxy. -/
def Unwritten (accesses : List TargetAccess) (proxy : Nat) : Prop :=
  ∀ access ∈ accesses, access.proxy = proxy → access.which = .get

/-- Accesses are replayed one part after the other. -/
private theorem replays_append {one two : List TargetAccess} {held after : Nat → Value} :
    Replays (one ++ two) held after ↔
      ∃ between, Replays one held between ∧ Replays two between after := by
  induction one generalizing held with
  | nil =>
      constructor
      · exact fun replays => ⟨held, rfl, replays⟩
      · rintro ⟨_, rfl, replays⟩
        exact replays
  | cons access rest inductionHypothesis =>
      simp only [List.cons_append, Replays, inductionHypothesis]
      constructor
      · rintro ⟨reads, between, first, second⟩
        exact ⟨between, ⟨reads, first⟩, second⟩
      · rintro ⟨between, ⟨reads, first⟩, second⟩
        exact ⟨reads, between, first, second⟩

private theorem replays_write {proxy : Nat} {v : Value} {held after : Nat → Value}
    (placed : after = Function.update held proxy v) :
    Replays [⟨proxy, .set, v⟩] held after :=
  ⟨nofun, placed⟩

/-- As long as nothing is written, what is held stays, and every read returns it. -/
theorem Replays.unwritten {accesses : List TargetAccess} {proxy : Nat} {after : Nat → Value} :
    ∀ {held : Nat → Value}, Replays accesses held after → Unwritten accesses proxy →
      after proxy = held proxy ∧
        ∀ access ∈ accesses, access.proxy = proxy → access.value = held proxy := by
  induction accesses with
  | nil =>
      rintro held rfl _
      exact ⟨rfl, fun _ impossible => absurd impossible List.not_mem_nil⟩
  | cons access rest inductionHypothesis =>
      rintro held ⟨reads, replays⟩ unwritten
      have kept : access.leave held proxy = held proxy := by
        cases accessed : access.which with
        | get => simp only [leave, accessed]
        | set =>
            have other : proxy ≠ access.proxy := by
              intro same
              have isRead := unwritten access List.mem_cons_self same.symm
              cases isRead.symm.trans accessed
            simp only [leave, accessed, Function.update_of_ne other]
      obtain ⟨stays, returned⟩ := inductionHypothesis replays
        fun later member => unwritten later (List.mem_cons_of_mem access member)
      refine ⟨stays.trans kept, ?_⟩
      intro later member same
      rcases List.mem_cons.mp member with rfl | further
      · rw [← same]
        exact reads (unwritten later List.mem_cons_self same)
      · exact (returned later further same).trans kept

/-- What was written last is held, and every read since then returned it. -/
theorem Replays.last_write {earlier between : List TargetAccess} {proxy : Nat} {v : Value}
    {held after : Nat → Value}
    (replays : Replays (earlier ++ ⟨proxy, .set, v⟩ :: between) held after)
    (unwritten : Unwritten between proxy) :
    after proxy = v ∧ ∀ access ∈ between, access.proxy = proxy → access.value = v := by
  obtain ⟨before, _, _, since⟩ := replays_append.mp replays
  have placed : leave ⟨proxy, .set, v⟩ before proxy = v := by
    simp only [leave, Function.update_self]
  have kept := since.unwritten unwritten
  rw [placed] at kept
  exact kept

end TargetAccess

/-- The access that a call makes, if its body is one that reads or writes a target and it
succeeds. -/
def Activation.targetAccess? (u : Universe) (a : Activation) : Option TargetAccess :=
  match u.require a.on.type a.method with
  | .ok (.accessor which) =>
      match which, (u.runAccessor a.on which a.frame a.world).1, a.frame.argument 0 with
      | .get, .ok v, _ => some ⟨a.on.id, .get, v⟩
      | .set, .ok _, .ok v => some ⟨a.on.id, .set, v⟩
      | _, _, _ => none
  | _ => none

namespace Session

/-- The accesses that an operation makes, in order.  A target that a factory puts into a new
proxy counts as written. -/
def targetAccesses (s : Session) : Operation → List TargetAccess
  | .createProxy factory descriptor target interceptor =>
      match (s.createProxy factory descriptor target interceptor).1 with
      | .error _ => []
      | .ok o => [⟨o.id, .set, .ofOption (target.map .object)⟩]
  | .setTarget o target =>
      match (s.setTarget o target).1 with
      | .error _ => []
      | .ok _ => [⟨o.id, .set, .ofOption (target.map .object)⟩]
  | operation => (s.trail operation).filterMap (·.targetAccess? s.types)

/-- What a session came about by, told as the accesses made so far: operations one after the
other, of which the last may be in the middle of its calls, and about to make the next. -/
inductive Chronicles : Session → List TargetAccess → Prop where
  | initial : Chronicles initial []
  | performed {s after : Session} {log : List TargetAccess} {operation : Operation}
      {reply : operation.Reply} (chronicles : Chronicles s log)
      (performed : s.perform operation = some (reply, after)) :
      Chronicles after (log ++ s.targetAccesses operation)
  | within {s : Session} {log : List TargetAccess} {operation : Operation}
      {before rest : List Activation} {next : Activation} (chronicles : Chronicles s log)
      (split : s.trail operation = before ++ next :: rest) :
      Chronicles { s with world := next.world }
        (log ++ before.filterMap (·.targetAccess? s.types))

/-- Every session that can come about, also in the middle of a call, has a chronicle. -/
theorem exists_chronicles {s : Session} (occurs : s.Occurs) : ∃ log, s.Chronicles log := by
  induction occurs with
  | refl => exact ⟨[], .initial⟩
  | tail _ advances inductionHypothesis =>
      obtain ⟨log, chronicles⟩ := inductionHypothesis
      cases advances with
      | step taken =>
          obtain ⟨operation, reply, performed⟩ := exists_perform_of_step taken
          exact ⟨_, .performed chronicles performed⟩
      | enters entered =>
          obtain ⟨operation, next, listed, rfl⟩ := exists_trail_of_enters entered
          obtain ⟨before, rest, split⟩ := List.append_of_mem listed
          exact ⟨_, .within chronicles split⟩

end Session

/-! ### What accesses do to a world -/

/-- Every proxy holds what it takes. -/
def World.TargetsFit (u : Universe) (w : World) : Prop :=
  ∀ o state, w.proxy? o = some state → state.proxyType.Takes u state.held

/-- On the way from a world to a later one only these accesses were made to targets, and none
put a target in place that the proxy does not take. -/
structure World.Heeds (u : Universe) (w : World) (accesses : List TargetAccess) (later : World) :
    Prop where
  fit : w.TargetsFit u → later.TargetsFit u
  replays : TargetAccess.Replays accesses w.held later.held

namespace World.Heeds

variable {u : Universe} {w later further : World} {o : ObjectRef} {state : ProxyState}
  {one two : List TargetAccess}

/-- Where no proxy changed, no access was made. -/
theorem quiet (same : ∀ o, later.proxy? o = w.proxy? o) : w.Heeds u [] later where
  fit := by
    intro fits o state found
    rw [same] at found
    exact fits o state found
  replays := World.held_congr same

theorem trans (first : w.Heeds u one later) (second : later.Heeds u two further) :
    w.Heeds u (one ++ two) further :=
  ⟨second.fit ∘ first.fit,
    TargetAccess.replays_append.mpr ⟨later.held, first.replays, second.replays⟩⟩

theorem read (found : w.proxy? o = some state) : w.Heeds u [⟨o.id, .get, state.held⟩] w where
  fit := id
  replays := ⟨fun _ => (World.held_of_proxy? found).symm, rfl⟩

/-- A proxy with another state of the same type. -/
private theorem fit_putProxy {changed : ProxyState} (found : w.proxy? o = some state)
    (takes : changed.proxyType.Takes u changed.held) (fits : w.TargetsFit u) :
    (w.putProxy o changed).TargetsFit u := by
  intro other after held
  rw [World.proxy?_putProxy_of_found found] at held
  split at held
  · obtain rfl := Option.some.inj held
    exact takes
  · exact fits other after held

/-- Putting a target that the type takes is one write. -/
theorem wrote {v : Value} (found : w.proxy? o = some state)
    (takes : state.proxyType.Takes u v) :
    w.Heeds u [⟨o.id, .set, v⟩] (w.putProxy o { state with target := v.object? }) where
  fit := by
    apply fit_putProxy found
    rw [takes.held_put]
    exact takes
  replays := by
    apply TargetAccess.replays_write
    rw [World.held_putProxy found, takes.held_put]

/-- Another interceptor is no access. -/
theorem intercepted (found : w.proxy? o = some state) (interceptor : Option Interceptor) :
    w.Heeds u [] (w.putProxy o { state with interceptor := interceptor }) where
  fit := fun fits => fit_putProxy found (fits o state found) fits
  replays := by
    apply (World.held_putProxy found _).trans
    apply Function.update_eq_self_iff.mpr
    exact (World.held_of_proxy? found).symm

/-- A proxy that is created with a target that it takes leaves all proxies with what they take. -/
private theorem fit_createProxy (takes : state.proxyType.Takes u state.held)
    (fits : w.TargetsFit u) :
    (w.createProxy state).2.TargetsFit u := by
  intro other after held
  rw [World.proxy?_createProxy_eq] at held
  split at held
  · obtain rfl := Option.some.inj held
    exact takes
  · exact fits other after held

theorem created (takes : state.proxyType.Takes u state.held) :
    w.Heeds u [⟨w.objects.size, .set, state.held⟩] (w.createProxy state).2 where
  fit := fit_createProxy takes
  replays := TargetAccess.replays_write (w.held_createProxy state)

/-- A new proxy without a target is as if it had always been there. -/
theorem createdEmpty (proxyType : ProxyType) :
    w.Heeds u [] (w.createProxy ⟨proxyType, none, none⟩).2 where
  fit := fit_createProxy .null
  replays := by
    apply (w.held_createProxy _).trans
    apply Function.update_eq_self_iff.mpr
    exact w.held_size.symm

/-- A body of an accessor. -/
theorem accessed (a : Activation) {which : Accessor}
    (found : u.require a.on.type a.method = .ok (.accessor which)) :
    a.world.Heeds u (a.targetAccess? u).toList (u.runAccessor a.on which a.frame a.world).2 := by
  have accesses := u.accesses_runAccessor a.world a.on a.frame which
  unfold Activation.targetAccess?
  rw [found]
  simp only
  generalize u.runAccessor a.on which a.frame a.world = outcome at accesses ⊢
  cases accesses with
  | failed which fault => cases which <;> exact quiet fun _ => rfl
  | read held => exact read held
  | wrote held argument takes =>
      simp only [argument]
      exact wrote held takes

end World.Heeds

/-- The account of the accesses that calls make. -/
def World.accounting (u : Universe) : World.Account u where
  holds w trail later := w.Heeds u (trail.filterMap (·.targetAccess? u)) later
  quiet := World.Heeds.quiet
  trans := by
    intro w between later one two first second
    rw [List.filterMap_append]
    exact first.trans second
  entered := by
    intro a other
    have none : a.targetAccess? u = none := by
      unfold Activation.targetAccess?
      split
      · rename_i which found
        exact absurd found (other which)
      · rfl
    simp only [List.filterMap_cons, none, List.filterMap_nil]
    exact World.Heeds.quiet fun _ => rfl
  accessed := by
    intro a which found
    have heeds := World.Heeds.accessed a found
    rw [List.filterMap_cons]
    split
    · rename_i none
      rw [none] at heeds
      exact heeds
    · rename_i access some
      rw [some] at heeds
      exact heeds

namespace Session

/-- What proxies take they go on taking when types are added. -/
private theorem extend_takes {u later : Universe} {proxyType : ProxyType} {v : Value}
    (takes : proxyType.Takes u v) (extended : u.Extends later) : proxyType.Takes later v := by
  cases takes with
  | null => exact .null
  | object assignable => exact .object (extended.isAssignable_of assignable)

private theorem extend_targetsFit {u later : Universe} {w : World} (fits : w.TargetsFit u)
    (extended : u.Extends later) : w.TargetsFit later :=
  fun o state found => extend_takes (fits o state found) extended

/-- Calls define no types. -/
private theorem types_of_isCall {s after : Session} {operation : Operation}
    {reply : operation.Reply} (calls : operation.IsCall)
    (performed : s.perform operation = some (reply, after)) :
    after.types = s.types := by
  cases operation with
  | invoke | invokeEntry | invokeThunk => exact types_of_running performed
  | callVirtual depth on method frame =>
      have ran : s.callVirtual depth on method frame = some (reply, after) := performed
      exact types_of_running ran
  | _ => exact calls.elim

/-- Whatever is done, the types only grow. -/
private theorem extends_of_perform {s after : Session} {operation : Operation}
    {reply : operation.Reply} (performed : s.perform operation = some (reply, after)) :
    s.types.Extends after.types := by
  have called : operation.IsCall → s.types.Extends after.types := by
    intro calls
    rw [types_of_isCall calls performed]
    exact .refl _
  cases operation with
  | define declaration =>
      obtain ⟨_, rfl⟩ := Prod.mk.inj (Option.some.inj performed)
      exact s.types.extends_define declaration
  | request factory request descriptor =>
      have extended := extends_of_becomes (becomes_requestProxyType s factory request descriptor)
      have ran : s.requestProxyType factory request descriptor = (reply, after) :=
        Option.some.inj performed
      rw [ran] at extended
      exact extended
  | createProxy factory descriptor target interceptor =>
      have extended :=
        extends_of_becomes (becomes_createProxy s factory descriptor target interceptor)
      have ran : s.createProxy factory descriptor target interceptor = (reply, after) :=
        Option.some.inj performed
      rw [ran] at extended
      exact extended
  | invoke | invokeEntry | invokeThunk | callVirtual => exact called trivial
  | _ =>
      obtain ⟨_, rfl⟩ := Prod.mk.inj (Option.some.inj performed)
      exact .refl _

private theorem objects_requestProxyType (s : Session) (id : FactoryId) (request : TypeRequest)
    (descriptor : Descriptor) :
    (s.requestProxyType id request descriptor).2.world.objects = s.world.objects := by
  cases request <;> rfl

/-- Creating a proxy makes the access that is told of it: the first target is written, or nothing is
if the proxy is not created. -/
private theorem heeds_createProxy (s : Session) (factory : FactoryId) (descriptor : Descriptor)
    (target : Option ObjectRef) (interceptor : Interceptor) :
    s.world.Heeds (s.createProxy factory descriptor target interceptor).2.types
      (s.targetAccesses (.createProxy factory descriptor target interceptor))
      (s.createProxy factory descriptor target interceptor).2.world := by
  have objects := s.objects_requestProxyType factory .cached descriptor
  simp only [targetAccesses]
  unfold createProxy
  generalize s.requestProxyType factory .cached descriptor = outcome at objects
  obtain ⟨result, asked⟩ := outcome
  have asking : s.world.Heeds asked.types [] asked.world := .quiet (World.proxy?_eq objects)
  cases result with
  | error fault => exact asking
  | ok proxyType =>
      simp only
      cases placed : ProxyState.setTarget asked.types ⟨proxyType, none, none⟩ target with
      | error fault => exact asking
      | ok state =>
          obtain ⟨takes, rfl⟩ := ProxyState.setTarget_eq_ok_iff.mp placed
          have created := @World.Heeds.created asked.types asked.world
            ⟨proxyType, target, some interceptor⟩ takes
          exact asking.trans created

/-- Setting a target writes it, unless it is refused. -/
private theorem heeds_setTarget (s : Session) (o : ObjectRef) (target : Option ObjectRef) :
    s.world.Heeds s.types (s.targetAccesses (.setTarget o target))
      (s.setTarget o target).2.world := by
  simp only [targetAccesses, setTarget]
  rcases s.world.setTarget_cases s.types o target with
    ⟨fault, failed⟩ | ⟨state, found, takes, placed⟩
  · rw [failed]
    exact .quiet fun _ => rfl
  · rw [placed]
    have same : (Value.ofOption (target.map .object)).object? = target := by
      cases target <;> rfl
    have wrote := World.Heeds.wrote found takes
    rw [same] at wrote
    exact wrote

/-- Setting an interceptor touches no target. -/
private theorem heeds_setInterceptor (s : Session) (o : ObjectRef)
    (interceptor : Option Interceptor) :
    s.world.Heeds s.types [] (s.setInterceptor o interceptor).2.world := by
  unfold setInterceptor World.setInterceptor
  cases found : s.world.proxy? o with
  | none => exact .quiet fun _ => rfl
  | some state => exact .intercepted found interceptor

/-- An operation makes its accesses and no others, and puts only what proxies take in place. -/
theorem heeds_of_perform {s after : Session} {operation : Operation} {reply : operation.Reply}
    (performed : s.perform operation = some (reply, after)) :
    s.world.Heeds after.types (s.targetAccesses operation) after.world := by
  -- Calls are the only operations that make accesses of their own; these are told by their trails.
  have called : operation.IsCall →
      s.world.Heeds after.types ((s.trail operation).filterMap (·.targetAccess? s.types))
        after.world := by
    intro calls
    have told := @World.Account.tells_perform s (World.accounting s.types) operation calls
    rw [performed] at told
    rw [types_of_isCall calls performed]
    exact told.ended after.world rfl
  cases operation with
  | invoke | invokeEntry | invokeThunk | callVirtual => exact called trivial
  | createProxy factory descriptor target interceptor =>
      have heeds := s.heeds_createProxy factory descriptor target interceptor
      have ran : s.createProxy factory descriptor target interceptor = (reply, after) :=
        Option.some.inj performed
      rw [ran] at heeds
      exact heeds
  | setTarget o target =>
      obtain ⟨_, rfl⟩ := Prod.mk.inj (Option.some.inj performed)
      exact s.heeds_setTarget o target
  | setInterceptor o interceptor =>
      obtain ⟨_, rfl⟩ := Prod.mk.inj (Option.some.inj performed)
      exact s.heeds_setInterceptor o interceptor
  | instantiate proxyType =>
      obtain ⟨_, rfl⟩ := Prod.mk.inj (Option.some.inj performed)
      exact .createdEmpty proxyType
  | create type tag =>
      obtain ⟨_, rfl⟩ := Prod.mk.inj (Option.some.inj performed)
      exact .quiet (s.world.proxy?_create_eq type tag)
  | request factory request descriptor =>
      have objects := s.objects_requestProxyType factory request descriptor
      have ran : s.requestProxyType factory request descriptor = (reply, after) :=
        Option.some.inj performed
      rw [ran] at objects
      exact .quiet (World.proxy?_eq objects)
  | _ =>
      obtain ⟨_, rfl⟩ := Prod.mk.inj (Option.some.inj performed)
      exact .quiet fun _ => rfl

/-- Nothing is held in the beginning, and from then on what is held is told by the accesses. -/
theorem Chronicles.heeds {s : Session} {log : List TargetAccess} (chronicles : s.Chronicles log) :
    s.world.TargetsFit s.types ∧
      TargetAccess.Replays log (fun _ => .null) s.world.held := by
  induction chronicles with
  | initial =>
      have noProxy : ∀ o, Session.initial.world.proxy? o = none := fun _ => rfl
      refine ⟨fun o state found => ?_, ?_⟩
      · rw [noProxy] at found
        cases found
      · funext id
        rfl
  | performed _ performed inductionHypothesis =>
      obtain ⟨fits, replays⟩ := inductionHypothesis
      have heeds := heeds_of_perform performed
      exact ⟨heeds.fit (extend_targetsFit fits (extends_of_perform performed)),
        TargetAccess.replays_append.mpr ⟨_, replays, heeds.replays⟩⟩
  -- In the middle of an operation only the accesses up to there were made.
  | @within s _ operation before rest next _ split inductionHypothesis =>
      obtain ⟨fits, replays⟩ := inductionHypothesis
      have heeds := World.Account.reached_perform (World.accounting s.types) split
      exact ⟨heeds.fit fits, TargetAccess.replays_append.mpr ⟨_, replays, heeds.replays⟩⟩

/-- What is so of the targets that the proxies of a session hold. -/
structure KeepsTargets (s : Session) : Prop where
  /-- A target is an object of the type that its proxy stands in for. -/
  fits : ∀ o state target, s.world.proxy? o = some state → state.target = some target →
    s.types.isAssignable target.type state.proxyType.primary = true
  /-- However the session came about, what was written last is held, and every read since
  then returned it. -/
  lastWrite : ∀ log, s.Chronicles log → ∀ earlier between proxy v,
    log = earlier ++ ⟨proxy, .set, v⟩ :: between → TargetAccess.Unwritten between proxy →
      s.world.held proxy = v ∧ ∀ access ∈ between, access.proxy = proxy → access.value = v
  /-- What was never written is null, and was null whenever it was read. -/
  neverWritten : ∀ log, s.Chronicles log → ∀ proxy, TargetAccess.Unwritten log proxy →
    s.world.held proxy = .null ∧ ∀ access ∈ log, access.proxy = proxy → access.value = .null
  /-- Whatever an operation fails to write, and whatever interceptors do to their contexts, it
  leaves the targets alone that it does not write. -/
  untouched : ∀ operation reply after, s.perform operation = some (reply, after) →
    ∀ proxy, TargetAccess.Unwritten (s.targetAccesses operation) proxy →
      after.world.held proxy = s.world.held proxy
  /-- To give the context of a call another target does nothing to the world. -/
  retargeted : ∀ call context target,
    s.types.serveHook call (.setTarget target) (context, s.world) =
      some ((), { context with target := target }, s.world)
  /-- A target that is refused leaves everything as it was. -/
  refused : ∀ o target fault, (s.setTarget o target).1 = .error fault →
    (s.setTarget o target).2 = s
  /-- So does a body of an accessor that fails, whichever type it is a body of. -/
  refusedByBody : ∀ o which frame fault,
    (s.types.runAccessor o which frame s.world).1 = .error fault →
      (s.types.runAccessor o which frame s.world).2 = s.world
  /-- The getter of a proxy returns what is held. -/
  read : ∀ o state, s.world.proxy? o = some state → o.type = state.proxyType.type →
    ∀ depth factory, ∃ after,
      s.invoke (depth + 1) factory (Universal.accessorSlot .get).toMethod o [] =
        some (⟨.ok (s.world.held o.id), []⟩, after) ∧
      after.world.held = s.world.held
  /-- The setter of a proxy puts null and objects of the primary type in place, and fails for
  everything else. -/
  write : ∀ o state, s.world.proxy? o = some state → o.type = state.proxyType.type →
    ∀ depth factory v, ∃ outcome after,
      s.invoke (depth + 1) factory (Universal.accessorSlot .set).toMethod o [v] =
        some (outcome, after) ∧
      ((state.proxyType.Takes s.types v ∧ outcome.result = .ok .void ∧
          after.world.held = Function.update s.world.held o.id v) ∨
        (¬ state.proxyType.Takes s.types v ∧ (∃ fault, outcome.result = .error fault) ∧
          after.world.held = s.world.held))

/-- A target that is refused leaves the session as it was. -/
private theorem setTarget_refused {s : Session} {o : ObjectRef} {target : Option ObjectRef}
    {fault : Fault} (failed : (s.setTarget o target).1 = .error fault) :
    (s.setTarget o target).2 = s := by
  unfold setTarget at failed ⊢
  rcases s.world.setTarget_cases s.types o target with ⟨_, refused⟩ | ⟨_, _, _, placed⟩
  · rw [refused]
  · rw [placed] at failed
    cases failed

/-- An accessor that fails leaves the world as it was. -/
private theorem runAccessor_refused {u : Universe} {w : World} {o : ObjectRef} {which : Accessor}
    {frame : Frame} {fault : Fault} (failed : (u.runAccessor o which frame w).1 = .error fault) :
    (u.runAccessor o which frame w).2 = w := by
  have accesses := u.accesses_runAccessor w o frame which
  generalize u.runAccessor o which frame w = outcome at accesses failed ⊢
  cases accesses with
  | failed | read => rfl
  | wrote => cases failed

/-- The proxy was made with the object as its target, and nothing else was done to targets. -/
private theorem chronicles_standIn (interceptor : Interceptor) :
    (standIn interceptor).Chronicles [⟨1, .set, .object ⟨0, 2⟩⟩] := by
  have defined := @Chronicles.performed _ _ _ (.define cursor) _ .initial rfl
  have created := @Chronicles.performed _ _ _ (.create 2 "cursor") _ defined rfl
  have proxied := @Chronicles.performed _ _ _
    (.createProxy 0 ⟨2, [], Universe.everything⟩ (some ⟨0, 2⟩) interceptor) _ created rfl
  with_unfolding_all exact proxied

/-- Clears the target of the proxy in the middle of a call, and goes on with the object that
the proxy stood in for. -/
def clearing : Interceptor :=
  .ask (.world (.callVirtual (Universal.accessorSlot .set).toMethod ⟨1, 3⟩ [.null])) fun _ =>
    .ask (.setTarget (some ⟨0, 2⟩)) fun _ => .ask .proceed fun result => .done result

/-- Targets are always of the primary type, and are what was put in place last.  In every
session that can come about, also in the middle of calls that interceptors and bodies make,
a proxy holds null or an object assignable to its primary type.  Reads return what was written
last, be it by the factory, by the setter of the proxy or by the body of an accessor in any
type, and nothing else changes what is held. -/
theorem targets_kept {s : Session} (occurs : s.Occurs) :
    (∃ log, s.Chronicles log) ∧ s.KeepsTargets := by
  have sound := sound_of_occurs occurs
  obtain ⟨history, chronicles⟩ := exists_chronicles occurs
  refine ⟨⟨history, chronicles⟩, ?_⟩
  constructor
  case fits =>
    intro o state target found
    exact ProxyState.takes_held_iff.mp (chronicles.heeds.1 o state found) target
  case lastWrite =>
    rintro log chronicles earlier between proxy v rfl unwritten
    exact chronicles.heeds.2.last_write unwritten
  case neverWritten =>
    intro log chronicles proxy unwritten
    exact chronicles.heeds.2.unwritten unwritten
  case untouched =>
    intro operation reply after performed proxy unwritten
    exact ((heeds_of_perform performed).replays.unwritten unwritten).1
  case retargeted => exact fun _ _ _ => rfl
  case refused => exact fun _ _ _ => setTarget_refused
  case refusedByBody => exact fun _ _ _ _ => runAccessor_refused
  case read =>
    intro o state found ofType depth factory
    rw [World.held_of_proxy? found]
    exact invoke_getter sound found ofType depth factory
  case write =>
    intro o state found ofType depth factory v
    exact invoke_setter sound found ofType depth factory v

/-- The call is about to reach the object.  The proxy, which was made with the object as its
target, holds null from the moment on that its setter was called, whatever the context of the
call has for a target. -/
theorem targets_kept_clearing :
    ∃ s : Session, s.Occurs ∧
      s.Chronicles [⟨1, .set, .object ⟨0, 2⟩⟩, ⟨1, .set, .null⟩] ∧
      s.world.held 1 = .null ∧
      ∃ after, s.invoke 1 0 (Universal.accessorSlot .get).toMethod ⟨1, 3⟩ [] =
        some (⟨.ok .null, []⟩, after) := by
  have compiled : (standIn clearing).types.compile ⟨⟨2, 0⟩, []⟩ =
      .ok (.assemble (standIn clearing).types ⟨⟨2, 0⟩, []⟩) := by with_unfolding_all rfl
  let advancing : Operation :=
    .invokeThunk 3 (.assemble (standIn clearing).types ⟨⟨2, 0⟩, []⟩) ⟨1, 3⟩ [.int32 7]
  have accesses : ((standIn clearing).trail advancing).map
        (·.targetAccess? (standIn clearing).types) = [none, some ⟨1, .set, .null⟩, none] := by
    decide +kernel
  have proxies : ((standIn clearing).trail advancing).map
        (fun a => (a.world.proxy? ⟨1, 3⟩).map (·.proxyType.type)) = [some 3, some 3, some 3] := by
    decide +kernel
  have length : ((standIn clearing).trail advancing).length = 3 := by
    simpa using congrArg List.length accesses
  obtain ⟨one, two, three, split⟩ := List.length_eq_three.mp length
  rw [split] at accesses proxies
  simp only [List.map_cons, List.map_nil, List.cons.injEq, and_true] at accesses proxies
  have chronicles : Chronicles { standIn clearing with world := three.world }
      [⟨1, .set, .object ⟨0, 2⟩⟩, ⟨1, .set, .null⟩] := by
    have within :=
      @Chronicles.within _ _ _ [one, two] [] three (chronicles_standIn clearing) split
    simpa [accesses.1, accesses.2.1] using within
  have compiles : ∀ depth thunk on arguments, advancing = .invokeThunk depth thunk on arguments →
      ∃ method, (standIn clearing).types.compile method = .ok thunk := by
    intro depth thunk on arguments same
    obtain ⟨_, rfl, _⟩ := Operation.invokeThunk.inj same
    exact ⟨_, compiled⟩
  have occurs : Occurs { standIn clearing with world := three.world } := by
    have listed : three ∈ (standIn clearing).trail advancing := by simp [split]
    have permits : (standIn clearing).Permits advancing := trivial
    have entered := enters_of_mem_trail permits compiles listed
    exact .tail (occurs_of_reachable (reachable_standIn clearing)) (.enters entered)
  obtain ⟨_, kept⟩ := targets_kept occurs
  have held := (kept.lastWrite _ chronicles [⟨1, .set, .object ⟨0, 2⟩⟩] [] 1 _ rfl nofun).1
  obtain ⟨state, found, ofType⟩ := Option.map_eq_some_iff.mp proxies.2.2
  obtain ⟨after, ran, _⟩ := kept.read _ state found ofType.symm 0 0
  rw [held] at ran
  exact ⟨_, occurs, chronicles, held, after, ran⟩

end Session

end Interpose
