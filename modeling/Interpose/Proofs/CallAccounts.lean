/-
Module: Interpose.Proofs.CallAccounts
Purpose: Accounts that tell from the calls below a call, in their order, what it does to the
  proxies of a world.
Main exports: World.Account, World.Account.Tells, World.Account.tells_trail,
  World.Account.tells_perform
-/
import Interpose.Proofs.CallTrails

namespace Interpose

/-! ### Accounts of what calls do to proxies -/

/-- What can be told of the proxies of a world and of a later one from the calls made in
between.  Only bodies that read or write the targets of proxies do anything to them. -/
structure World.Account (u : Universe) where
  holds : World → List Activation → World → Prop
  quiet : ∀ {w later : World}, (∀ o, later.proxy? o = w.proxy? o) → holds w [] later
  trans : ∀ {w between later : World} {one two : List Activation},
    holds w one between → holds between two later → holds w (one ++ two) later
  entered : ∀ a : Activation,
    (∀ which, u.require a.on.type a.method ≠ .ok (.accessor which)) →
      holds a.world [a] a.world
  accessed : ∀ (a : Activation) (which : Accessor),
    u.require a.on.type a.method = .ok (.accessor which) →
      holds a.world [a] (u.runAccessor a.on which a.frame a.world).2

namespace World

/-- Consulting an interceptor changes no object: it makes a specialization at most, and counts the
call. -/
private theorem objects_consult (u : Universe) (this : ObjectRef) (slot : Slot)
    (dispatch : Dispatch) (factory : FactoryId) (frame : Frame) (w : World) :
    (u.consult this slot dispatch factory frame w).2.objects = w.objects := by
  have selected : ∀ generics,
      (u.selectProceed slot dispatch factory generics w).2.objects = w.objects := by
    intro generics
    cases dispatch with
    | direct entry => rfl
    | generic cache =>
        simp only [Universe.selectProceed]
        split <;> rename_i found <;> exact congrArg (·.2.objects) found.symm
  unfold Universe.consult
  split
  · rfl
  · split
    · rfl
    · split
      · rename_i found
        exact (congrArg (·.2.objects) found).symm.trans (selected _)
      · rename_i found
        have same := (congrArg (·.2.objects) found).symm.trans (selected _)
        split
        · exact same
        · exact same

namespace Account

variable {u : Universe} (account : Account u)

/-- A run from a world on: of the world that it leaves, if it comes to an end, an account
tells from all calls in it, and of the world in which each call is made from the calls before. -/
structure Tells (w : World) (trail : List Activation) (after : Option World) : Prop where
  ended : ∀ later, after = some later → account.holds w trail later
  reached : ∀ before nested rest, trail = before ++ nested :: rest →
    account.holds w before nested.world

/-- What is told of every call that nests less deep. -/
def Follows (call : VirtualCall) (below : Activation → List Activation) : Prop :=
  ∀ a : Activation, account.Tells a.world (below a) ((a.outcome call).map (·.2.2))

variable {account}

/-- Of a step that changes no proxy there is nothing to tell. -/
private theorem tells_quiet {w later : World} (same : ∀ o, later.proxy? o = w.proxy? o) :
    account.Tells w [] (some later) where
  ended := by
    rintro _ ⟨⟩
    exact account.quiet same
  reached := by
    intro before nested rest split
    simp at split

private theorem tells_still (w : World) : account.Tells w [] (some w) := tells_quiet fun _ => rfl

/-- A call before it does anything, or all that it does. -/
private theorem tells_single {a : Activation} {after : Option World}
    (ended : ∀ later, after = some later → account.holds a.world [a] later) :
    account.Tells a.world [a] after where
  ended := ended
  reached := by
    intro before nested rest split
    cases before with
    | nil =>
        obtain ⟨rfl, _⟩ := List.cons.inj split
        exact account.quiet fun _ => rfl
    | cons head before => simp at split

/-- A run that is broken off after a first part. -/
private theorem Tells.broken {w : World} {trail : List Activation} {after : Option World}
    (first : account.Tells w trail after) : account.Tells w (trail ++ []) none where
  ended := by
    rintro _ ⟨⟩
  reached := by
    rw [List.append_nil]
    exact first.reached

/-- A run in two parts. -/
theorem Tells.andThen {w between : World} {one two : List Activation} {after : Option World}
    (first : account.Tells w one (some between)) (second : account.Tells between two after) :
    account.Tells w (one ++ two) after where
  ended := fun later ends => account.trans (first.ended between rfl) (second.ended later ends)
  reached := by
    intro before nested rest split
    rcases List.append_eq_append_iff.mp split with ⟨further, rfl, later⟩ | ⟨kept, rfl, later⟩
    · exact account.trans (first.ended between rfl) (second.reached further nested rest later)
    · -- The call is in the first part, or it is the very first of the second.
      cases kept with
      | nil =>
          have whole := account.trans (first.ended between rfl)
            (second.reached [] nested rest later.symm)
          simpa using whole
      | cons head kept =>
          obtain ⟨rfl, rfl⟩ := List.cons.inj later
          exact first.reached before nested kept rfl

private theorem Tells.quietly {w between : World} {trail : List Activation} {after : Option World}
    (same : ∀ o, between.proxy? o = w.proxy? o) (second : account.Tells between trail after) :
    account.Tells w trail after :=
  (tells_quiet same).andThen second

/-- What every request of a program keeps to, its run keeps to. -/
private theorem tells_program {Request : Type} {Reply : Request → Type} {α State : Type}
    {handle : (r : Request) → State → Option (Reply r × State)}
    {calls : Request → State → List Activation} {world : State → World}
    (each : ∀ request state, account.Tells (world state) (calls request state)
      ((handle request state).map fun served => world served.2))
    (program : Program Request Reply α) :
    ∀ state, account.Tells (world state) (program.trail handle calls state)
      ((program.run handle state).map fun ran => world ran.2) := by
  induction program with
  | done result => exact fun state => tells_still (world state)
  | ask request resume inductionHypothesis =>
      intro state
      have first := each request state
      unfold Program.trail Program.run
      cases served : handle request state with
      | none => exact first.broken
      | some answer =>
          rw [served] at first
          exact first.andThen (inductionHypothesis answer.1 answer.2)

variable {call : VirtualCall} {below : Activation → List Activation}
  (follows : account.Follows call below)

include follows

/-- The steps of a thunk are told by its call: loads and copies back leave the world alone. -/
private theorem tells_execute (on : ObjectRef) (method : Method) (ops : List ThunkOp) :
    ∀ (arguments : List Value) (frame : Frame) (result : Value) (w : World),
      account.Tells w (Thunk.stepTrail u call below on method ops arguments frame w)
        ((Thunk.execute u call on method ops arguments frame result w).map (·.2)) := by
  induction ops with
  | nil => exact fun _ _ _ w => tells_still w
  | cons op rest inductionHypothesis =>
      intro arguments frame result w
      cases op with
      | cast type =>
          simp only [Thunk.stepTrail, Thunk.execute]
          split
          · exact inductionHypothesis arguments frame result w
          · exact tells_still w
      | load index type =>
          simp only [Thunk.stepTrail, Thunk.execute]
          cases u.narrow (arguments.getD index .void) type with
          | error fault => exact tells_still w
          | ok v => exact inductionHypothesis arguments (frame.push v) result w
      | loadAddress index type cell direction =>
          simp only [Thunk.stepTrail, Thunk.execute]
          cases u.seed (arguments.getD index .void) type direction with
          | error fault => exact tells_still w
          | ok v => exact inductionHypothesis arguments _ result w
      | callVirtual =>
          have first := follows ⟨on, method, frame, w⟩
          simp only [Activation.outcome] at first
          simp only [Thunk.stepTrail, Thunk.execute]
          rcases called : call on method frame w with _ | ⟨fault | v, left, after⟩
          · exact first.broken
          · rw [called] at first
            exact first.andThen (tells_still after)
          · rw [called] at first
            exact first.andThen (inductionHypothesis arguments left v after)
      | storeBack index cell =>
          simp only [Thunk.stepTrail, Thunk.execute]
          cases frame.cell cell with
          | error fault => exact tells_still w
          | ok v => exact inductionHypothesis (arguments.set index v) frame result w
      | returnValue type => exact tells_still w
      | returnVoid => exact tells_still w

private theorem tells_invoke (thunk : Thunk) (on : ObjectRef) (arguments : List Value) (w : World) :
    account.Tells w (thunk.trail u call below on arguments w)
      ((thunk.invoke u call on arguments w).map (·.2)) := by
  unfold Thunk.trail Thunk.invoke
  split
  · exact tells_execute follows on _ _ arguments _ _ w
  · exact tells_still w

/-- A factory that looks up a thunk leaves the proxies as they are. -/
private theorem tells_invokeVia (factory : FactoryId)
    (lookup : Factory → Except Fault SharedThunk × Factory) (on : ObjectRef)
    (arguments : List Value) (w : World) :
    account.Tells w (u.trailVia call below factory lookup on arguments w)
      ((u.invokeVia call factory lookup on arguments w).map (·.2)) := by
  have kept : ∀ o, (w.onFactory factory lookup).2.proxy? o = w.proxy? o := proxy?_eq rfl
  unfold Universe.trailVia Universe.invokeVia
  rcases found : w.onFactory factory lookup with ⟨fault | shared, after⟩
  · rw [found] at kept
    exact tells_quiet kept
  · rw [found] at kept
    exact .quietly kept (tells_invoke follows shared.thunk on arguments after)

/-- A request about the world is told by the call that it makes, if it makes one. -/
private theorem tells_serveWorld (request : WorldRequest) (w : World) :
    account.Tells w (request.trail u call below w)
      ((u.serveWorld call request w).map (·.2)) := by
  cases request with
  | create type tag => exact tells_quiet (w.proxy?_create_eq type tag)
  | setCell o key v => exact tells_quiet fun other => w.proxy?_setCell_eq o other key v
  | report entry => exact tells_quiet (proxy?_eq rfl)
  | invoke factory method on arguments => exact tells_invokeVia follows factory _ on arguments w
  | callVirtual method on arguments =>
      have told := follows ⟨on, method, .ofValues arguments, w⟩
      simp only [Activation.outcome] at told
      simp only [WorldRequest.trail, Universe.serveWorld]
      rcases called : call on method (.ofValues arguments) w with _ | ⟨result, left, after⟩
      · rw [called] at told
        exact told
      · rw [called] at told
        exact told
  | _ => exact tells_still w

/-- Of the requests of a method body only those about the world make calls. -/
private theorem tells_serveBody (request : BodyRequest) (state : Frame × World) :
    account.Tells state.2 (request.trail u call below state)
      ((u.serveBody call request state).map (·.2.2)) := by
  obtain ⟨frame, w⟩ := state
  cases request with
  | world request =>
      have told := tells_serveWorld follows request w
      simp only [BodyRequest.trail, Universe.serveBody]
      cases served : u.serveWorld call request w with
      | none =>
          rw [served] at told
          exact told
      | some answer =>
          rw [served] at told
          exact told
  | store index v =>
      simp only [BodyRequest.trail, Universe.serveBody]
      cases frame.store index v <;> exact tells_still w
  | _ => exact tells_still w

/-- Of the requests of an interceptor those about the world make calls, and so does proceeding. -/
private theorem tells_serveHook (request : HookRequest) (state : Interception × World) :
    account.Tells state.2 (request.trail u call below state)
      ((u.serveHook call request state).map (·.2.2)) := by
  obtain ⟨context, w⟩ := state
  cases request with
  | world request =>
      have told := tells_serveWorld follows request w
      simp only [HookRequest.trail, Universe.serveHook]
      cases served : u.serveWorld call request w with
      | none =>
          rw [served] at told
          exact told
      | some answer =>
          rw [served] at told
          exact told
  | setSlot index v =>
      simp only [HookRequest.trail, Universe.serveHook]
      split <;> exact tells_still w
  | proceed =>
      simp only [HookRequest.trail, Universe.serveHook]
      cases context.target with
      | none => exact tells_still w
      | some target =>
          have told := tells_invokeVia follows context.factory (·.entryThunk u context.entry)
            target context.slots w
          simp only [Universe.invokeEntry]
          split <;> rename_i invoked <;> rw [invoked] at told <;> exact told
  | proceedWith on arguments =>
      have told := tells_invokeVia follows context.factory (·.entryThunk u context.entry)
        on arguments w
      simp only [HookRequest.trail, Universe.serveHook, Universe.invokeEntry]
      split <;> rename_i invoked <;> rw [invoked] at told <;> exact told
  | _ => exact tells_still w

/-- Bodies other than those that read or write targets. -/
private theorem tells_runBody (a : Activation) (body : MethodBody)
    (other : ∀ which, body ≠ .accessor which) :
    account.Tells a.world (body.trail u call below a)
      ((u.runBody call a.on body a.frame a.world).map (·.2.2)) := by
  cases body with
  | native run =>
      exact tells_program (tells_serveBody follows) (run a.on) (a.frame, a.world)
  | intercepted carried dispatch factory =>
      have kept : ∀ o, (u.consult a.on carried dispatch factory a.frame a.world).2.proxy? o =
          a.world.proxy? o := proxy?_eq (objects_consult u ..)
      simp only [MethodBody.trail, Universe.runBody, Universe.runIntercepted]
      rcases consulted : u.consult a.on carried dispatch factory a.frame a.world with
        ⟨fault | ⟨interceptor, context⟩, start⟩
      · rw [consulted] at kept
        exact tells_quiet kept
      · rw [consulted] at kept
        have told := tells_program (tells_serveHook follows) interceptor (context, start)
        refine .quietly kept ?_
        simp only
        split <;> rename_i ran <;> rw [ran] at told <;> exact told
  | passThrough carried factory =>
      simp only [MethodBody.trail, Universe.runBody, forward]
      obtain _ | ⟨type, _ | target, interceptor⟩ := a.world.proxy? a.on
      · exact tells_still a.world
      · exact tells_still a.world
      · have kept : ∀ o, (a.world.onFactory factory fun f => ((), f.countPassThrough)).2.proxy? o =
            a.world.proxy? o := proxy?_eq rfl
        exact .quietly kept (follows ⟨target, carried.toMethod, a.frame, _⟩)
  | accessor which => exact absurd rfl (other which)

omit follows

/-- An account tells of a call, however deep calls nest below it, and also when calls nest
too deeply and it comes to no end. -/
theorem tells_trail (depth : Nat) : account.Follows (u.callVirtual depth) (u.trail depth) := by
  induction depth with
  | zero =>
      intro a
      exact tells_single fun _ ends => by cases ends
  | succ depth inductionHypothesis =>
      intro a
      simp only [Activation.outcome, Universe.trail, Universe.callVirtual, Universe.dispatch]
      cases found : u.require a.on.type a.method with
      | error fault =>
          apply tells_single
          rintro _ ⟨⟩
          exact account.entered a fun which impossible => by simp [found] at impossible
      | ok body =>
          by_cases accesses : ∃ which, body = .accessor which
          · obtain ⟨which, rfl⟩ := accesses
            apply tells_single
            rintro _ ⟨⟩
            exact account.accessed a which found
          · have other : ∀ which, body ≠ .accessor which :=
              fun which same => accesses ⟨which, same⟩
            have entered : account.Tells a.world [a] (some a.world) := by
              apply tells_single
              rintro _ ⟨⟩
              exact account.entered a fun which same => other which
                (Except.ok.inj (found.symm.trans same))
            exact entered.andThen (tells_runBody inductionHypothesis a body other)

/-- What is told of a run is told of the session that it leaves. -/
private theorem tells_running {α : Type} {s : Session} {account : Account s.types}
    {trail : List Activation} {run : World → Option (α × World)}
    (told : account.Tells s.world trail ((run s.world).map (·.2))) :
    account.Tells s.world trail ((s.running run).map (·.2.world)) := by
  unfold Session.running
  rw [Option.map_map]
  exact told

/-- An account tells of the calls that are made from outside. -/
theorem tells_perform {s : Session} {account : Account s.types} {operation : Operation}
    (calls : operation.IsCall) :
    account.Tells s.world (s.trail operation) ((s.perform operation).map (·.2.world)) := by
  cases operation with
  | invoke depth factory method on arguments =>
      exact tells_running (tells_invokeVia (tells_trail depth) factory _ on arguments s.world)
  | invokeEntry depth factory entry on arguments =>
      exact tells_running (tells_invokeVia (tells_trail depth) factory _ on arguments s.world)
  | invokeThunk depth thunk on arguments =>
      exact tells_running (tells_invoke (tells_trail depth) thunk on arguments s.world)
  | callVirtual depth on method frame =>
      refine @tells_running _ s account _ (fun w =>
        (s.types.callVirtual depth on method frame w).map
          fun ran => ((ran.1, ran.2.1), ran.2.2)) ?_
      rw [Option.map_map]
      exact tells_trail depth ⟨on, method, frame, s.world⟩
  | _ => exact calls.elim

/-- It tells also in the middle of an operation, which then makes calls. -/
theorem reached_perform {s : Session} (account : Account s.types) {operation : Operation}
    {before rest : List Activation} {next : Activation}
    (split : s.trail operation = before ++ next :: rest) :
    account.holds s.world before next.world := by
  have reached : operation.IsCall → account.holds s.world before next.world :=
    fun calls => (tells_perform calls).reached before next rest split
  cases operation with
  | invoke | invokeEntry | invokeThunk | callVirtual => exact reached trivial
  | _ => simp [Session.trail] at split

end Account

end World

end Interpose
