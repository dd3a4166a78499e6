/-
Module: Interpose.Proofs.Transparency
Purpose: What a caller gets through a proxy that hands every call on to its target.
Main exports: Universe.Screened, Universe.StandsIn, Universe.exists_runIntercepted_transparent,
  Universe.screened_invokeThrough, Universe.sameOutcome_invokeThrough, Session.Mirrors,
  Session.transparent_proxy_faithful
-/
import Interpose.Proofs.InterceptedCalls

namespace Interpose

namespace Universe

/-! ### Checks on the way back -/

/-- A misfit is the mismatch of a slot with the type of its parameter. -/
theorem typeMismatch_of_misfit? (u : Universe) {method : Method} {fault : Fault}
    {parameters : List Parameter} :
    ∀ {slots : List Value}, u.misfit? method parameters slots = some fault →
      ∃ (index : Nat) (parameter : Parameter) (slot : Value), parameters[index]? = some parameter ∧
        parameter.direction.isByRef = true ∧ slots[index]? = some slot ∧
        u.fits slot (parameterType method parameter) = false ∧
        fault = .typeMismatch (.runtime (parameterType method parameter)) slot.label := by
  induction parameters with
  | nil =>
      intro slots misfit
      cases misfit
  | cons parameter parameters inductionHypothesis =>
      intro slots misfit
      cases slots with
      | nil => cases misfit
      | cons slot slots =>
          have later : u.misfit? method parameters slots = some fault →
              ∃ (index : Nat) (further : Parameter) (held : Value),
                (parameter :: parameters)[index]? = some further ∧
                further.direction.isByRef = true ∧ (slot :: slots)[index]? = some held ∧
                u.fits held (parameterType method further) = false ∧
                fault = .typeMismatch (.runtime (parameterType method further)) held.label := by
            intro misfit
            obtain ⟨index, further, held, found⟩ := inductionHypothesis misfit
            exact ⟨index + 1, further, held, found⟩
          unfold misfit? at misfit
          split at misfit
          · rename_i address
            split at misfit
            · rename_i mismatch narrowed
              obtain rfl := Option.some.inj misfit
              unfold narrow at narrowed
              split at narrowed
              · cases narrowed
              · rename_i unfit
                exact ⟨0, parameter, slot, rfl, address, rfl, Bool.eq_false_iff.mpr unfit,
                  (Except.error.inj narrowed).symm⟩
            · exact later misfit
          · exact later misfit

/-- There is no misfit exactly if every by-reference slot fits its parameter. -/
theorem misfit?_eq_none_iff (u : Universe) (method : Method) (slots : List Value) :
    u.misfit? method (u.parameters method) slots = none ↔
      ∀ (index : Nat) (parameter : Parameter) (slot : Value),
        (u.parameters method)[index]? = some parameter → parameter.direction.isByRef = true →
        slots[index]? = some slot → u.fits slot (parameterType method parameter) = true := by
  constructor
  · intro fitting index parameter slot found address held
    exact u.fits_of_misfit? fitting found held address
  · intro fitting
    by_contra misfits
    obtain ⟨fault, misfit⟩ := Option.ne_none_iff_exists'.mp misfits
    obtain ⟨index, parameter, slot, found, address, held, unfit, _⟩ :=
      u.typeMismatch_of_misfit? misfit
    rw [fitting index parameter slot found address held] at unfit
    cases unfit

/-- The misfits of arguments that cells were written over are those of the cells. -/
theorem misfit?_written (u : Universe) (method : Method) {parameters : List Parameter} :
    ∀ {arguments others cells : List Value}, arguments.length = parameters.length →
      others.length = parameters.length → Frame.cellCount parameters ≤ cells.length →
      u.misfit? method parameters (Frame.written parameters arguments cells) =
        u.misfit? method parameters (Frame.written parameters others cells) := by
  induction parameters with
  | nil => exact fun _ _ _ => rfl
  | cons parameter parameters inductionHypothesis =>
      intro arguments others cells sameLength otherLength enough
      cases arguments with
      | nil => cases sameLength
      | cons argument arguments =>
          cases others with
          | nil => cases otherLength
          | cons other others =>
              rw [Frame.cellCount_cons] at enough
              by_cases address : parameter.direction.isByRef = true
              · cases cells with
                | nil => simp [address] at enough
                | cons cell cells =>
                    have fewer : Frame.cellCount parameters ≤ cells.length := by
                      simpa [address] using enough
                    have further := inductionHypothesis (Nat.succ.inj sameLength)
                      (Nat.succ.inj otherLength) fewer
                    simp [Frame.written, misfit?, address, further]
              · have further := inductionHypothesis (Nat.succ.inj sameLength)
                  (Nat.succ.inj otherLength) (by simpa [address] using enough)
                simp [Frame.written, misfit?, address, further]

/-- What a caller gets through a proxy whose interceptor hands calls on, by what it
would get from the target.  A fault comes through and leaves the arguments as
they were.  So does the fault of the first by-reference argument that the target
leaves with a value of a wrong type.  Anything else comes through unchanged. -/
structure Screened (u : Universe) (method : Method) (arguments : List Value)
    (direct proxied : CallResult) : Prop where
  delivered : ∀ v, direct.result = .ok v →
    u.misfit? method (u.parameters method) direct.arguments = none → proxied = direct
  failed : ∀ fault, direct.result = .error fault → proxied = ⟨.error fault, arguments⟩
  rejected : ∀ v fault, direct.result = .ok v →
    u.misfit? method (u.parameters method) direct.arguments = some fault →
    proxied = ⟨.error fault, arguments⟩

/-- A call that fails alike is screened, whatever it left of its arguments. -/
private theorem screened_error (u : Universe) (method : Method) (arguments left : List Value)
    (fault : Fault) :
    u.Screened method arguments ⟨.error fault, left⟩ ⟨.error fault, arguments⟩ where
  delivered := fun _ impossible => by cases impossible
  failed := by
    intro other same
    obtain rfl := Except.error.inj same
    rfl
  rejected := fun _ _ impossible => by cases impossible

/-- A call that returns, and leaves nothing that misfits its parameters, is screened by a call with
the same outcome. -/
private theorem screened_self (u : Universe) (method : Method) (arguments : List Value)
    {left : List Value} (v : Value) (fits : u.misfit? method (u.parameters method) left = none) :
    u.Screened method arguments ⟨.ok v, left⟩ ⟨.ok v, left⟩ where
  delivered := fun _ _ _ => rfl
  failed := fun _ impossible => by cases impossible
  rejected := fun _ _ _ misfits => by cases fits.symm.trans misfits

/-- A call that returns, but leaves something that misfits, is screened by the failure that tells of
the misfit. -/
private theorem screened_misfit (u : Universe) (method : Method) (arguments : List Value)
    {left : List Value} {fault : Fault} (v : Value)
    (misfit : u.misfit? method (u.parameters method) left = some fault) :
    u.Screened method arguments ⟨.ok v, left⟩ ⟨.error fault, arguments⟩ where
  delivered := fun _ _ fits => by cases misfit.symm.trans fits
  failed := fun _ impossible => by cases impossible
  rejected := by
    intro _ other _ misfits
    obtain rfl := Option.some.inj (misfit.symm.trans misfits)
    rfl

/-! ### Methods that are reached through others -/

/-- On an object one method can be called for another: the two take and return the
same types for the same type arguments, and the object runs the same body for
them. -/
structure StandsIn (u : Universe) (on : ObjectRef) (carried method : Method) : Prop where
  same : u.SameTypes carried method
  generics : carried.generics = method.generics
  compiled : u.compile carried = .ok (.assemble u carried)
  reached : u.isAssignable on.type carried.parent = true
  body : u.require on.type carried = u.require on.type method

/-- A virtual call depends on its method only by the body that the receiver provides. -/
theorem callVirtual_congr (u : Universe) {on : ObjectRef} {one other : Method}
    (same : u.require on.type one = u.require on.type other) (depth : Nat) (frame : Frame)
    (w : World) : u.callVirtual depth on one frame w = u.callVirtual depth on other frame w := by
  cases depth with
  | zero => rfl
  | succ depth =>
      unfold callVirtual dispatch
      rw [same]

namespace StandsIn

variable {u : Universe} {on : ObjectRef} {carried method : Method}

theorem refl (compiled : u.compile method = .ok (.assemble u method))
    (reached : u.isAssignable on.type method.parent = true) : u.StandsIn on method method :=
  ⟨⟨rfl, fun _ _ => rfl, rfl⟩, rfl, compiled, reached, rfl⟩

variable (stands : u.StandsIn on carried method)

include stands

theorem parameters : u.parameters carried = u.parameters method := stands.same.parameters

private theorem parameterTypes : ∀ parameter ∈ u.parameters method,
    parameterType carried parameter = parameterType method parameter := by
  rw [← stands.parameters]
  exact stands.same.types

private theorem intercepted_eq (v : Value) : u.intercepted carried v = u.intercepted method v := by
  unfold intercepted
  rw [stands.same.returns]

private theorem layOut_eq (values : List Value) :
    Frame.layOut (u.parameters carried) values carried.generics =
      Frame.layOut (u.parameters method) values method.generics := by
  rw [stands.parameters, stands.generics]

end StandsIn

/-! ### Proceeding -/

section Proceeding

open World (Parallel)

variable {u : Universe} {start w : World}

/-- Calling through a thunk that a factory has. -/
theorem invokeVia_ok (u : Universe) (call : VirtualCall) {factory : FactoryId}
    {lookup : Factory → Except Fault SharedThunk × Factory} {thunk : Thunk}
    (found : (lookup (w.factory factory)).1.map (·.thunk) = .ok thunk) (on : ObjectRef)
    (arguments : List Value) :
    u.invokeVia call factory lookup on arguments w =
      thunk.invoke u call on arguments (w.onFactory factory lookup).2 := by
  have first : (w.onFactory factory lookup).1 = (lookup (w.factory factory)).1 := rfl
  rw [← first] at found
  unfold invokeVia
  generalize w.onFactory factory lookup = outcome at found
  obtain ⟨result, after⟩ := outcome
  cases result with
  | error fault => cases found
  | ok shared =>
      obtain rfl := Except.ok.inj found
      rfl

/-- Calling where a factory has no thunk: the fault of the look-up is the outcome, and the arguments
are as they were. -/
theorem invokeVia_error (u : Universe) (call : VirtualCall) {factory : FactoryId}
    {lookup : Factory → Except Fault SharedThunk × Factory} {fault : Fault}
    (failed : (lookup (w.factory factory)).1.map (·.thunk) = .error fault) (on : ObjectRef)
    (arguments : List Value) :
    u.invokeVia call factory lookup on arguments w =
      some (⟨.error fault, arguments⟩, (w.onFactory factory lookup).2) := by
  have first : (w.onFactory factory lookup).1 = (lookup (w.factory factory)).1 := rfl
  rw [← first] at failed
  unfold invokeVia
  generalize w.onFactory factory lookup = outcome at failed
  obtain ⟨result, after⟩ := outcome
  cases result with
  | error other =>
      obtain rfl : other = fault := Except.error.inj failed
      rfl
  | ok shared => cases failed

/-- A transparent interceptor does nothing but proceed. -/
private theorem run_transparent (u : Universe) (call : VirtualCall) (state : Interception × World) :
    transparent.run (u.serveHook call) state = u.serveHook call .proceed state :=
  Program.run_request HookRequest.proceed state

/-- A closed method is what an intercepted call of it proceeds with. -/
theorem exists_selectProceed (alike : start.Alike u w) {slot : Slot} {dispatch : Dispatch}
    {factory : FactoryId} {generics : List RuntimeType}
    (linked : dispatch.Linked u (w.factory factory) slot)
    (closed : generics.length = (u.signature slot).arity) :
    ∃ entry after, u.selectProceed slot dispatch factory generics w =
        (.ok (⟨slot, generics⟩, entry), after) ∧
      entry < (after.factory factory).entries.size ∧
      ((after.factory factory).entry entry).method = ⟨slot, generics⟩ ∧
      Parallel u start w start after := by
  cases dispatch with
  -- A method with an entry of its own is no generic definition, so there are no type arguments and
  -- the entry serves as it is.
  | direct entry =>
      obtain ⟨plain, known, same⟩ := linked
      have none : (u.signature slot).arity = 0 := by
        simpa [isGeneric] using plain
      obtain rfl := List.eq_nil_of_length_eq_zero (closed.trans none)
      exact ⟨entry, w, rfl, known, same, .refl alike⟩
  | generic cache =>
      -- A generic definition closed over as many type arguments as it takes is a method, so the
      -- cache gives a specialization, made now or before.
      obtain ⟨generic, known, sameSlot⟩ := linked
      have some : (u.signature slot).arity ≠ 0 := by
        have positive : 0 < (u.signature slot).arity := by simpa [isGeneric] using generic
        exact Nat.pos_iff_ne_zero.mp positive
      have made : u.makeGeneric slot.toMethod generics = .ok ⟨slot, generics⟩ := by
        simp [makeGeneric, closed, some]
      have stored := World.factory_onFactory (w := w) (fun f => f.specialize u cache generics)
        (World.lt_of_lt_caches known)
      obtain ⟨specialized, evolved, entries⟩ :=
        Factory.evolves_specialize (alike.coherentOther factory) cache generics
      have parallel := World.parallel_onFactory_alone alike factory evolved
      rw [sameSlot, made] at specialized
      have first : (w.onFactory factory fun f => f.specialize u cache generics).1 =
          ((w.factory factory).specialize u cache generics).1 := rfl
      rw [← first] at specialized
      rw [← first, ← stored] at entries
      simp only [selectProceed]
      generalize (w.onFactory factory fun f => f.specialize u cache generics) = outcome
        at specialized entries parallel
      obtain ⟨result, after⟩ := outcome
      cases result with
      | error fault => cases specialized
      | ok specialization =>
          have sameMethod : specialization.method = ⟨slot, generics⟩ := Except.ok.inj specialized
          obtain ⟨fresh, denotes⟩ := entries specialization rfl
          refine ⟨specialization.entry, after, ?_, fresh, denotes.trans sameMethod, parallel⟩
          rw [← sameMethod]

/-- What a transparent interceptor makes of the outcome of proceeding: a fault ends the
call, and what is left otherwise is handed to the caller. -/
def handBack (u : Universe) (carried : Method) (frame : Frame) :
    Option (CallResult × World) → Option (Except Fault Value × Frame × World)
  | none => none
  | some (⟨.error fault, _⟩, after) => some (.error fault, frame, after)
  | some (⟨.ok result, slots⟩, after) =>
      some ((u.conclude carried slots result frame).1, (u.conclude carried slots result frame).2,
        after)

/-- A transparent interceptor calls the method that its body carries on the target,
with the arguments of the call, and hands over what that leaves. -/
theorem exists_runIntercepted_transparent (call : VirtualCall) (alike : start.Alike u w)
    {o target : ObjectRef} {proxyType : ProxyType} {carried : Slot} {dispatch : Dispatch}
    {factory : FactoryId} {frame : Frame} {generics : List RuntimeType} {values : List Value}
    (carries : frame.generics = generics)
    (stored : w.proxy? o = some ⟨proxyType, some target, some transparent⟩)
    (linked : dispatch.Linked u (w.factory factory) carried)
    (closed : generics.length = (u.signature carried).arity)
    (compiled : u.compile ⟨carried, generics⟩ = .ok (.assemble u ⟨carried, generics⟩))
    (read : frame.readArguments (u.parameters ⟨carried, generics⟩).length = .ok values) :
    ∃ between, Parallel u start w start between ∧
      u.runIntercepted call o carried dispatch factory frame w =
        u.handBack ⟨carried, generics⟩ frame
          ((Thunk.assemble u ⟨carried, generics⟩).invoke u call target values between) := by
  subst carries
  obtain ⟨entry, selected, proceeds, known, denotes, parallel⟩ :=
    exists_selectProceed alike linked closed
  have counted : Parallel u start selected start
      (selected.onFactory factory fun f => ((), f.countIntercepted)).2 :=
    World.parallel_onFactory_alone parallel.alike factory
      (Factory.evolves_countIntercepted (parallel.alike.coherentOther factory))
  have consulted : u.consult o carried dispatch factory frame w =
      (.ok (transparent, ⟨⟨carried, frame.generics⟩, some target, values, factory, entry⟩),
        (selected.onFactory factory fun f => ((), f.countIntercepted)).2) := by
    simp only [consult, stored, proceeds, read]
  have sameEntry := (counted.growsOther.factories factory).methods entry known
  rw [denotes] at sameEntry
  revert consulted sameEntry counted
  generalize (selected.onFactory factory fun f => ((), f.countIntercepted)).2 = ready
  intro counted consulted sameEntry
  obtain ⟨found, evolved⟩ :=
    Factory.evolves_entryThunk (counted.alike.coherentOther factory) entry
  rw [sameEntry, compiled] at found
  have looked := World.parallel_onFactory_alone counted.alike factory evolved
  refine ⟨_, (parallel.trans counted).trans looked, ?_⟩
  unfold runIntercepted
  rw [consulted]
  simp only [u.run_transparent, serveHook, invokeEntry, u.invokeVia_ok call found target values]
  cases (Thunk.assemble u ⟨carried, frame.generics⟩).invoke u call target values
      (ready.onFactory factory (Factory.entryThunk u entry)).2 with
  | none => rfl
  | some ended =>
      obtain ⟨⟨result, slots⟩, after⟩ := ended
      cases result with
      | error fault => rfl
      | ok v => rfl

/-- What is screened when a method has returned: the target leaves cells, which the
proxy reads off as slots, checks, and writes over the arguments of its caller. -/
private theorem exists_finish_handBack {on : ObjectRef} {carried method : Method}
    (stands : u.StandsIn on carried method) {arguments values cells : List Value}
    (sameLength : arguments.length = (u.parameters method).length)
    (sameValues : values.length = (u.parameters method).length)
    (enough : Frame.cellCount (u.parameters method) ≤ cells.length) (v : Value) (after : World) :
    ∃ proxied, Thunk.finish u method arguments
        (u.handBack carried (.layOut (u.parameters method) values method.generics)
          (some (Thunk.deliver u carried values cells v, after))) = some (proxied, after) ∧
      u.Screened method arguments (Thunk.deliver u method arguments cells v) proxied := by
  unfold Thunk.deliver
  rw [stands.intercepted_eq, stands.parameters]
  cases returned : u.intercepted method v with
  | error fault => exact ⟨_, rfl, u.screened_error method arguments _ fault⟩
  | ok result =>
      have slotCount : (Frame.written (u.parameters method) values cells).length =
          (u.parameters method).length :=
        (Frame.length_written _ _).trans sameValues
      have sameMisfit : u.misfit? carried (u.parameters method)
          (Frame.written (u.parameters method) values cells) =
            u.misfit? method (u.parameters method)
              (Frame.written (u.parameters method) arguments cells) := by
        rw [u.misfit?_congr _ stands.parameterTypes]
        exact u.misfit?_written method sameValues sameLength enough
      obtain ⟨failing, fitting⟩ := u.conclude_layOut method.generics result
        (stands.parameters ▸ sameValues) (stands.parameters ▸ slotCount)
      rw [stands.parameters, sameMisfit] at failing fitting
      simp only [handBack]
      generalize u.conclude carried (Frame.written (u.parameters method) values cells) result
        (.layOut (u.parameters method) values method.generics) = concluded at failing fitting
      obtain ⟨outcome, left⟩ := concluded
      cases misfit : u.misfit? method (u.parameters method)
          (Frame.written (u.parameters method) arguments cells) with
      | some fault =>
          obtain rfl : outcome = .error fault := failing fault misfit
          exact ⟨_, rfl, u.screened_misfit method arguments result misfit⟩
      | none =>
          obtain ⟨handed, cellsLeft⟩ := fitting misfit
          -- The result was checked on its way out of the target, so the checks that
          -- the proxy and its caller make pass and change nothing.
          obtain ⟨again, _⟩ := u.intercepted_again carried stands.same.returns.symm returned
          obtain ⟨twice, _⟩ := u.intercepted_again method rfl returned
          obtain rfl : outcome = .ok result := handed.trans again
          have sameArguments : Frame.written (u.parameters method) arguments left.cells =
              Frame.written (u.parameters method) arguments cells := by
            apply (congrArg (Frame.written _ arguments) cellsLeft).trans
            exact Frame.written_byRefs_written sameLength sameValues enough
          refine ⟨⟨.ok result, Frame.written (u.parameters method) arguments cells⟩, ?_,
            u.screened_self method arguments result misfit⟩
          simp only [Thunk.finish, Thunk.deliver, twice, sameArguments]

/-- Two outcomes of a call, on a target and on a proxy of it, from two worlds. -/
def ScreenedOutcome (u : Universe) (method : Method) (arguments : List Value) (start w : World)
    (direct proxied : CallResult × World) : Prop :=
  u.Screened method arguments direct.1 proxied.1 ∧ Parallel u start w direct.2 proxied.2

/-- Screened outcomes stay screened when the two worlds that the calls start from had come apart
before. -/
private theorem rel_screened_trans {method : Method} {arguments : List Value}
    {later laterOther : World} {one two : Option (CallResult × World)}
    (first : Parallel u start w later laterOther)
    (second : Option.Rel (u.ScreenedOutcome method arguments later laterOther) one two) :
    Option.Rel (u.ScreenedOutcome method arguments start w) one two := by
  cases second with
  | none => exact .none
  | some same => exact .some ⟨same.1, first.trans same.2⟩

/-- Calls through the thunk of a method on two objects are related, if their type
permits the calls, failures before the calls are related, and so is what the
thunk makes of the calls. -/
theorem rel_invoke {related : CallResult × World → CallResult × World → Prop}
    {target o : ObjectRef} {method : Method} {arguments : List Value}
    (reached : u.isAssignable target.type method.parent = true)
    (assignable : u.isAssignable o.type method.parent = true)
    (failing : ∀ fault, related (⟨.error fault, arguments⟩, start) (⟨.error fault, arguments⟩, w))
    (depth deeper : Nat)
    (calling : ∀ values, arguments.length = (u.parameters method).length →
      u.receiveAll method (u.parameters method) arguments = .ok values →
      Option.Rel related
        (Thunk.finish u method arguments (u.callVirtual depth target method
          (.layOut (u.parameters method) values method.generics) start))
        (Thunk.finish u method arguments (u.callVirtual deeper o method
          (.layOut (u.parameters method) values method.generics) w))) :
    Option.Rel related
      ((Thunk.assemble u method).invoke u (u.callVirtual depth) target arguments start)
      ((Thunk.assemble u method).invoke u (u.callVirtual deeper) o arguments w) := by
  rw [Thunk.invoke_callVirtual, Thunk.invoke_callVirtual]
  by_cases sameLength : arguments.length = (u.parameters method).length
  · rw [if_pos sameLength, if_pos sameLength, if_pos reached, if_pos assignable]
    cases received : u.receiveAll method (u.parameters method) arguments with
    | error fault => exact .some (failing fault)
    | ok values => exact calling values sameLength received
  · rw [if_neg sameLength, if_neg sameLength]
    exact .some (failing _)

/-- What the thunk of a method makes of a call on a target, and of the same call with
what a transparent interceptor makes of it in between. -/
private theorem screened_finish {on : ObjectRef} {carried method : Method}
    {arguments values : List Value} {between : World} (parallel : Parallel u start w start between)
    (stands : u.StandsIn on carried method)
    (sameLength : arguments.length = (u.parameters method).length)
    (sameValues : values.length = (u.parameters method).length)
    {one two : Option (Except Fault Value × Frame × World)}
    (keeps : ∀ outcome left after, one = some (outcome, left, after) →
      Frame.cellCount (u.parameters method) ≤ left.cells.length)
    (called : Option.Rel (fun direct inner => direct.1 = inner.1 ∧ direct.2.1 = inner.2.1 ∧
      Parallel u start between direct.2.2 inner.2.2) one two) :
    Option.Rel (u.ScreenedOutcome method arguments start w) (Thunk.finish u method arguments one)
      (Thunk.finish u method arguments
        (u.handBack carried (.layOut (u.parameters method) values method.generics)
          (Thunk.finish u carried values two))) := by
  cases called with
  | none => exact .none
  | some same =>
      rename_i first second
      obtain ⟨outcome, left, after⟩ := first
      obtain ⟨outcomeOther, leftOther, afterOther⟩ := second
      obtain ⟨rfl, rfl, further⟩ := same
      have whole := parallel.trans further
      cases outcome with
      | error fault => exact .some ⟨u.screened_error _ _ _ fault, whole⟩
      | ok v =>
          obtain ⟨proxied, ended, screened⟩ :=
            exists_finish_handBack stands sameLength sameValues (keeps _ _ _ rfl) v afterOther
          have delivered : Thunk.finish u carried values (some (.ok v, left, afterOther)) =
              some (Thunk.deliver u carried values left.cells v, afterOther) := rfl
          rw [delivered, ended]
          exact .some ⟨screened, whole⟩

/-- A call through the thunk of a method, on a target and on a transparent proxy of
it, in worlds that are alike. -/
theorem screened_invoke (alike : start.Alike u w) {o target : ObjectRef} {proxyType : ProxyType}
    {method : Method} {carried : Slot} {dispatch : Dispatch} {factory : FactoryId}
    (stored : w.proxy? o = some ⟨proxyType, some target, some transparent⟩)
    (found : u.require o.type method = .ok (.intercepted carried dispatch factory))
    (linked : dispatch.Linked u (w.factory factory) carried)
    (closed : method.generics.length = (u.signature carried).arity)
    (stands : u.StandsIn target ⟨carried, method.generics⟩ method)
    (assignable : u.isAssignable o.type method.parent = true)
    (reached : u.isAssignable target.type method.parent = true) (depth : Nat)
    (arguments : List Value) :
    Option.Rel (u.ScreenedOutcome method arguments start w)
      ((Thunk.assemble u method).invoke u (u.callVirtual depth) target arguments start)
      ((Thunk.assemble u method).invoke u (u.callVirtual (depth + 1)) o arguments w) := by
  have failing : ∀ fault, u.ScreenedOutcome method arguments start w
      (⟨.error fault, arguments⟩, start) (⟨.error fault, arguments⟩, w) :=
    fun fault => ⟨u.screened_error _ _ _ fault, .refl alike⟩
  apply rel_invoke reached assignable failing depth (depth + 1)
  intro values sameLength received
  have sameValues := u.length_receiveAll sameLength received
  -- The values were received once on the way into the proxy. Received again for the carried method
  -- they come out the same, so target and proxy see one argument list.
  have again : u.receiveAll ⟨carried, method.generics⟩
      (u.parameters ⟨carried, method.generics⟩) values = .ok values := by
    rw [stands.parameters, u.receiveAll_congr values stands.parameterTypes]
    exact u.receiveAll_received sameLength received
  have read : (Frame.layOut (u.parameters method) values method.generics).readArguments
      (u.parameters ⟨carried, method.generics⟩).length = .ok values := by
    rw [stands.parameters]
    exact Frame.readArguments_layOut method.generics sameValues
  have carries : (Frame.layOut (u.parameters method) values method.generics).generics =
      method.generics := rfl
  obtain ⟨between, parallel, intercepts⟩ := exists_runIntercepted_transparent
    (u.callVirtual depth) alike carries stored linked closed stands.compiled read
  have sameCount : values.length = (u.parameters ⟨carried, method.generics⟩).length := by
    rw [stands.parameters]
    exact sameValues
  rw [Thunk.invoke_callVirtual, if_pos sameCount, if_pos stands.reached, again] at intercepts
  have laidOut : Frame.layOut (u.parameters ⟨carried, method.generics⟩) values
      (⟨carried, method.generics⟩ : Method).generics =
      .layOut (u.parameters method) values method.generics := stands.layOut_eq values
  simp only [laidOut, u.callVirtual_congr stands.body] at intercepts
  rw [u.callVirtual_intercepted found, intercepts]
  refine screened_finish parallel stands sameLength sameValues ?_
    (u.faithful_callVirtual depth target method _ _ _ parallel.alike)
  intro outcome left after ended
  rw [← Frame.length_byRefs sameValues]
  exact u.length_cells_callVirtual depth ended

/-- A call through the thunk of a method, on a target and on a proxy that forwards it. -/
theorem sameOutcome_invoke (alike : start.Alike u w) {o target : ObjectRef} {state : ProxyState}
    {method : Method} {carried : Slot} {factory : FactoryId} (stored : w.proxy? o = some state)
    (targeted : state.target = some target)
    (found : u.require o.type method = .ok (.passThrough carried factory))
    (body : u.require target.type carried.toMethod = u.require target.type method)
    (assignable : u.isAssignable o.type method.parent = true)
    (reached : u.isAssignable target.type method.parent = true) (depth : Nat)
    (arguments : List Value) :
    Option.Rel (World.SameOutcome u start w)
      ((Thunk.assemble u method).invoke u (u.callVirtual depth) target arguments start)
      ((Thunk.assemble u method).invoke u (u.callVirtual (depth + 1)) o arguments w) := by
  have failing : ∀ fault, World.SameOutcome u start w
      ((⟨.error fault, arguments⟩ : CallResult), start) (⟨.error fault, arguments⟩, w) :=
    fun _ => ⟨rfl, .refl alike⟩
  apply rel_invoke reached assignable failing depth (depth + 1)
  intro values _ _
  have counted : Parallel u start w start
      (w.onFactory factory fun f => ((), f.countPassThrough)).2 :=
    World.parallel_onFactory_alone alike factory
      (Factory.evolves_countPassThrough (alike.coherentOther factory))
  -- Forwarding hands the frame to the target as it is: nothing but a counter of the factory tells
  -- the two calls apart.
  have proxied : u.callVirtual (depth + 1) o method
      (.layOut (u.parameters method) values method.generics) w =
      u.callVirtual depth target method
        (.layOut (u.parameters method) values method.generics)
        (w.onFactory factory fun f => ((), f.countPassThrough)).2 := by
    rw [callVirtual, Universe.dispatch, found]
    simp only [runBody, forward, stored, targeted]
    exact u.callVirtual_congr body depth _ _
  rw [proxied]
  have called := u.faithful_callVirtual depth target method
    (.layOut (u.parameters method) values method.generics) _ _ counted.alike
  generalize u.callVirtual depth target method
    (.layOut (u.parameters method) values method.generics) start = one at called
  generalize u.callVirtual depth target method
    (.layOut (u.parameters method) values method.generics)
    (w.onFactory factory fun f => ((), f.countPassThrough)).2 = two at called
  cases called with
  | none => exact .none
  | some same =>
      rename_i first second
      obtain ⟨outcome, left, after⟩ := first
      obtain ⟨outcomeOther, leftOther, afterOther⟩ := second
      obtain ⟨rfl, rfl, further⟩ := same
      cases outcome <;> exact .some ⟨rfl, counted.trans further⟩

/-- Calls through a factory on two objects are related, if failures of the
compilation are related, and so are calls of the compiled thunk. -/
theorem rel_invokeThrough (alike : start.Alike u w)
    {related : CallResult × World → CallResult × World → Prop} {target o : ObjectRef}
    {method : Method} {arguments : List Value} (depth deeper : Nat) (id : FactoryId)
    (failing : ∀ fault,
      related (⟨.error fault, arguments⟩, (start.onFactory id fun f => f.getOrCompile u method).2)
        (⟨.error fault, arguments⟩, (w.onFactory id fun f => f.getOrCompile u method).2))
    (calling : u.compile method = .ok (.assemble u method) →
      Option.Rel related
        ((Thunk.assemble u method).invoke u (u.callVirtual depth) target arguments
          (start.onFactory id fun f => f.getOrCompile u method).2)
        ((Thunk.assemble u method).invoke u (u.callVirtual deeper) o arguments
          (w.onFactory id fun f => f.getOrCompile u method).2)) :
    Option.Rel related
      (u.invokeThrough (u.callVirtual depth) id method target arguments start)
      (u.invokeThrough (u.callVirtual deeper) id method o arguments w) := by
  have looked := (Factory.evolves_getOrCompile (alike.coherent id) method).1
  have lookedOther := (Factory.evolves_getOrCompile (alike.coherentOther id) method).1
  unfold invokeThrough
  cases compiled : u.compile method with
  | error fault =>
      rw [compiled] at looked lookedOther
      rw [u.invokeVia_error _ looked, u.invokeVia_error _ lookedOther]
      exact .some (failing fault)
  | ok thunk =>
      obtain rfl := u.eq_assemble_of_compile compiled
      rw [compiled] at looked lookedOther
      rw [u.invokeVia_ok _ looked, u.invokeVia_ok _ lookedOther]
      exact calling compiled

private theorem parallel_getOrCompile (alike : start.Alike u w) (id : FactoryId) (method : Method) :
    Parallel u start w (start.onFactory id fun f => f.getOrCompile u method).2
      (w.onFactory id fun f => f.getOrCompile u method).2 :=
  World.parallel_onFactory alike id
    (Factory.evolves_getOrCompile (alike.coherent id) method).2
    (Factory.evolves_getOrCompile (alike.coherentOther id) method).2

/-- A call through a factory, on a target and on a transparent proxy of it. -/
theorem screened_invokeThrough (alike : start.Alike u w) {o target : ObjectRef}
    {proxyType : ProxyType} {method : Method} {carried : Slot} {dispatch : Dispatch}
    {factory : FactoryId}
    (stored : w.proxy? o = some ⟨proxyType, some target, some transparent⟩)
    (found : u.require o.type method = .ok (.intercepted carried dispatch factory))
    (linked : dispatch.Linked u (w.factory factory) carried)
    (closed : method.generics.length = (u.signature carried).arity)
    (stands : u.compile method = .ok (.assemble u method) →
      u.StandsIn target ⟨carried, method.generics⟩ method)
    (assignable : u.isAssignable o.type method.parent = true)
    (reached : u.isAssignable target.type method.parent = true) (depth : Nat) (id : FactoryId)
    (arguments : List Value) :
    Option.Rel (u.ScreenedOutcome method arguments start w)
      (u.invokeThrough (u.callVirtual depth) id method target arguments start)
      (u.invokeThrough (u.callVirtual (depth + 1)) id method o arguments w) := by
  have parallel := parallel_getOrCompile alike id method
  apply rel_invokeThrough alike depth (depth + 1) id
  · exact fun fault => ⟨u.screened_error _ _ _ fault, parallel⟩
  · intro compiled
    have later := Dispatch.Linked.grow linked (parallel.growsOther.factories factory)
    exact rel_screened_trans parallel (screened_invoke parallel.alike stored found later closed
      (stands compiled) assignable reached depth arguments)

/-- A call through a factory, on a target and on a proxy that forwards it. -/
theorem sameOutcome_invokeThrough (alike : start.Alike u w) {o target : ObjectRef}
    {state : ProxyState} {method : Method} {carried : Slot} {factory : FactoryId}
    (stored : w.proxy? o = some state) (targeted : state.target = some target)
    (found : u.require o.type method = .ok (.passThrough carried factory))
    (body : u.require target.type carried.toMethod = u.require target.type method)
    (assignable : u.isAssignable o.type method.parent = true)
    (reached : u.isAssignable target.type method.parent = true) (depth : Nat) (id : FactoryId)
    (arguments : List Value) :
    Option.Rel (World.SameOutcome u start w)
      (u.invokeThrough (u.callVirtual depth) id method target arguments start)
      (u.invokeThrough (u.callVirtual (depth + 1)) id method o arguments w) := by
  have parallel := parallel_getOrCompile alike id method
  apply rel_invokeThrough alike depth (depth + 1) id
  · exact fun _ => ⟨rfl, parallel⟩
  · intro _
    exact World.rel_outcome_trans parallel (sameOutcome_invoke parallel.alike stored targeted
      found body assignable reached depth arguments)

end Proceeding

end Universe

namespace Session

/-- Two sessions that differ in nothing that a call can tell: they have the same
types, objects, names and journal, and their factories have right caches. -/
structure SameEffect (one two : Session) : Prop where
  types : one.types = two.types
  filters : one.filters = two.filters
  world : one.world.Alike one.types two.world

/-- What relates two runs in alike worlds relates the sessions that they leave. -/
theorem rel_running {α β : Type} {s : Session} {run : World → Option (α × World)}
    {runOther : World → Option (β × World)} {related : α → β → Prop}
    (ran : Option.Rel (fun one two => related one.1 two.1 ∧
      World.Parallel s.types s.world s.world one.2 two.2) (run s.world) (runOther s.world)) :
    Option.Rel (fun one two => related one.1 two.1 ∧ one.2.SameEffect two.2)
      (s.running run) (s.running runOther) := by
  unfold running
  generalize run s.world = one at ran
  generalize runOther s.world = two at ran
  cases ran with
  | none => exact .none
  | some same => exact .some ⟨same.1, rfl, rfl, same.2.alike⟩

/-- Calls of a method on two objects, of which the second nests one deeper, come to
an end alike, with related results and the same effect. -/
def Mirrors (s : Session) (method : Method) (target o : ObjectRef)
    (related : List Value → CallResult → CallResult → Prop) : Prop :=
  ∀ (depth : Nat) (id : FactoryId) (arguments : List Value),
    Option.Rel (fun direct proxied => related arguments direct.1 proxied.1 ∧
        direct.2.SameEffect proxied.2)
      (s.invoke depth id method target arguments)
      (s.invoke (depth + 1) id method o arguments)

variable {s : Session} {proxyType : ProxyType} {o target : ObjectRef} {method : Method}
  {dispatch : Dispatch} {factory : FactoryId}

/-- A call that comes to an end on the one object does so on the other. -/
theorem Mirrors.exists_proxied {related : List Value → CallResult → CallResult → Prop}
    (mirrors : s.Mirrors method target o related) {depth : Nat} {id : FactoryId}
    {arguments : List Value} {direct : CallResult × Session}
    (ran : s.invoke depth id method target arguments = some direct) :
    ∃ proxied, s.invoke (depth + 1) id method o arguments = some proxied ∧
      related arguments direct.1 proxied.1 ∧ direct.2.SameEffect proxied.2 := by
  have both := mirrors depth id arguments
  rw [ran] at both
  cases proxies : s.invoke (depth + 1) id method o arguments with
  | none =>
      rw [proxies] at both
      cases both
  | some proxied =>
      rw [proxies] at both
      obtain ⟨same, effect⟩ := Option.rel_some_some.mp both
      exact ⟨proxied, rfl, same, effect⟩

/-- What a call on the target returns comes back through an object that screens it, if
what it leaves of the arguments fits. -/
theorem Mirrors.delivered (mirrors : s.Mirrors method target o (s.types.Screened method))
    {depth : Nat} {id : FactoryId} {arguments left : List Value} {v : Value}
    (ends : (s.invoke depth id method target arguments).map (·.1) = some ⟨.ok v, left⟩)
    (fits : s.types.misfit? method (s.types.parameters method) left = none) :
    ∃ direct proxied, s.invoke depth id method target arguments = some direct ∧
      s.invoke (depth + 1) id method o arguments = some proxied ∧
      proxied.1 = ⟨.ok v, left⟩ ∧ direct.2.SameEffect proxied.2 := by
  obtain ⟨direct, ran, same⟩ := Option.map_eq_some_iff.mp ends
  obtain ⟨proxied, proxies, screened, effect⟩ := mirrors.exists_proxied ran
  rw [same] at screened
  exact ⟨direct, proxied, ran, proxies, screened.delivered v rfl fits, effect⟩

/-- A transparent proxy is faithful.  A call of a method that its type intercepts by
a body for this very method comes to an end exactly if the call on the target
does, nested one less deep, and has the same effect on everything but caches and
counters.  What the target returns comes back with what it left of the arguments
if that fits; a fault of the target, or else of the first misfit, comes back with
the arguments unchanged. -/
theorem transparent_proxy_faithful (reachable : Reachable s)
    (stored : s.world.proxy? o = some ⟨proxyType, some target, some transparent⟩)
    (ofType : o.type = proxyType.type)
    (held : (s.types.methodTable proxyType.type).find? method.slot =
      some (.intercepted method.slot dispatch factory))
    (closed : method.generics.length = (s.types.signature method.slot).arity)
    (assignable : s.types.isAssignable o.type method.parent = true)
    (reached : s.types.isAssignable target.type method.parent = true) :
    s.Mirrors method target o (s.types.Screened method) := by
  have sound := sound_of_reachable reachable
  have built := sound.proxies o _ stored
  obtain ⟨_, linked, _⟩ := sound.carrier built held
  have found : s.types.require o.type method = .ok (.intercepted method.slot dispatch factory) := by
    rw [ofType]
    exact s.types.require_of_find? held
  intro depth id arguments
  exact rel_running (Universe.screened_invokeThrough sound.alike stored found linked closed
    (fun compiled => .refl compiled reached) assignable reached depth id arguments)

/-- The position that the object counts to comes back through its proxy. -/
theorem transparent_proxy_faithful_advance :
    ∃ direct proxied,
      (standIn transparent).invoke 2 0 ⟨⟨2, 0⟩, []⟩ ⟨0, 2⟩ [.int32 7] = some direct ∧
      (standIn transparent).invoke 3 0 ⟨⟨2, 0⟩, []⟩ ⟨1, 3⟩ [.int32 7] = some proxied ∧
      proxied.1 = ⟨.ok (.int32 7), [.int32 8]⟩ ∧ direct.2.SameEffect proxied.2 := by
  have stored := proxy?_standIn transparent
  have held : ((standIn transparent).types.methodTable 3).find? ⟨2, 0⟩ =
      some (.intercepted ⟨2, 0⟩ (.direct 0) 0) := by with_unfolding_all rfl
  have closed : (Method.mk ⟨2, 0⟩ []).generics.length =
      ((standIn transparent).types.signature (Method.mk ⟨2, 0⟩ []).slot).arity := by
    with_unfolding_all rfl
  have assignable : (standIn transparent).types.isAssignable 3 2 = true := by with_unfolding_all rfl
  have reached : (standIn transparent).types.isAssignable 2 2 = true := by with_unfolding_all rfl
  have ends : ((standIn transparent).invoke 2 0 ⟨⟨2, 0⟩, []⟩ ⟨0, 2⟩ [.int32 7]).map (·.1) =
      some ⟨.ok (.int32 7), [.int32 8]⟩ := by with_unfolding_all rfl
  have fits : (standIn transparent).types.misfit? ⟨⟨2, 0⟩, []⟩
      ((standIn transparent).types.parameters ⟨⟨2, 0⟩, []⟩) [.int32 8] = none := by
    with_unfolding_all rfl
  exact (transparent_proxy_faithful (reachable_standIn transparent) stored rfl held closed
    assignable reached).delivered ends fits

end Session

end Interpose
