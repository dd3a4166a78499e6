/-
Module: Interpose.Proofs.PassThrough
Purpose: Methods that a proxy forwards: a call on the proxy is the call on its target.
Main exports: Universe.Forwards, Universe.Forwards.exists_body, Session.pass_through_exact
-/
import Interpose.Proofs.NestedCalls
import Interpose.Proofs.Transparency

namespace Interpose

namespace Universe

/-- A proxy type implements a method that its filter rejected when the type was made, and
the body that the type finds for the method was made for this very method. -/
def Forwards (u : Universe) (proxyType : ProxyType) (slot : Slot) : Prop :=
  (∃ before factoryId f later after,
    before.synthesize factoryId proxyType.descriptor f = (.ok proxyType, later, after) ∧
    later.Extends u ∧ (∃ target ∈ before.methodSet proxyType.descriptor, target.slot = slot) ∧
    proxyType.descriptor.filter.accepts before slot.toMethod = false) ∧
  ∃ body, u.resolve proxyType.type slot = some body ∧ body.carried? = some slot

/-- What a proxy type forwards it passes through as itself. -/
private theorem Forwards.exists_body {u : Universe} {proxyType : ProxyType} {slot : Slot}
    (forwards : u.Forwards proxyType slot) :
    ∃ factory, u.resolve proxyType.type slot = some (.passThrough slot factory) := by
  obtain ⟨type, descriptor⟩ := proxyType
  obtain ⟨⟨before, factoryId, f, later, after, made, extended, ⟨target, listed, rfl⟩, rejected⟩,
    body, resolved, carries⟩ := forwards
  obtain ⟨members, declaration, assembly, same, rfl, _⟩ := before.assembly_of_synthesize made
  cases same
  have defined := before.size_lt_size_define declaration
  -- Some member serves the method, and the table of the proxy type holds its body.
  rw [← assembly.targets] at listed
  obtain ⟨member, present, rfl⟩ := List.mem_map.mp listed
  obtain ⟨server, serving, _, given⟩ := assembly.exists_explicitBody ⟨member, present, .inl rfl⟩
  have other : member.target.slot.parent ≠ before.size :=
    Nat.ne_of_lt (before.lt_size_of_mem_slots (assembly.wellPlaced present).declared)
  have held : ((before.define declaration).methodTable before.size).find? member.target.slot =
      some server.body := by
    rw [find?_methodTable_inherited _ other, given]
    rfl
  rw [extended.resolve_eq _ defined, resolve_of_find? _ held] at resolved ⊢
  obtain rfl := Option.some.inj resolved
  rcases assembly.routed server serving with ⟨accepted, dispatch, body⟩ | ⟨_, body⟩
  · rw [body] at carries
    rw [Option.some.inj carries] at accepted
    cases rejected.symm.trans accepted
  · rw [body] at carries ⊢
    rw [Option.some.inj carries]
    exact ⟨factoryId, rfl⟩

end Universe

namespace Session

variable {s : Session} {state : ProxyState} {o target : ObjectRef} {method : Method}

/-- Forwarding is exact.  A method that a proxy type implements, that its filter rejected
and that the type serves by a body for this very method is called on a proxy as it is
called on the target, wherever the target finds a body for it: with any arguments, also
generic ones, the two calls come to an end alike, with the same result or fault, the same
arguments left, and the same effect on objects.  All that happens on the proxy itself is
that the call is counted and the frame goes to the target; whether there is an
interceptor makes no difference to that. -/
theorem pass_through_exact (occurs : s.Occurs) (stored : s.world.proxy? o = some state)
    (ofType : o.type = state.proxyType.type) (targeted : state.target = some target)
    (forwards : s.types.Forwards state.proxyType method.slot)
    (assignable : s.types.isAssignable o.type method.parent = true)
    (reached : s.types.isAssignable target.type method.parent = true)
    (resolved : (s.types.resolve target.type method.slot).isSome = true) :
    (s.Mirrors method target o fun _ direct proxied => direct = proxied) ∧
    ∃ factory, ∀ depth frame w held on, w.proxy? o = some held → held.target = some on →
      s.types.callVirtual (depth + 1) o method frame w =
        s.types.callVirtual depth on method.slot.toMethod frame
          (w.onFactory factory fun f => ((), f.countPassThrough)).2 := by
  obtain ⟨factory, served⟩ := forwards.exists_body
  have found : s.types.require o.type method = .ok (.passThrough method.slot factory) := by
    unfold Universe.require
    rw [ofType, served]
  obtain ⟨body, provided⟩ := Option.isSome_iff_exists.mp resolved
  have sameBody : s.types.require target.type method.slot.toMethod =
      s.types.require target.type method := by
    unfold Universe.require
    rw [provided]
    simp only [Slot.toMethod, provided]
  constructor
  · intro depth id arguments
    exact rel_running (Universe.sameOutcome_invokeThrough (sound_of_occurs occurs).alike stored
      targeted found sameBody assignable reached depth id arguments)
  · refine ⟨factory, ?_⟩
    intro depth frame w held on isProxy onTarget
    rw [Universe.callVirtual, Universe.dispatch, found]
    simp only [Universe.runBody, forward, isProxy, onTarget]

/-! ### A body that returns what does not fit -/

/-- A class whose method leaves and returns texts where numbers belong. -/
def mistaken : TypeDeclaration :=
  (TypeDeclaration.ofClass "Mistaken").addMethod advance (some (.native fun _ =>
    .ask (.store 0 (.string "late")) fun _ => .done (.ok (.string "late"))))

def mistakenStandIn : Session :=
  let (target, created) := (initial.define mistaken).2.create 2 "mistaken"
  (created.createProxy 0 ⟨2, [], nothing⟩ (some target)
    (.done (.ok (.int32 0)))).2

private theorem reachable_mistakenStandIn : Reachable mistakenStandIn := by
  have defined : Reachable (initial.define mistaken).2 :=
    .step .initial (.define mistaken (by decide) fun _ held => MethodBody.alike_of_mem_native held)
  have created := defined.step (.create 2 "mistaken")
  exact created.step (.createProxy 0 _ _ _ (by decide))

/-- The text comes back in the argument, through the proxy as from the target, and with
it the fault that the text is no number. -/
theorem pass_through_exact_mistaken :
    ∃ direct proxied,
      mistakenStandIn.invoke 2 0 ⟨⟨2, 0⟩, []⟩ ⟨0, 2⟩ [.int32 7] = some direct ∧
      mistakenStandIn.invoke 3 0 ⟨⟨2, 0⟩, []⟩ ⟨1, 3⟩ [.int32 7] = some proxied ∧
      proxied.1 = ⟨.error (.typeMismatch (.runtime .int32) (.runtime .string)),
        [.string "late"]⟩ ∧
      direct.2.SameEffect proxied.2 := by
  have stored : mistakenStandIn.world.proxy? ⟨1, 3⟩ =
      some ⟨⟨3, 2, [], nothing⟩, some ⟨0, 2⟩, some (.done (.ok (.int32 0)))⟩ := by
    with_unfolding_all rfl
  have resolves : (mistakenStandIn.types.resolve 3 ⟨2, 0⟩) = some (.passThrough ⟨2, 0⟩ 0) := by
    with_unfolding_all rfl
  have made : (initial.define mistaken).2.types.synthesize 0 ⟨2, [], nothing⟩ default =
      (.ok ⟨3, 2, [], nothing⟩, mistakenStandIn.types,
        ((initial.define mistaken).2.types.synthesize 0 ⟨2, [], nothing⟩ default).2.2) := by
    with_unfolding_all rfl
  have listed : (⟨⟨2, 0⟩, []⟩ : Target) ∈
      (initial.define mistaken).2.types.methodSet ⟨2, [], nothing⟩ := by
    decide +kernel
  have forwards : mistakenStandIn.types.Forwards ⟨3, 2, [], nothing⟩ ⟨2, 0⟩ :=
    ⟨⟨_, 0, default, _, _, made, .refl _, ⟨_, listed, rfl⟩, rfl⟩, _, resolves, rfl⟩
  have assignable : mistakenStandIn.types.isAssignable 3 2 = true := by with_unfolding_all rfl
  have reached : mistakenStandIn.types.isAssignable 2 2 = true := by with_unfolding_all rfl
  have resolved : (mistakenStandIn.types.resolve 2 ⟨2, 0⟩).isSome = true := by
    with_unfolding_all rfl
  have ends : (mistakenStandIn.invoke 2 0 ⟨⟨2, 0⟩, []⟩ ⟨0, 2⟩ [.int32 7]).map (·.1) =
      some ⟨.error (.typeMismatch (.runtime .int32) (.runtime .string)), [.string "late"]⟩ := by
    with_unfolding_all rfl
  obtain ⟨direct, ran, same⟩ := Option.map_eq_some_iff.mp ends
  have mirrors : mistakenStandIn.Mirrors ⟨⟨2, 0⟩, []⟩ ⟨0, 2⟩ ⟨1, 3⟩
      fun _ direct proxied => direct = proxied := (@pass_through_exact _ _ _ _ ⟨⟨2, 0⟩, []⟩
        (occurs_of_reachable reachable_mistakenStandIn) stored rfl rfl forwards assignable
        reached resolved).1
  obtain ⟨proxied, proxies, equal, effect⟩ := mirrors.exists_proxied ran
  exact ⟨direct, proxied, ran, proxies, equal.symm.trans same, effect⟩

end Session

end Interpose
