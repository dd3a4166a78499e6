/-
Module: Interpose.Proofs.Builds
Purpose: Which requests for a proxy type succeed, and what a request that fails leaves behind.
Main exports: Universe.Admits, Universe.Rejects, Universe.synthesize_admitted,
  Universe.synthesize_rejected, Session.build_exact_and_atomic
-/
import Interpose.Proofs.Reachability

namespace Interpose

namespace Universe

/-- A request is in order: the primary type is an interface or a class, the
supplementary types are interfaces, and every method that is collected has a
supported signature. -/
structure Admits (u : Universe) (descriptor : Descriptor) : Prop where
  primary : u.kind descriptor.primary = .interfaceType ∨ u.kind descriptor.primary = .classType
  supplementary : ∀ interface ∈ descriptor.interfaces, u.isInterface interface = true
  supported : ∀ target ∈ u.methodSet descriptor, u.checkSignature target.slot.toMethod = .ok ()

/-- A fault for which a request is turned down. -/
inductive Rejects (u : Universe) (descriptor : Descriptor) : Fault → Prop where
  | primary (kind : u.kind descriptor.primary = .proxyType) :
      Rejects u descriptor (.alreadyProxy descriptor.primary)
  | supplementary {other : TypeId} (requested : other ∈ descriptor.interfaces)
      (kind : u.isInterface other = false) : Rejects u descriptor (.notInterface other)
  | unsupported {target : Target} {fault : Fault} (member : target ∈ u.methodSet descriptor)
      (refused : u.checkSignature target.slot.toMethod = .error fault) :
      Rejects u descriptor fault

/-- A request that is in order is turned down for nothing. -/
theorem Admits.not_rejects {u : Universe} {descriptor : Descriptor} {fault : Fault}
    (admitted : u.Admits descriptor) : ¬ u.Rejects descriptor fault := by
  intro rejected
  cases rejected with
  | primary kind =>
      have other := admitted.primary
      rw [kind] at other
      rcases other with impossible | impossible <;> cases impossible
  | supplementary requested kind =>
      rw [admitted.supplementary _ requested] at kind
      cases kind
  | unsupported member refused =>
      rw [admitted.supported _ member] at refused
      cases refused

private theorem kind_ne_proxyType {kind : TypeKind} :
    kind ≠ .proxyType ↔ kind = .interfaceType ∨ kind = .classType := by
  cases kind <;> simp

private theorem admits_of_blueprint (u : Universe) {descriptor : Descriptor} {blueprint : Blueprint}
    (checked : u.blueprint descriptor = .ok blueprint) : u.Admits descriptor := by
  obtain ⟨primary, supplementary, supported, _⟩ := u.blueprint_ok checked
  exact ⟨kind_ne_proxyType.mp primary, supplementary, supported⟩

/-- A request is turned down for its primary type, for a supplementary type or for a method, and the
fault says which. -/
private theorem rejects_of_blueprint (u : Universe) {descriptor : Descriptor} {fault : Fault}
    (refused : u.blueprint descriptor = .error fault) : u.Rejects descriptor fault := by
  unfold Universe.blueprint at refused
  split at refused
  · rename_i kind
    obtain rfl := Except.error.inj refused
    exact .primary kind
  · split at refused
    · rename_i other found
      obtain rfl := Except.error.inj refused
      apply Rejects.supplementary (List.mem_of_find?_eq_some found)
      simpa using List.find?_some found
    · simp only [] at refused
      split at refused
      · rename_i reason found
        obtain rfl := Except.error.inj refused
        obtain ⟨target, member, failed⟩ := List.exists_of_findSome?_eq_some found
        apply Rejects.unsupported member
        cases outcome : u.checkSignature target.slot.toMethod with
        | ok _ => simp [outcome] at failed
        | error other =>
            rw [outcome] at failed
            exact congrArg Except.error (Option.some.inj failed)
      · cases refused

/-! ### A request that is in order -/

/-- A method with a supported signature has something to proceed to.  An eager
factory compiles it at once, and what passes the check compiles. -/
private theorem exists_proceedSlot (u : Universe) {f : Factory} (coherent : f.Coherent u)
    {slot : Slot} (supported : u.checkSignature slot.toMethod = .ok ()) :
    ∃ way after, u.proceedSlot slot f = (.ok way, after) := by
  unfold proceedSlot
  by_cases generic : u.isGeneric slot = true
  · rw [if_pos generic]
    exact ⟨_, _, rfl⟩
  · obtain ⟨evolved, _, sameMethod⟩ := Factory.evolves_thunkEntry coherent slot.toMethod
    rw [if_neg generic]
    generalize f.thunkEntry slot.toMethod = entered at evolved sameMethod
    obtain ⟨entry, between⟩ := entered
    simp only []
    split
    · have compiled := (Factory.evolves_entryThunk evolved.coherent entry).1
      have closed : u.isGenericDefinition slot.toMethod = false := by
        simp [isGenericDefinition, generic]
      rw [sameMethod, compile, supported] at compiled
      simp only [closed] at compiled
      cases outcome : between.entryThunk u entry with
      | mk result after =>
          rw [outcome] at compiled
          cases result with
          | error fault => cases compiled
          | ok shared => exact ⟨_, _, rfl⟩
    · exact ⟨_, _, rfl⟩

/-- A target with a supported signature is implemented. -/
private theorem exists_implementTarget (u : Universe) (factoryId : FactoryId)
    (descriptor : Descriptor) {target : Target} {draft : Draft} {declaration : TypeDeclaration}
    (coherent : draft.factory.Coherent u) (held : draft.declaration = some declaration)
    (supported : u.checkSignature target.slot.toMethod = .ok ()) :
    ∃ after, u.implementTarget factoryId descriptor target draft = (.ok (), after) := by
  unfold implementTarget
  generalize draft.names.fresh (u.memberName descriptor.primary target.slot) = supply
  obtain ⟨name, names⟩ := supply
  simp only []
  split
  · obtain ⟨⟨suffix, dispatch⟩, f, proceeds⟩ := u.exists_proceedSlot coherent supported
    rw [proceeds]
    exact ⟨_, Draft.declare_of_some held⟩
  · exact ⟨_, Draft.declare_of_some held⟩

/-- Targets with supported signatures are implemented one after the other: each
leaves a declaration and a coherent factory to the next. -/
theorem exists_implementTargets (u : Universe) (factoryId : FactoryId) (descriptor : Descriptor)
    {targets : List Target}
    (supported : ∀ target ∈ targets, u.checkSignature target.slot.toMethod = .ok ()) :
    ∀ {draft : Draft} {declaration : TypeDeclaration}, draft.factory.Coherent u →
      draft.declaration = some declaration →
      ∃ after, u.implementTargets factoryId descriptor targets draft = (.ok (), after) := by
  induction targets with
  | nil =>
      intro draft declaration _ _
      exact ⟨draft, rfl⟩
  | cons target rest inductionHypothesis =>
      intro draft declaration coherent held
      obtain ⟨between, done⟩ := u.exists_implementTarget factoryId descriptor coherent held
        (supported target List.mem_cons_self)
      obtain ⟨_, _, _, gains, evolves⟩ := u.implementTarget_ok done
      obtain ⟨extended, heldBetween, _⟩ := gains.declaration declaration held
      obtain ⟨after, others⟩ := inductionHypothesis
        (fun other member => supported other (List.mem_cons_of_mem _ member))
        (evolves coherent).1.coherent heldBetween
      refine ⟨after, ?_⟩
      unfold implementTargets
      rw [done]
      exact others

/-- From a coherent factory a request that is in order is never turned down: no
thunk fails to compile, no stage comes out of order, and the declaration is there
until the end. -/
theorem synthesize_admitted (u : Universe) (factoryId : FactoryId) {descriptor : Descriptor}
    {f : Factory} (coherent : f.Coherent u) (admitted : u.Admits descriptor) :
    ∃ later after,
      u.synthesize factoryId descriptor f = (.ok ⟨u.size, descriptor⟩, later, after) := by
  cases checked : u.blueprint descriptor with
  | error fault => exact absurd (u.rejects_of_blueprint checked) admitted.not_rejects
  | ok blueprint =>
      obtain ⟨_, _, supported, rfl⟩ := u.blueprint_ok checked
      have started : (opened ⟨u.proxyFrame descriptor, u.methodSet descriptor⟩ f).declaration =
          some (addCapability (u.proxyFrame descriptor)) := rfl
      obtain ⟨draft, done⟩ :=
        u.exists_implementTargets factoryId descriptor supported coherent started
      obtain ⟨declaration, _, made⟩ := u.synthesize_of_implemented checked done
      exact ⟨_, _, made⟩

/-- Whatever fails does so at the check, before anything was changed. -/
theorem synthesize_rejected (u : Universe) {factoryId : FactoryId} {descriptor : Descriptor}
    {f after : Factory} {fault : Fault} {later : Universe} (coherent : f.Coherent u)
    (failed : u.synthesize factoryId descriptor f = (.error fault, later, after)) :
    u.Rejects descriptor fault ∧ later = u ∧ after = f := by
  cases checked : u.blueprint descriptor with
  | error reason =>
      rw [u.synthesize_of_rejected factoryId f checked] at failed
      obtain ⟨same, rest⟩ := Prod.mk.inj failed
      obtain ⟨sameTypes, sameFactory⟩ := Prod.mk.inj rest
      obtain rfl := Except.error.inj same
      exact ⟨u.rejects_of_blueprint checked, sameTypes.symm, sameFactory.symm⟩
  | ok blueprint =>
      obtain ⟨_, _, made⟩ :=
        u.synthesize_admitted factoryId coherent (u.admits_of_blueprint checked)
      rw [made] at failed
      cases failed

/-- A request to the type cache that fails is counted as a miss, if the factory
caches proxy types, and does nothing else. -/
theorem proxyTypeFor_rejected (u : Universe) {factoryId : FactoryId} {descriptor : Descriptor}
    {f after : Factory} {fault : Fault} {later : Universe} (coherent : f.Coherent u)
    (failed : u.proxyTypeFor factoryId descriptor f = (.error fault, later, after)) :
    u.Rejects descriptor fault ∧ later = u ∧
      ∃ misses, after = { f with counters.proxyTypeMisses := misses } := by
  unfold proxyTypeFor at failed
  split at failed
  · unfold cachedProxyType at failed
    split at failed
    · cases failed
    · have missed : ({ f with
          counters.proxyTypeMisses := f.counters.proxyTypeMisses + 1 } : Factory).Coherent u :=
        coherent.of_same rfl rfl rfl
      simp only [] at failed
      split at failed
      · rename_i made
        obtain ⟨rejected, rfl, rfl⟩ := u.synthesize_rejected missed made
        obtain ⟨same, rest⟩ := Prod.mk.inj failed
        obtain ⟨sameTypes, sameFactory⟩ := Prod.mk.inj rest
        obtain rfl := Except.error.inj same
        exact ⟨rejected, sameTypes.symm, _, sameFactory.symm⟩
      · cases failed
  · obtain ⟨rejected, sameTypes, sameFactory⟩ := u.synthesize_rejected coherent failed
    exact ⟨rejected, sameTypes, f.counters.proxyTypeMisses, sameFactory⟩

end Universe

/-! ### Requests in a session -/

/-- Putting a factory in its own place changes nothing. -/
private theorem World.putFactory_factory (w : World) (id : FactoryId) :
    w.putFactory id (w.factory id) = w := by
  have same : w.factories.modify id (fun _ => w.factory id) = w.factories := by
    apply Array.ext
    · simp
    · intro other modified known
      rw [Array.getElem_modify]
      split
      · rename_i hit
        subst hit
        simp [World.factory, Array.getElem?_eq_getElem known]
      · rfl
  unfold World.putFactory
  rw [same]

namespace Session

variable {s : Session}

/-- A build succeeds exactly when it should, and fails atomically.  In every session
that can come about, and whatever the configuration of the factory, a new proxy
type is made exactly for the requests that are in order.  A request that fails
does so for what is wrong with it; the types are those of before, and so is
every factory, with its entries and their thunks, its caches and its counters,
but for the misses of the type cache.  Past the type cache nothing changes at all. -/
theorem build_exact_and_atomic (reachable : Reachable s) (id : FactoryId)
    (descriptor : Descriptor) :
    ((∃ proxyType, (s.requestProxyType id .fresh descriptor).1 = .ok proxyType) ↔
      s.types.Admits descriptor) ∧
    ∀ request fault, (s.requestProxyType id request descriptor).1 = .error fault →
      (request ≠ .lazyTargets → s.types.Rejects descriptor fault) ∧
      (s.requestProxyType id request descriptor).2.types = s.types ∧
      (∀ other, ∃ misses, (s.requestProxyType id request descriptor).2.world.factory other =
        { s.world.factory other with counters.proxyTypeMisses := misses }) ∧
      (request ≠ .cached → (s.requestProxyType id request descriptor).2 = s) := by
  have coherent := (sound_of_reachable reachable).coherent id
  have kept : ∀ other, ∃ misses, s.world.factory other =
      { s.world.factory other with counters.proxyTypeMisses := misses } :=
    fun other => ⟨_, rfl⟩
  constructor
  · constructor
    · rintro ⟨proxyType, made⟩
      cases checked : s.types.blueprint descriptor with
      | ok blueprint => exact s.types.admits_of_blueprint checked
      | error fault =>
          simp only [requestProxyType, s.types.synthesize_of_rejected id _ checked] at made
          cases made
    · intro admitted
      obtain ⟨later, after, made⟩ := s.types.synthesize_admitted id coherent admitted
      refine ⟨⟨s.types.size, descriptor⟩, ?_⟩
      simp only [requestProxyType, made]
  · intro request fault failed
    cases request with
    | lazyTargets => exact ⟨fun impossible => absurd rfl impossible, rfl, kept, fun _ => rfl⟩
    | fresh =>
        cases made : s.types.synthesize id descriptor (s.world.factory id) with
        | mk result rest =>
            obtain ⟨later, after⟩ := rest
            simp only [requestProxyType, made] at failed ⊢
            subst failed
            obtain ⟨rejected, rfl, rfl⟩ := s.types.synthesize_rejected coherent made
            rw [s.world.putFactory_factory]
            exact ⟨fun _ => rejected, rfl, kept, fun _ => rfl⟩
    | cached =>
        cases made : s.types.proxyTypeFor id descriptor (s.world.factory id) with
        | mk result rest =>
            obtain ⟨later, after⟩ := rest
            simp only [requestProxyType, made] at failed ⊢
            subst failed
            obtain ⟨rejected, rfl, misses, rfl⟩ := s.types.proxyTypeFor_rejected coherent made
            refine ⟨fun _ => rejected, rfl, ?_, fun impossible => absurd rfl impossible⟩
            intro other
            rw [World.factory_putFactory]
            split
            · rename_i hit
              obtain ⟨rfl, _⟩ := hit
              exact ⟨misses, rfl⟩
            · exact kept other

/-- An interface of two methods, of which the second takes variable arguments. -/
def mixedSignatures : TypeDeclaration :=
  ((TypeDeclaration.interface "IMixedSignatures").addMethod { name := "Good" } none).addMethod
    { name := "Bad", parameters := [⟨"format", .string, .input⟩],
      convention := .variableArguments } none

/-- One supported signature does not save the other, and leaves no entry behind. -/
theorem build_exact_and_atomic_mixedSignatures :
    (∀ proxyType, ((initial.define mixedSignatures).2.requestProxyType 0 .fresh
      ⟨2, [], .standard⟩).1 ≠ .ok proxyType) ∧
    ((initial.define mixedSignatures).2.requestProxyType 0 .cached ⟨2, [], .standard⟩).1 =
      .error (.unsupported ⟨⟨2, 1⟩, []⟩ .variableArguments) ∧
    (((initial.define mixedSignatures).2.requestProxyType 0 .cached
      ⟨2, [], .standard⟩).2.world.factory 0).entries = #[] := by
  have reachable : Reachable (initial.define mixedSignatures).2 := by
    refine .step .initial (.define mixedSignatures (by decide) ?_)
    intro body held
    cases held
  obtain ⟨exactly, atomic⟩ := build_exact_and_atomic reachable 0 ⟨2, [], .standard⟩
  have failed : ((initial.define mixedSignatures).2.requestProxyType 0 .cached
      ⟨2, [], .standard⟩).1 = .error (.unsupported ⟨⟨2, 1⟩, []⟩ .variableArguments) := by
    with_unfolding_all rfl
  obtain ⟨rejected, _, factories, _⟩ := atomic .cached _ failed
  refine ⟨?_, failed, ?_⟩
  · intro proxyType made
    exact (exactly.mp ⟨proxyType, made⟩).not_rejects (rejected nofun)
  · obtain ⟨misses, same⟩ := factories 0
    rw [same]
    rfl

end Session

end Interpose
