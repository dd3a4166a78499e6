/-
Module: Interpose.Proofs.SimulatedBuilds
Purpose: Relations of factories that the dispatches of single methods keep are kept by the
  synthesis of whole proxy types.
Main exports: Draft.Alike, Universe.Proceeds, Universe.related_synthesize,
  Universe.changes_synthesize
-/
import Interpose.Proofs.Builds
import Interpose.Proofs.FactoryChanges

namespace Interpose

/-- Two drafts that differ in their factories only, and these are related. -/
structure Draft.Alike (related : Factory → Factory → Prop) (draft other : Draft) : Prop where
  stage : draft.stage = other.stage
  declaration : draft.declaration = other.declaration
  names : draft.names = other.names
  factory : related draft.factory other.factory

/-- In related factories every supported method gets the same dispatch, and the factories
stay related. -/
def Universe.Proceeds (u : Universe) (related : Factory → Factory → Prop) : Prop :=
  ∀ slot f other, u.checkSignature slot.toMethod = .ok () → related f other →
    (u.proceedSlot slot f).1 = (u.proceedSlot slot other).1 ∧
      related (u.proceedSlot slot f).2 (u.proceedSlot slot other).2

/-- The same declaration is worked on in the same way. -/
theorem Draft.Alike.declare {related : Factory → Factory → Prop} {draft other : Draft}
    (alike : draft.Alike related other) (primary : TypeId)
    (change : TypeDeclaration → TypeDeclaration) :
    (draft.declare primary change).1 = (other.declare primary change).1 ∧
      (draft.declare primary change).2.Alike related (other.declare primary change).2 := by
  unfold Draft.declare
  rw [← alike.declaration]
  cases held : draft.declaration with
  | none => exact ⟨rfl, alike⟩
  | some declaration => exact ⟨rfl, alike.stage, rfl, alike.names, alike.factory⟩

namespace Universe

variable {u : Universe} {related : Factory → Factory → Prop} (proceeds : u.Proceeds related)

include proceeds

/-- A supported target is implemented alike in drafts that are alike. -/
private theorem alike_implementTarget (factoryId : FactoryId) (descriptor : Descriptor)
    {target : Target} (supported : u.checkSignature target.slot.toMethod = .ok ())
    {draft other : Draft}
    (alike : draft.Alike related other) :
    (u.implementTarget factoryId descriptor target draft).1 =
        (u.implementTarget factoryId descriptor target other).1 ∧
      (u.implementTarget factoryId descriptor target draft).2.Alike related
        (u.implementTarget factoryId descriptor target other).2 := by
  obtain ⟨stage, declaration, names, factory⟩ := alike
  unfold implementTarget
  rw [← names]
  generalize draft.names.fresh (u.memberName descriptor.primary target.slot) = supply
  obtain ⟨name, names⟩ := supply
  simp only []
  split
  · obtain ⟨way, still⟩ := proceeds target.slot draft.factory other.factory supported factory
    generalize u.proceedSlot target.slot draft.factory = one at way still
    generalize u.proceedSlot target.slot other.factory = two at way still
    obtain ⟨result, f⟩ := one
    obtain ⟨resultOther, g⟩ := two
    obtain rfl : result = resultOther := way
    cases result with
    | error fault => exact ⟨rfl, stage, declaration, rfl, still⟩
    | ok way =>
        have between : ({ draft with names := names, factory := f } : Draft).Alike related
            { other with names := names, factory := g } := ⟨stage, declaration, rfl, still⟩
        exact between.declare descriptor.primary _
  · have between : ({ draft with names := names } : Draft).Alike related
        { other with names := names } := ⟨stage, declaration, rfl, factory⟩
    exact between.declare descriptor.primary _

/-- So are all targets of a proxy type. -/
private theorem alike_implementTargets (factoryId : FactoryId) (descriptor : Descriptor)
    {targets : List Target}
    (supported : ∀ target ∈ targets, u.checkSignature target.slot.toMethod = .ok ()) :
    ∀ {draft other : Draft}, draft.Alike related other →
      (u.implementTargets factoryId descriptor targets draft).1 =
          (u.implementTargets factoryId descriptor targets other).1 ∧
        (u.implementTargets factoryId descriptor targets draft).2.Alike related
          (u.implementTargets factoryId descriptor targets other).2 := by
  induction targets with
  | nil => exact fun alike => ⟨rfl, alike⟩
  | cons target rest inductionHypothesis =>
      intro draft other alike
      obtain ⟨same, between⟩ := alike_implementTarget proceeds factoryId descriptor
        (supported target List.mem_cons_self) alike
      unfold implementTargets
      generalize u.implementTarget factoryId descriptor target draft = one at same between
      generalize u.implementTarget factoryId descriptor target other = two at same between
      obtain ⟨result, after⟩ := one
      obtain ⟨resultOther, afterOther⟩ := two
      obtain rfl : result = resultOther := same
      cases result with
      | error fault => exact ⟨rfl, between⟩
      | ok _ =>
          exact inductionHypothesis
            (fun later member => supported later (List.mem_cons_of_mem target member)) between

/-- In related factories the same proxy type is synthesized, or both requests are rejected
with the same fault and leave everything as it was. -/
theorem related_synthesize (factoryId : FactoryId) (descriptor : Descriptor)
    {f other : Factory} (start : related f other) (coherent : f.Coherent u)
    (coherentOther : other.Coherent u) :
    (∃ fault, u.synthesize factoryId descriptor f = (.error fault, u, f) ∧
        u.synthesize factoryId descriptor other = (.error fault, u, other)) ∨
      ∃ proxyType types after afterOther, related after afterOther ∧
        u.synthesize factoryId descriptor f = (.ok proxyType, types, after.countProxyTypeBuilt) ∧
        u.synthesize factoryId descriptor other =
          (.ok proxyType, types, afterOther.countProxyTypeBuilt) := by
  cases checked : u.blueprint descriptor with
  | error fault =>
      exact .inl ⟨fault, u.synthesize_of_rejected factoryId f checked,
        u.synthesize_of_rejected factoryId other checked⟩
  | ok blueprint =>
      obtain ⟨_, _, supported, targets⟩ := u.blueprint_ok checked
      have allSupported : ∀ target ∈ blueprint.targets,
          u.checkSignature target.slot.toMethod = .ok () := by
        rw [targets]
        exact supported
      have alike : (opened blueprint f).Alike related (opened blueprint other) :=
        ⟨rfl, rfl, rfl, start⟩
      obtain ⟨_, still⟩ := alike_implementTargets proceeds factoryId descriptor allSupported alike
      have implemented : ∀ g : Factory, g.Coherent u → ∃ after,
          u.implementTargets factoryId descriptor blueprint.targets (opened blueprint g) =
            (.ok (), after) :=
        fun g coherent =>
          u.exists_implementTargets factoryId descriptor allSupported coherent rfl
      obtain ⟨draft, done⟩ := implemented f coherent
      obtain ⟨draftOther, doneOther⟩ := implemented other coherentOther
      rw [done, doneOther] at still
      obtain ⟨declaration, held, made⟩ := u.synthesize_of_implemented checked done
      obtain ⟨declarationOther, heldOther, madeOther⟩ :=
        u.synthesize_of_implemented checked doneOther
      obtain rfl : declaration = declarationOther :=
        Option.some.inj (held.symm.trans (still.declaration.trans heldOther))
      exact .inr ⟨_, _, _, _, still.factory, made, madeOther⟩

omit proceeds

/-! ### What a synthesis changes -/

private theorem changes_proceedSlot {f : Factory} (coherent : f.Coherent u) (slot : Slot) :
    f.Changes u (u.proceedSlot slot f).2 := by
  unfold proceedSlot
  by_cases generic : u.isGeneric slot = true
  · rw [if_pos generic]
    exact Factory.changes_addSpecializationCache slot
  · obtain ⟨_, known, _⟩ := Factory.evolves_thunkEntry coherent slot.toMethod
    have entered : f.Changes u (f.thunkEntry slot.toMethod).2 :=
      Factory.changes_thunkEntry slot.toMethod
    rw [if_neg generic]
    generalize f.thunkEntry slot.toMethod = outcome at known entered
    obtain ⟨entry, between⟩ := outcome
    simp only []
    split
    · have compiled : between.Changes u (between.entryThunk u entry).2 :=
        Factory.changes_entryThunk known
      generalize between.entryThunk u entry = outcome at compiled
      obtain ⟨result, after⟩ := outcome
      cases result with
      | error fault => exact entered.trans compiled
      | ok shared => exact entered.trans compiled
    · exact entered

/-- A request for a proxy type is rejected and leaves the factory as it was, or the factory
changes and then counts the type. -/
theorem changes_synthesize (factoryId : FactoryId) (descriptor : Descriptor) {f : Factory}
    (coherent : f.Coherent u) :
    (∃ fault, u.synthesize factoryId descriptor f = (.error fault, u, f)) ∨
      ∃ proxyType types after, f.Changes u after ∧
        u.synthesize factoryId descriptor f =
          (.ok proxyType, types, after.countProxyTypeBuilt) := by
  have proceeds : u.Proceeds fun one two => two = one ∧ one.Coherent u ∧ f.Changes u one := by
    rintro slot one _ supported ⟨rfl, held, changes⟩
    exact ⟨rfl, rfl, (u.linked_proceedSlot held slot).1.coherent,
      changes.trans (changes_proceedSlot held slot)⟩
  have synthesized := related_synthesize proceeds factoryId descriptor
    ⟨rfl, coherent, .refl u f⟩ coherent coherent
  rcases synthesized with ⟨fault, rejected, _⟩ |
    ⟨proxyType, types, after, _, ⟨_, _, changes⟩, made, _⟩
  · exact .inl ⟨fault, rejected⟩
  · exact .inr ⟨proxyType, types, after, changes, made⟩

end Universe

end Interpose
