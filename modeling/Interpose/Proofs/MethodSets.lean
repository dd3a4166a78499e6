/-
Module: Interpose.Proofs.MethodSets
Purpose: Which methods the method set of a proxy holds, as targets or as overridden declarations.
Main exports: Target.Handles, Universe.WellPlaced, Universe.exists_handles_methodSet,
  Universe.wellPlaced_of_mem_methodSet
-/
import Interpose.Proofs.MethodTables
import Interpose.Proxy.MethodSet

namespace Interpose

/-- A target stands for its own method and for those that it overrides. -/
def Target.Handles (target : Target) (slot : Slot) : Prop :=
  slot = target.slot ∨ slot ∈ target.overridden

namespace Universe

/-- A target that a proxy of a primary type may have: it and what it overrides
are declared methods that proxies implement, and what it overrides is of its
shape and declared no lower on the chain of the primary type. -/
structure WellPlaced (u : Universe) (primary : TypeId) (target : Target) : Prop where
  proxyable : u.isProxyable target.slot = true
  declared : target.slot ∈ u.slots target.slot.parent
  overrides : ∀ slot ∈ target.overridden,
    u.isProxyable slot = true ∧ slot ∈ u.slots slot.parent ∧
      (u.signature target.slot).agrees (u.signature slot) = true ∧
      target.slot.parent ∈ u.chain primary ∧ slot.parent ∈ u.chain target.slot.parent

/-! ### Adding methods without absorption -/

/-- A target that is there after a method was added was there before, or is the method with nothing
overridden. -/
private theorem mem_addTarget (u : Universe) {targets : List Target} {slot : Slot} {target : Target}
    (member : target ∈ u.addTarget targets slot) :
    target ∈ targets ∨ (u.isProxyable slot = true ∧ target = ⟨slot, []⟩) := by
  unfold addTarget at member
  split at member
  · rename_i added
    rcases List.mem_append.mp member with old | new
    · exact .inl old
    · have proxyable := (Bool.and_eq_true_iff.mp added).1
      exact .inr ⟨proxyable, List.mem_singleton.mp new⟩
  · exact .inl member

private theorem kept_addTarget (u : Universe) {targets : List Target} (slot : Slot)
    {target : Target} (member : target ∈ targets) : target ∈ u.addTarget targets slot := by
  unfold addTarget
  split
  · exact List.mem_append_left _ member
  · exact member

/-- A method that proxies implement is a target after it was added. -/
private theorem exists_addTarget (u : Universe) (targets : List Target) {slot : Slot}
    (proxyable : u.isProxyable slot = true) :
    ∃ target ∈ u.addTarget targets slot, target.slot = slot := by
  unfold addTarget
  by_cases known : targets.any (·.slot == slot) = true
  · obtain ⟨target, member, same⟩ := List.any_eq_true.mp known
    refine ⟨target, ?_, eq_of_beq same⟩
    simpa [proxyable, known] using member
  · refine ⟨⟨slot, []⟩, ?_, rfl⟩
    simp [proxyable, known]

/-- Targets that are there after methods were added were there before, or are some of the methods
with nothing overridden. -/
private theorem mem_addTargets (u : Universe) {slots : List Slot} {target : Target} :
    ∀ {targets : List Target}, target ∈ u.addTargets targets slots →
      target ∈ targets ∨
        (u.isProxyable target.slot = true ∧ target.slot ∈ slots ∧ target.overridden = []) := by
  induction slots with
  | nil => exact fun member => .inl member
  | cons slot rest inductionHypothesis =>
      intro targets member
      rcases inductionHypothesis member with early | ⟨proxyable, listed, bare⟩
      · rcases u.mem_addTarget early with old | ⟨proxyable, rfl⟩
        · exact .inl old
        · exact .inr ⟨proxyable, List.mem_cons_self, rfl⟩
      · exact .inr ⟨proxyable, List.mem_cons_of_mem slot listed, bare⟩

private theorem kept_addTargets (u : Universe) (slots : List Slot) {target : Target} :
    ∀ {targets : List Target}, target ∈ targets → target ∈ u.addTargets targets slots := by
  induction slots with
  | nil => exact fun member => member
  | cons slot rest inductionHypothesis =>
      exact fun member => inductionHypothesis (u.kept_addTarget slot member)

/-- Methods that proxies implement are targets after they were added. -/
private theorem exists_addTargets (u : Universe) {slots : List Slot} {slot : Slot}
    (listed : slot ∈ slots) (proxyable : u.isProxyable slot = true) (targets : List Target) :
    ∃ target ∈ u.addTargets targets slots, target.slot = slot := by
  induction slots generalizing targets with
  | nil => cases listed
  | cons head rest inductionHypothesis =>
      rcases List.mem_cons.mp listed with rfl | later
      · obtain ⟨target, member, same⟩ := u.exists_addTarget targets proxyable
        exact ⟨target, u.kept_addTargets rest member, same⟩
      · exact inductionHypothesis later (u.addTarget targets head)

/-! ### Absorption along a chain -/

/-- A declaration becomes a target of its own or is absorbed by one of its shape. -/
private theorem mem_addDeclaration (u : Universe) {slot : Slot} {target : Target} :
    ∀ {targets : List Target}, target ∈ u.addDeclaration targets slot →
      target ∈ targets ∨ target = ⟨slot, []⟩ ∨
        ∃ absorbing ∈ targets, (u.signature absorbing.slot).agrees (u.signature slot) = true ∧
          target = { absorbing with overridden := absorbing.overridden ++ [slot] } := by
  intro targets
  induction targets with
  | nil =>
      intro member
      exact .inr (.inl (List.mem_singleton.mp member))
  | cons head rest inductionHypothesis =>
      intro member
      unfold addDeclaration at member
      split at member
      · rename_i shape
        rcases List.mem_cons.mp member with rfl | old
        · exact .inr (.inr ⟨head, List.mem_cons_self, shape, rfl⟩)
        · exact .inl (List.mem_cons_of_mem head old)
      · rcases List.mem_cons.mp member with rfl | later
        · exact .inl List.mem_cons_self
        · rcases inductionHypothesis later with old | new | ⟨absorbing, old, shape, rfl⟩
          · exact .inl (List.mem_cons_of_mem head old)
          · exact .inr (.inl new)
          · exact .inr (.inr ⟨absorbing, List.mem_cons_of_mem head old, shape, rfl⟩)

/-- A declaration is handled after it was added, by a target of its own or by one that absorbs it.
-/
private theorem exists_handles_addDeclaration (u : Universe) (targets : List Target) (slot : Slot) :
    ∃ target ∈ u.addDeclaration targets slot, target.Handles slot := by
  induction targets with
  | nil => exact ⟨⟨slot, []⟩, List.mem_cons_self, .inl rfl⟩
  | cons head rest inductionHypothesis =>
      unfold addDeclaration
      split
      · exact ⟨_, List.mem_cons_self, .inr (List.mem_append_right _ (List.mem_singleton_self slot))⟩
      · obtain ⟨target, member, handles⟩ := inductionHypothesis
        exact ⟨target, List.mem_cons_of_mem head member, handles⟩

/-- What a target handles stays handled when another declaration is added. -/
private theorem handles_addDeclaration (u : Universe) (added : Slot) {slot : Slot}
    {targets : List Target} (handled : ∃ target ∈ targets, target.Handles slot) :
    ∃ target ∈ u.addDeclaration targets added, target.Handles slot := by
  induction targets with
  | nil => obtain ⟨target, member, _⟩ := handled; cases member
  | cons head rest inductionHypothesis =>
      obtain ⟨target, member, handles⟩ := handled
      unfold addDeclaration
      split
      · rcases List.mem_cons.mp member with rfl | later
        · refine ⟨_, List.mem_cons_self, ?_⟩
          rcases handles with same | absorbed
          · exact .inl same
          · exact .inr (List.mem_append_left _ absorbed)
        · exact ⟨target, List.mem_cons_of_mem _ later, handles⟩
      · rcases List.mem_cons.mp member with rfl | later
        · exact ⟨target, List.mem_cons_self, handles⟩
        · obtain ⟨found, present, stands⟩ := inductionHypothesis ⟨target, later, handles⟩
          exact ⟨found, List.mem_cons_of_mem head present, stands⟩

/-- Declarations are handled after they were added, and what was handled before still is. -/
private theorem exists_handles_addDeclarations (u : Universe) {slots : List Slot} {slot : Slot} :
    ∀ {targets : List Target}, slot ∈ slots ∨ (∃ target ∈ targets, target.Handles slot) →
      ∃ target ∈ slots.foldl u.addDeclaration targets, target.Handles slot := by
  induction slots with
  | nil =>
      rintro targets (listed | handled)
      · cases listed
      · exact handled
  | cons head rest inductionHypothesis =>
      rintro targets (listed | handled)
      · rcases List.mem_cons.mp listed with rfl | later
        · exact inductionHypothesis (.inr (u.exists_handles_addDeclaration targets slot))
        · exact inductionHypothesis (.inl later)
      · exact inductionHypothesis (.inr (u.handles_addDeclaration head handled))

/-- Along a list whose later slots are placed no lower than earlier ones, every
target stays above what it absorbs.  The invariant relates the targets so far to
the slots that are still to come. -/
theorem wellPlaced_addDeclarations (u : Universe) {primary : TypeId} {slots : List Slot}
    (sound : ∀ slot ∈ slots, u.isProxyable slot = true ∧ slot ∈ u.slots slot.parent ∧
      slot.parent ∈ u.chain primary)
    (ordered : slots.Pairwise fun one other => other.parent ∈ u.chain one.parent) :
    ∀ {targets : List Target},
      (∀ target ∈ targets, u.WellPlaced primary target ∧ target.slot.parent ∈ u.chain primary ∧
        ∀ slot ∈ slots, slot.parent ∈ u.chain target.slot.parent) →
      ∀ target ∈ slots.foldl u.addDeclaration targets, u.WellPlaced primary target := by
  induction slots with
  | nil => exact fun placed target member => (placed target member).1
  | cons head rest inductionHypothesis =>
      intro targets placed
      obtain ⟨below, orderedRest⟩ := List.pairwise_cons.mp ordered
      obtain ⟨proxyable, declared, onChain⟩ := sound head List.mem_cons_self
      refine inductionHypothesis
        (fun slot member => sound slot (List.mem_cons_of_mem head member)) orderedRest ?_
      intro target member
      rcases u.mem_addDeclaration member with old | rfl | ⟨absorbing, old, shape, rfl⟩
      · obtain ⟨well, above, later⟩ := placed target old
        exact ⟨well, above, fun slot listed => later slot (List.mem_cons_of_mem head listed)⟩
      · refine ⟨⟨proxyable, declared, ?_⟩, onChain, below⟩
        intro slot none
        cases none
      · obtain ⟨well, above, later⟩ := placed absorbing old
        refine ⟨⟨well.proxyable, well.declared, ?_⟩, above,
          fun slot listed => later slot (List.mem_cons_of_mem head listed)⟩
        intro slot absorbed
        rcases List.mem_append.mp absorbed with before | new
        · exact well.overrides slot before
        · obtain rfl := List.mem_singleton.mp new
          exact ⟨proxyable, declared, shape, above, later slot List.mem_cons_self⟩

/-- The methods along a chain come in the order of their declaring types. -/
theorem pairwise_chain_slots (u : Universe) (id : TypeId) :
    (((u.chain id).flatMap u.slots).filter u.isProxyable).Pairwise
      fun one other => other.parent ∈ u.chain one.parent := by
  apply List.Pairwise.filter
  rw [List.pairwise_flatMap]
  refine ⟨?_, (u.pairwise_chain id).imp ?_⟩
  · intro type _
    apply List.pairwise_of_forall_mem_list
    intro one oneMember other otherMember
    rw [u.parent_of_mem_slots oneMember, u.parent_of_mem_slots otherMember]
    exact u.mem_chain_self type
  · rintro one other ⟨reaches, _⟩ first firstMember second secondMember
    rw [u.parent_of_mem_slots firstMember, u.parent_of_mem_slots secondMember]
    exact reaches

/-! ### The method set -/

/-- A target that overrides nothing may stand anywhere. -/
private theorem wellPlaced_of_bare (u : Universe) (primary : TypeId) {target : Target}
    (proxyable : u.isProxyable target.slot = true)
    (declared : target.slot ∈ u.slots target.slot.parent) (bare : target.overridden = []) :
    u.WellPlaced primary target where
  proxyable := proxyable
  declared := declared
  overrides := by
    rw [bare]
    intro slot none
    cases none

private theorem wellPlaced_of_mem_addTargets (u : Universe) {primary : TypeId} (types : List TypeId)
    {slots : List Slot} (declaredBy : ∀ slot ∈ slots, slot ∈ types.flatMap u.slots)
    {targets : List Target} (placed : ∀ target ∈ targets, u.WellPlaced primary target) :
    ∀ target ∈ u.addTargets targets slots, u.WellPlaced primary target := by
  intro target member
  rcases u.mem_addTargets member with old | ⟨proxyable, listed, bare⟩
  · exact placed target old
  · obtain ⟨type, _, declared⟩ := List.mem_flatMap.mp (declaredBy _ listed)
    have home := u.parent_of_mem_slots declared
    rw [← home] at declared
    exact u.wellPlaced_of_bare primary proxyable declared bare

/-- The targets of a primary type may stand where they do: they are declared on its chain and
override what is above them. -/
theorem wellPlaced_of_mem_primaryTargets (u : Universe) {primary : TypeId} :
    ∀ target ∈ u.primaryTargets primary, u.WellPlaced primary target := by
  unfold primaryTargets
  split
  · apply u.wellPlaced_of_mem_addTargets [primary]
    · intro slot declared
      simpa using declared
    · intro target none
      cases none
  · refine u.wellPlaced_addDeclarations ?_ (u.pairwise_chain_slots primary) ?_
    · intro slot member
      obtain ⟨listed, proxyable⟩ := List.mem_filter.mp member
      obtain ⟨type, onChain, declared⟩ := List.mem_flatMap.mp listed
      obtain rfl := u.parent_of_mem_slots declared
      exact ⟨proxyable, declared, onChain⟩
    · intro target none
      cases none

/-- Every target is a declared method and overrides only declarations of its
shape that are placed no lower. -/
theorem wellPlaced_of_mem_methodSet (u : Universe) (descriptor : Descriptor) :
    ∀ target ∈ u.methodSet descriptor, u.WellPlaced descriptor.primary target := by
  unfold methodSet
  apply u.wellPlaced_of_mem_addTargets [objectType]
  · intro slot member
    simpa using (List.mem_filter.mp member).1
  · exact u.wellPlaced_of_mem_addTargets _ (fun _ listed => listed)
      u.wellPlaced_of_mem_primaryTargets

/-- The types whose methods a proxy has to implement. -/
def Covers (u : Universe) (descriptor : Descriptor) (type : TypeId) : Prop :=
  type = descriptor.primary ∨
    (u.isInterface descriptor.primary = false ∧ type ∈ u.chain descriptor.primary) ∨
    type ∈ u.allInterfaces descriptor.primary ∨
    (∃ interface ∈ descriptor.interfaces, type ∈ u.withInterfaces interface) ∨
    type = objectType

/-- Every method of a primary type, or of a class that it extends, is handled by one of its targets.
-/
private theorem exists_handles_primaryTargets (u : Universe) {primary : TypeId} {slot : Slot}
    (proxyable : u.isProxyable slot = true) (declared : slot ∈ u.slots slot.parent)
    (home : slot.parent = primary ∨
      (u.isInterface primary = false ∧ slot.parent ∈ u.chain primary)) :
    ∃ target ∈ u.primaryTargets primary, target.Handles slot := by
  unfold primaryTargets
  split
  · rename_i isInterface
    rcases home with rfl | ⟨isClass, _⟩
    · obtain ⟨target, member, same⟩ := u.exists_addTargets declared proxyable []
      exact ⟨target, member, .inl same.symm⟩
    · rw [isClass] at isInterface
      cases isInterface
  · apply u.exists_handles_addDeclarations
    refine .inl (List.mem_filter.mpr ⟨List.mem_flatMap.mpr ⟨slot.parent, ?_, declared⟩, proxyable⟩)
    rcases home with rfl | ⟨_, onChain⟩
    · exact u.mem_chain_self _
    · exact onChain

/-- No method that a proxy has to implement is left out of its method set. -/
theorem exists_handles_methodSet (u : Universe) (descriptor : Descriptor) {slot : Slot}
    (proxyable : u.isProxyable slot = true) (declared : slot ∈ u.slots slot.parent)
    (covered : u.Covers descriptor slot.parent) :
    ∃ target ∈ u.methodSet descriptor, target.Handles slot := by
  -- Targets found early stay targets to the end.
  have early : (∃ target ∈ u.primaryTargets descriptor.primary, target.Handles slot) →
      ∃ target ∈ u.methodSet descriptor, target.Handles slot := by
    rintro ⟨target, member, handles⟩
    exact ⟨target, u.kept_addTargets _ (u.kept_addTargets _ member), handles⟩
  have middle : slot.parent ∈ u.allInterfaces descriptor.primary ++
        descriptor.interfaces.flatMap u.withInterfaces →
      ∃ target ∈ u.methodSet descriptor, target.Handles slot := by
    intro listed
    obtain ⟨target, member, same⟩ := u.exists_addTargets
      (List.mem_flatMap.mpr ⟨slot.parent, listed, declared⟩) proxyable
      (u.primaryTargets descriptor.primary)
    exact ⟨target, u.kept_addTargets _ member, .inl same.symm⟩
  rcases covered with own | ⟨isClass, onChain⟩ | listed | ⟨interface, requested, listed⟩ | universal
  · exact early (u.exists_handles_primaryTargets proxyable declared (.inl own))
  · exact early (u.exists_handles_primaryTargets proxyable declared (.inr ⟨isClass, onChain⟩))
  · exact middle (List.mem_append_left _ listed)
  · exact middle (List.mem_append_right _ (List.mem_flatMap.mpr ⟨interface, requested, listed⟩))
  · -- A member of the universal base type that nothing overrides is added last.
    unfold methodSet
    simp only []
    generalize u.addTargets (u.primaryTargets descriptor.primary) _ = targets
    by_cases absorbed : slot ∈ targets.flatMap (·.overridden)
    · obtain ⟨target, member, overridden⟩ := List.mem_flatMap.mp absorbed
      exact ⟨target, u.kept_addTargets _ member, .inr overridden⟩
    · rw [universal] at declared
      have remaining : slot ∈ (u.slots objectType).filter
          fun slot => !(targets.flatMap (·.overridden)).contains slot :=
        List.mem_filter.mpr ⟨declared, by simpa using absorbed⟩
      obtain ⟨target, member, same⟩ := u.exists_addTargets remaining proxyable targets
      exact ⟨target, member, .inl same.symm⟩

end Universe

end Interpose
