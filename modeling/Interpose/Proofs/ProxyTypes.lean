/-
Module: Interpose.Proofs.ProxyTypes
Purpose: What the method table of a synthesized proxy type holds, and for which methods.
Main exports: Universe.Assembly, Universe.synthesize_eq_ok, Universe.assembly_of_synthesize,
  Universe.Assembly.explicitBody_eq, Universe.Assembly.carrier_of_find?,
  Universe.Assembly.exists_member_of_assignable
-/
import Interpose.Proofs.Members

namespace Interpose.Universe

/-- A proxy type as it is assembled: the request is in order, and the declaration
has one member for each target of the method set and nothing else that could
serve a call. -/
structure Assembly (u : Universe) (factoryId : FactoryId) (descriptor : Descriptor)
    (members : List Member) (declaration : TypeDeclaration) : Prop where
  primary_kind : u.kind descriptor.primary ≠ .proxyType
  supplementary : ∀ interface ∈ descriptor.interfaces, u.isInterface interface = true
  targets : members.map (·.target) = u.methodSet descriptor
  supported : ∀ member ∈ members, u.checkSignature member.target.slot.toMethod = .ok ()
  routed : ∀ member ∈ members, member.Routed u factoryId descriptor.filter
  kind : declaration.kind = .proxyType
  base : declaration.base = some (u.proxyBase descriptor.primary)
  interfaces : ∀ listed, listed ∈ declaration.interfaces ↔
    (listed = descriptor.primary ∧ u.isInterface descriptor.primary = true) ∨
      listed ∈ descriptor.interfaces ∨ listed = proxyCapability
  methods : declaration.methods = members.map (·.method u)
  implementations : declaration.implementations =
    [(Universal.accessorSlot .get, .accessor .get),
      (Universal.accessorSlot .set, .accessor .set)] ++
      members.flatMap (·.implementations)

/-! ### The frame of a proxy type -/

private theorem mem_interfaces_implementing {declaration : TypeDeclaration}
    {added listed : TypeId} :
    listed ∈ (declaration.implementing added).interfaces ↔
      listed ∈ declaration.interfaces ∨ listed = added := by
  unfold TypeDeclaration.implementing
  by_cases known : added ∈ declaration.interfaces
  · simp only [List.contains_iff_mem, known, if_true]
    constructor
    · exact .inl
    · rintro (old | rfl)
      · exact old
      · exact known
  · simp [known]

theorem same_implementing (declaration : TypeDeclaration) (added : TypeId) :
    (declaration.implementing added).kind = declaration.kind ∧
      (declaration.implementing added).base = declaration.base ∧
      (declaration.implementing added).methods = declaration.methods ∧
      (declaration.implementing added).implementations = declaration.implementations := by
  unfold TypeDeclaration.implementing
  split <;> exact ⟨rfl, rfl, rfl, rfl⟩

/-- Implementing several types adds these to the interfaces and changes nothing else. -/
private theorem foldl_implementing (interfaces : List TypeId) :
    ∀ declaration : TypeDeclaration,
      let listed := interfaces.foldl TypeDeclaration.implementing declaration
      listed.kind = declaration.kind ∧ listed.base = declaration.base ∧
        listed.methods = declaration.methods ∧
        listed.implementations = declaration.implementations ∧
        ∀ id, id ∈ listed.interfaces ↔ id ∈ declaration.interfaces ∨ id ∈ interfaces := by
  induction interfaces with
  | nil => simp
  | cons added rest inductionHypothesis =>
      intro declaration
      obtain ⟨kind, base, methods, implementations, interfaces⟩ :=
        inductionHypothesis (declaration.implementing added)
      obtain ⟨sameKind, sameBase, sameMethods, sameImplementations⟩ :=
        same_implementing declaration added
      refine ⟨kind.trans sameKind, base.trans sameBase, methods.trans sameMethods,
        implementations.trans sameImplementations, ?_⟩
      intro id
      rw [List.foldl_cons, interfaces, mem_interfaces_implementing, List.mem_cons, or_assoc]

/-- The frame of a proxy type has no member yet. -/
theorem proxyFrame_spec (u : Universe) (descriptor : Descriptor) :
    (u.proxyFrame descriptor).kind = .proxyType ∧
      (u.proxyFrame descriptor).base = some (u.proxyBase descriptor.primary) ∧
      (u.proxyFrame descriptor).methods = [] ∧
      (u.proxyFrame descriptor).implementations = [] ∧
      ∀ listed, listed ∈ (u.proxyFrame descriptor).interfaces ↔
        (listed = descriptor.primary ∧ u.isInterface descriptor.primary = true) ∨
          listed ∈ descriptor.interfaces := by
  unfold proxyFrame
  by_cases isInterface : u.isInterface descriptor.primary = true
  · obtain ⟨kind, base, methods, implementations, interfaces⟩ :=
      foldl_implementing descriptor.interfaces
        ((TypeDeclaration.proxy (u.name descriptor.primary ++ "Proxy")
          (u.proxyBase descriptor.primary)).implementing descriptor.primary)
    simp only [isInterface, if_true]
    refine ⟨kind, base, methods, implementations, ?_⟩
    intro listed
    apply (interfaces listed).trans
    rw [mem_interfaces_implementing]
    simp [TypeDeclaration.proxy, TypeDeclaration.bare]
  · obtain ⟨kind, base, methods, implementations, interfaces⟩ :=
      foldl_implementing descriptor.interfaces
        (TypeDeclaration.proxy (u.name descriptor.primary ++ "Proxy")
          (u.proxyBase descriptor.primary))
    simp only [isInterface]
    refine ⟨kind, base, methods, implementations, ?_⟩
    intro listed
    apply (interfaces listed).trans
    simp [TypeDeclaration.proxy, TypeDeclaration.bare]

/-- A request that is in order has a primary type that is no proxy type, supplementary types that
are interfaces, and supported methods only; the rest is told by its frame and its method set. -/
theorem blueprint_ok (u : Universe) {descriptor : Descriptor} {blueprint : Blueprint}
    (checked : u.blueprint descriptor = .ok blueprint) :
    u.kind descriptor.primary ≠ .proxyType ∧
      (∀ interface ∈ descriptor.interfaces, u.isInterface interface = true) ∧
      (∀ target ∈ u.methodSet descriptor, u.checkSignature target.slot.toMethod = .ok ()) ∧
      blueprint = ⟨u.proxyFrame descriptor, u.methodSet descriptor⟩ := by
  unfold Universe.blueprint at checked
  split at checked
  · cases checked
  · rename_i kind
    split at checked
    · cases checked
    · rename_i interfaces
      simp only [] at checked
      split at checked
      · cases checked
      · rename_i supported
        refine ⟨kind, ?_, ?_, (Except.ok.inj checked).symm⟩
        · intro interface listed
          simpa using List.find?_eq_none.mp interfaces interface listed
        · intro target member
          have passed := List.findSome?_eq_none_iff.mp supported target member
          cases outcome : u.checkSignature target.slot.toMethod with
          | ok _ => rfl
          | error fault => simp [outcome] at passed

/-! ### The stages of a construction -/

private theorem findMethod_proxyCapability (u : Universe) :
    u.findMethod proxyCapability "get_Target" = some (Universal.accessorSlot .get) ∧
      u.findMethod proxyCapability "set_Target" = some (Universal.accessorSlot .set) := by
  unfold findMethod declaration
  rw [u.proxyCapability_declared]
  exact ⟨rfl, rfl⟩

/-- A declaration with the proxy capability interface implemented. -/
def addCapability (declaration : TypeDeclaration) : TypeDeclaration :=
  ((declaration.implementing proxyCapability).implement
    (Universal.accessorSlot .get) (.accessor .get)).implement
    (Universal.accessorSlot .set) (.accessor .set)

/-- The draft of a request that is in order, before its methods are implemented. -/
def opened (blueprint : Blueprint) (f : Factory) : Draft :=
  ⟨.contractImplemented, some (addCapability blueprint.declaration), .empty, f⟩

/-- The proxy capability interface is always there to be implemented. -/
private theorem implementCapability_eq (u : Universe) (primary : TypeId) {draft : Draft}
    {declaration : TypeDeclaration} (stage : draft.stage = .contextBuilt)
    (held : draft.declaration = some declaration) :
    u.implementCapability primary draft =
      (.ok (), { draft with
        stage := .contractImplemented, declaration := some (addCapability declaration) }) := by
  obtain ⟨getter, setter⟩ := u.findMethod_proxyCapability
  simp [implementCapability, implementAccessor, getter, setter, Draft.declare, Draft.advance,
    stage, held, addCapability]

/-- A request that is in order comes as far as its methods, and from there to the
end when they are implemented. -/
private theorem construct_of_blueprint (u : Universe) (factoryId : FactoryId)
    {descriptor : Descriptor} {blueprint : Blueprint} (f : Factory)
    (checked : u.blueprint descriptor = .ok blueprint) :
    u.construct factoryId descriptor (.start f) =
      (u.implementMethods factoryId descriptor blueprint.targets (opened blueprint f)).andThen
        (Draft.advance descriptor.primary .methodsImplemented .finalized) := by
  have started : Draft.advance descriptor.primary .uninitialized .contextBuilt
      { Draft.start f with declaration := some blueprint.declaration } =
      (.ok (), ⟨.contextBuilt, some blueprint.declaration, .empty, f⟩) :=
    Draft.advance_of_stage rfl
  have capable : u.implementCapability descriptor.primary
      ⟨.contextBuilt, some blueprint.declaration, .empty, f⟩ = (.ok (), opened blueprint f) :=
    u.implementCapability_eq descriptor.primary rfl rfl
  simp only [construct, checked, started, capable, Draft.Outcome.andThen_ok]

/-- A request that is not in order ends at once. -/
theorem synthesize_of_rejected (u : Universe) (factoryId : FactoryId) {descriptor : Descriptor}
    {fault : Fault} (f : Factory) (rejected : u.blueprint descriptor = .error fault) :
    u.synthesize factoryId descriptor f = (.error fault, u, f) := by
  simp only [synthesize, construct, rejected]
  rfl

/-- A method that cannot be implemented ends a construction. -/
private theorem synthesize_of_unimplemented (u : Universe) {factoryId : FactoryId}
    {descriptor : Descriptor} {blueprint : Blueprint} {f : Factory} {fault : Fault} {draft : Draft}
    (checked : u.blueprint descriptor = .ok blueprint)
    (failed : u.implementTargets factoryId descriptor blueprint.targets (opened blueprint f) =
      (.error fault, draft)) :
    u.synthesize factoryId descriptor f = (.error fault, u, draft.factory) := by
  rw [synthesize, u.construct_of_blueprint factoryId f checked, implementMethods, failed]
  rfl

/-- Once all methods are implemented nothing is in the way of the type: the
stages that are left come in order, and the declaration is there. -/
theorem synthesize_of_implemented (u : Universe) {factoryId : FactoryId} {descriptor : Descriptor}
    {blueprint : Blueprint} {f : Factory} {draft : Draft}
    (checked : u.blueprint descriptor = .ok blueprint)
    (done : u.implementTargets factoryId descriptor blueprint.targets (opened blueprint f) =
      (.ok (), draft)) :
    ∃ declaration, draft.declaration = some declaration ∧
      u.synthesize factoryId descriptor f =
        (.ok ⟨u.size, descriptor⟩, u.define declaration, draft.factory.countProxyTypeBuilt) := by
  obtain ⟨_, _, _, gains, _⟩ := u.implementTargets_ok done
  obtain ⟨declaration, held, _⟩ := gains.declaration _ rfl
  have stage : draft.stage = .contractImplemented := gains.stage
  have finished : Draft.advance descriptor.primary .methodsImplemented .finalized
      { draft with stage := .methodsImplemented } = (.ok (), { draft with stage := .finalized }) :=
    Draft.advance_of_stage rfl
  refine ⟨declaration, held, ?_⟩
  rw [synthesize, u.construct_of_blueprint factoryId f checked, implementMethods, done,
    Draft.Outcome.andThen_ok, Draft.advance_of_stage stage, Draft.Outcome.andThen_ok, finished]
  simp only [held]

/-- What is left of a construction that succeeded: the request is in order, and all methods of its
method set were implemented from where the construction opened. -/
theorem synthesize_eq_ok (u : Universe) {factoryId : FactoryId} {descriptor : Descriptor}
    {f after : Factory} {proxyType : ProxyType} {later : Universe}
    (made : u.synthesize factoryId descriptor f = (.ok proxyType, later, after)) :
    ∃ draft declaration,
      u.blueprint descriptor = .ok ⟨u.proxyFrame descriptor, u.methodSet descriptor⟩ ∧
      u.implementTargets factoryId descriptor (u.methodSet descriptor)
        (opened ⟨u.proxyFrame descriptor, u.methodSet descriptor⟩ f) = (.ok (), draft) ∧
      draft.declaration = some declaration ∧ proxyType = ⟨u.size, descriptor⟩ ∧
      later = u.define declaration ∧ after = draft.factory.countProxyTypeBuilt := by
  cases checked : u.blueprint descriptor with
  | error fault =>
      rw [u.synthesize_of_rejected factoryId f checked] at made
      cases made
  | ok blueprint =>
      obtain ⟨_, _, _, rfl⟩ := u.blueprint_ok checked
      cases outcome : u.implementTargets factoryId descriptor (u.methodSet descriptor)
          (opened ⟨u.proxyFrame descriptor, u.methodSet descriptor⟩ f) with
      | mk result draft =>
          cases result with
          | error fault =>
              rw [u.synthesize_of_unimplemented checked outcome] at made
              cases made
          | ok _ =>
              obtain ⟨declaration, held, defined⟩ := u.synthesize_of_implemented checked outcome
              rw [defined] at made
              simp only [Prod.mk.injEq, Except.ok.injEq] at made
              obtain ⟨rfl, rfl, rfl⟩ := made
              exact ⟨draft, declaration, rfl, rfl, held, rfl, rfl, rfl⟩

/-- A synthesized proxy type is assembled from its descriptor and defined as the
next type; from a coherent factory it takes dispatches that are linked. -/
theorem assembly_of_synthesize (u : Universe) {factoryId : FactoryId} {descriptor : Descriptor}
    {f after : Factory} {proxyType : ProxyType} {later : Universe}
    (made : u.synthesize factoryId descriptor f = (.ok proxyType, later, after)) :
    ∃ members declaration, u.Assembly factoryId descriptor members declaration ∧
      proxyType = ⟨u.size, descriptor⟩ ∧ later = u.define declaration ∧
      (f.Coherent u → ∀ member ∈ members, member.body.Linked u after) := by
  obtain ⟨draft, declaration, checked, implemented, held, rfl, rfl, rfl⟩ := u.synthesize_eq_ok made
  obtain ⟨primary, supplementary, supported, _⟩ := u.blueprint_ok checked
  obtain ⟨members, targets, routed, draftGains, linked⟩ := u.implementTargets_ok implemented
  obtain ⟨extended, same, gains⟩ := draftGains.declaration _ rfl
  obtain rfl := Option.some.inj (held.symm.trans same)
  obtain ⟨kind, base, methods, implementations, interfaces⟩ := u.proxyFrame_spec descriptor
  obtain ⟨sameKind, sameBase, sameMethods, sameImplementations⟩ :=
    same_implementing (u.proxyFrame descriptor) proxyCapability
  refine ⟨members, declaration,
    ⟨primary, supplementary, targets, ?_, routed, ?_, ?_, ?_, ?_, ?_⟩, rfl, rfl, ?_⟩
  · intro member listed
    apply supported
    have target : member.target ∈ members.map (·.target) := List.mem_map_of_mem listed
    rwa [targets] at target
  · exact gains.kind.trans (sameKind.trans kind)
  · exact gains.base.trans (sameBase.trans base)
  · intro listed
    rw [gains.interfaces]
    apply mem_interfaces_implementing.trans
    rw [interfaces, or_assoc]
  · rw [gains.methods]
    have none : (addCapability (u.proxyFrame descriptor)).methods = [] :=
      sameMethods.trans methods
    rw [none, List.nil_append]
  · rw [gains.implementations]
    have capability : (addCapability (u.proxyFrame descriptor)).implementations =
        ((u.proxyFrame descriptor).implementing proxyCapability).implementations ++
          [(Universal.accessorSlot .get, .accessor .get)] ++
          [(Universal.accessorSlot .set, .accessor .set)] := rfl
    rw [capability, sameImplementations, implementations]
    rfl
  · intro coherent member listed
    have reaches := (linked coherent).2 member listed
    exact reaches.grow (.of_same rfl rfl)

/-- Whether or not a proxy type comes of it, the factory is kept coherent. -/
theorem evolves_synthesize (u : Universe) (factoryId : FactoryId) (descriptor : Descriptor)
    {f : Factory} (coherent : f.Coherent u) :
    f.Evolves u (u.synthesize factoryId descriptor f).2.2 := by
  cases checked : u.blueprint descriptor with
  | error fault =>
      rw [u.synthesize_of_rejected factoryId f checked]
      exact .refl coherent
  | ok blueprint =>
      have evolved := u.evolves_implementTargets factoryId descriptor blueprint.targets
        (opened blueprint f) coherent
      cases outcome : u.implementTargets factoryId descriptor blueprint.targets
          (opened blueprint f) with
      | mk result draft =>
          rw [outcome] at evolved
          cases result with
          | error fault =>
              rw [u.synthesize_of_unimplemented checked outcome]
              exact evolved
          | ok _ =>
              obtain ⟨declaration, _, defined⟩ := u.synthesize_of_implemented checked outcome
              rw [defined]
              exact evolved.trans (Factory.evolves_count evolved.coherent rfl rfl rfl rfl rfl)

/-- A request that fails defines no type. -/
theorem types_of_synthesize_error (u : Universe) {factoryId : FactoryId} {descriptor : Descriptor}
    {f after : Factory} {fault : Fault} {later : Universe}
    (failed : u.synthesize factoryId descriptor f = (.error fault, later, after)) : later = u := by
  unfold synthesize at failed
  split at failed
  · exact (Prod.mk.inj (Prod.mk.inj failed).2).1.symm
  · split at failed
    · exact (Prod.mk.inj (Prod.mk.inj failed).2).1.symm
    · cases failed

/-! ### The proxy capability interface -/

/-- The proxy capability interface declares its two accessors and no other method. -/
private theorem mem_slots_proxyCapability (u : Universe) {slot : Slot}
    (declared : slot ∈ u.slots proxyCapability) : ∃ which, slot = Universal.accessorSlot which := by
  obtain ⟨home, bound⟩ := u.mem_slots.mp declared
  unfold declaration at bound
  rw [u.proxyCapability_declared] at bound
  obtain ⟨parent, index⟩ := slot
  obtain rfl : parent = proxyCapability := home
  match index with
  | 0 => exact ⟨.get, rfl⟩
  | 1 => exact ⟨.set, rfl⟩
  | further + 2 =>
      have few : further + 2 < 2 := bound
      omega

theorem Extends.isProxyable_eq {u later : Universe} (extended : u.Extends later) {slot : Slot}
    (defined : slot.parent < u.size) : later.isProxyable slot = u.isProxyable slot := by
  rw [isProxyable, isProxyable, extended.signature_eq defined]

/-- Accessors have special names, so they are never targets. -/
theorem isProxyable_accessorSlot (u : Universe) (which : Accessor) :
    u.isProxyable (Universal.accessorSlot which) = false := by
  cases which <;>
    simp [isProxyable, signature, methodDeclaration?, declaration, Universal.accessorSlot,
      u.proxyCapability_declared, Universal.capabilityDeclaration]

/-- The proxy capability interface lists no other type. -/
private theorem eq_of_reaches_proxyCapability (u : Universe) {type : TypeId}
    (reaches : u.Reaches proxyCapability type) : type = proxyCapability := by
  have alone : u.interfaces proxyCapability = [] := by
    simp [interfaces, declaration, u.proxyCapability_declared, Universal.capabilityDeclaration]
  induction reaches with
  | refl => rfl
  | tail _ listed inductionHypothesis =>
      subst inductionHypothesis
      rw [alone] at listed
      cases listed

theorem chain_objectType (u : Universe) : u.chain objectType = [objectType] := by
  rw [chain_eq]
  simp [base, declaration, u.objectType_declared, Universal.objectDeclaration]

theorem allInterfaces_objectType (u : Universe) : u.allInterfaces objectType = [] := by
  rw [allInterfaces_eq, chain_objectType]
  simp [interfaces, declaration, u.objectType_declared, Universal.objectDeclaration, collectAll]

theorem proxyCapability_lt_size (u : Universe) : proxyCapability < u.size :=
  (Array.getElem?_eq_some_iff.mp u.proxyCapability_declared).1

/-! ### The method table of a proxy type -/

namespace Assembly

variable {u : Universe} {factoryId : FactoryId} {descriptor : Descriptor} {members : List Member}
  {declaration : TypeDeclaration} (assembly : u.Assembly factoryId descriptor members declaration)

include assembly

theorem primary_lt : descriptor.primary < u.size := u.lt_size_of_kind assembly.primary_kind

theorem supplementary_lt {interface : TypeId} (requested : interface ∈ descriptor.interfaces) :
    interface < u.size := by
  apply u.lt_size_of_kind
  intro same
  have isInterface := assembly.supplementary interface requested
  simp [Universe.isInterface, same] at isInterface

theorem wellPlaced {member : Member} (listed : member ∈ members) :
    u.WellPlaced descriptor.primary member.target := by
  apply u.wellPlaced_of_mem_methodSet
  rw [← assembly.targets]
  exact List.mem_map_of_mem listed

/-- What a member is a body of is a declared method that proxies implement. -/
theorem handled {member : Member} (listed : member ∈ members) {slot : Slot}
    (handles : member.target.Handles slot) :
    u.isProxyable slot = true ∧ slot ∈ u.slots slot.parent ∧
      (slot = member.target.slot ∨
        ((u.signature member.target.slot).agrees (u.signature slot) = true ∧
          member.target.slot.parent ∈ u.chain descriptor.primary ∧
          slot.parent ∈ u.chain member.target.slot.parent)) := by
  have placed := assembly.wellPlaced listed
  rcases handles with rfl | overridden
  · exact ⟨placed.proxyable, placed.declared, .inl rfl⟩
  · obtain ⟨proxyable, declared, shape, onChain, above⟩ := placed.overrides slot overridden
    exact ⟨proxyable, declared, .inr ⟨shape, onChain, above⟩⟩

/-- What a member was made for is there in every later universe, and is still a
method that can stand for those that the member handles. -/
theorem handled_later {later : Universe} (extended : u.Extends later) {member : Member}
    (listed : member ∈ members) {slot : Slot} (handles : member.target.Handles slot) :
    member.target.slot ∈ later.slots member.target.slot.parent ∧
      later.isProxyable member.target.slot = true ∧
      (member.target.slot = slot ∨
        ((later.signature member.target.slot).agrees (later.signature slot) = true ∧
          member.target.slot.parent ∈ later.chain descriptor.primary ∧
          slot.parent ∈ later.chain member.target.slot.parent)) := by
  have placed := assembly.wellPlaced listed
  obtain ⟨_, declared, shape⟩ := assembly.handled listed handles
  have older := u.lt_size_of_mem_slots declared
  have carrierOlder := u.lt_size_of_mem_slots placed.declared
  refine ⟨?_, ?_, ?_⟩
  · rw [extended.slots_eq carrierOlder]
    exact placed.declared
  · rw [extended.isProxyable_eq carrierOlder]
    exact placed.proxyable
  · rw [extended.signature_eq carrierOlder, extended.signature_eq older,
      extended.chain_eq assembly.primary_lt, extended.chain_eq carrierOlder]
    exact shape.imp Eq.symm id

/-- A proxy type mentions types that are there, so none of its declaration is dropped when it is
defined. -/
theorem within_eq : declaration.within u.size = declaration := by
  apply TypeDeclaration.within_eq_self
  · intro parent member
    rcases List.mem_append.mp member with base | listed
    -- The base is the universal base type or the primary type.
    · rw [assembly.base] at base
      obtain rfl : parent = u.proxyBase descriptor.primary := by simpa using base
      unfold proxyBase
      split
      · exact Nat.lt_trans (by decide) u.proxyCapability_lt_size
      · exact assembly.primary_lt
    · rcases (assembly.interfaces parent).mp listed with ⟨rfl, _⟩ | requested | rfl
      · exact assembly.primary_lt
      · exact assembly.supplementary_lt requested
      · exact u.proxyCapability_lt_size
  · intro implementation member
    rw [assembly.implementations] at member
    rcases List.mem_append.mp member with accessor | given
    · have home : implementation.1.parent = proxyCapability := by
        rcases List.mem_cons.mp accessor with rfl | other
        · rfl
        · obtain rfl := List.mem_singleton.mp other
          rfl
      rw [home]
      exact u.proxyCapability_lt_size
    · obtain ⟨carrier, listed, given⟩ := List.mem_flatMap.mp given
      have handles := (Member.mem_implementations.mp given).1
      exact u.lt_size_of_mem_slots (assembly.handled listed handles).2.1

theorem declaration_eq : (u.define declaration).declaration u.size = declaration := by
  rw [declaration_define_self, assembly.within_eq]

/-- The bodies given by name are those of the members, and then the accessors. -/
theorem explicitBody_eq (slot : Slot) :
    (u.define declaration).explicitBody u.size slot =
      (((members.flatMap (·.implementations)).reverse.find? fun pair => pair.1 == slot).map
        (·.2)).or
      (([(Universal.accessorSlot .set, MethodBody.accessor .set),
          (Universal.accessorSlot .get, .accessor .get)].find? fun pair => pair.1 == slot).map
        (·.2)) := by
  unfold explicitBody
  rw [assembly.declaration_eq, assembly.implementations, List.reverse_append, List.find?_append,
    Option.map_or]
  rfl

/-- What a proxy type gives a body to by name is an accessor, or is handled by a member with that
body. -/
theorem of_explicitBody {slot : Slot} {body : MethodBody}
    (given : (u.define declaration).explicitBody u.size slot = some body) :
    (∃ which, slot = Universal.accessorSlot which ∧ body = .accessor which) ∨
      ∃ member ∈ members, member.target.Handles slot ∧ body = member.body := by
  have listed := (u.define declaration).mem_of_explicitBody given
  rw [assembly.declaration_eq, assembly.implementations] at listed
  rcases List.mem_append.mp listed with accessor | member
  · left
    rcases List.mem_cons.mp accessor with same | other
    · obtain ⟨rfl, rfl⟩ := Prod.mk.inj same
      exact ⟨.get, rfl, rfl⟩
    · obtain ⟨rfl, rfl⟩ := Prod.mk.inj (List.mem_singleton.mp other)
      exact ⟨.set, rfl, rfl⟩
  · right
    obtain ⟨carrier, present, given⟩ := List.mem_flatMap.mp member
    obtain ⟨handles, same⟩ := Member.mem_implementations.mp given
    exact ⟨carrier, present, handles, same⟩

/-- What some member handles is given the body of a member. -/
theorem exists_explicitBody {slot : Slot}
    (handled : ∃ member ∈ members, member.target.Handles slot) :
    ∃ member ∈ members, member.target.Handles slot ∧
      (u.define declaration).explicitBody u.size slot = some member.body := by
  obtain ⟨member, listed, handles⟩ := handled
  have given : (slot, member.body) ∈ members.flatMap (·.implementations) :=
    List.mem_flatMap.mpr ⟨member, listed, Member.mem_implementations.mpr ⟨handles, rfl⟩⟩
  have found : ((members.flatMap (·.implementations)).reverse.find?
      fun pair => pair.1 == slot).isSome = true := by
    rw [List.find?_isSome]
    exact ⟨_, List.mem_reverse.mpr given, beq_self_eq_true slot⟩
  obtain ⟨pair, last⟩ := Option.isSome_iff_exists.mp found
  have body : (u.define declaration).explicitBody u.size slot = some pair.2 := by
    rw [assembly.explicitBody_eq, last]
    rfl
  obtain rfl : pair.1 = slot := by simpa using List.find?_some last
  obtain ⟨carrier, present, implemented⟩ :=
    List.mem_flatMap.mp (List.mem_reverse.mp (List.mem_of_find?_eq_some last))
  obtain ⟨stands, same⟩ := Member.mem_implementations.mp implemented
  exact ⟨carrier, present, stands, by rw [body, same]⟩

/-- No member handles an accessor, so the accessors have the bodies that were given to them first.
-/
theorem explicitBody_accessor (which : Accessor) :
    (u.define declaration).explicitBody u.size (Universal.accessorSlot which) =
      some (.accessor which) := by
  have unhandled : ∀ pair ∈ (members.flatMap (·.implementations)).reverse,
      pair.1 ≠ Universal.accessorSlot which := by
    rintro ⟨slot, body⟩ member rfl
    obtain ⟨carrier, listed, given⟩ := List.mem_flatMap.mp (List.mem_reverse.mp member)
    have handles := (Member.mem_implementations.mp given).1
    have proxyable := (assembly.handled listed handles).1
    rw [u.isProxyable_accessorSlot which] at proxyable
    cases proxyable
  have none : (members.flatMap (·.implementations)).reverse.find?
      (fun pair => pair.1 == Universal.accessorSlot which) = none := by
    apply List.find?_eq_none.mpr
    intro pair member
    simpa using unhandled pair member
  rw [assembly.explicitBody_eq, none]
  cases which <;> rfl

/-- A proxy type has the bodies of its accessors and of its members. -/
theorem of_mem_bodies {body : MethodBody} (held : body ∈ declaration.bodies) :
    (∃ which, body = .accessor which) ∨ ∃ member ∈ members, body = member.body := by
  rcases List.mem_append.mp held with own | given
  · rw [assembly.methods] at own
    obtain ⟨declared, listed, same⟩ := List.mem_filterMap.mp own
    obtain ⟨member, present, rfl⟩ := List.mem_map.mp listed
    exact .inr ⟨member, present, (Option.some.inj same).symm⟩
  · rw [assembly.implementations] at given
    obtain ⟨pair, listed, rfl⟩ := List.mem_map.mp given
    rcases List.mem_append.mp listed with accessor | member
    · rcases List.mem_cons.mp accessor with rfl | other
      · exact .inl ⟨.get, rfl⟩
      · obtain rfl := List.mem_singleton.mp other
        exact .inl ⟨.set, rfl⟩
    · obtain ⟨carrier, present, implemented⟩ := List.mem_flatMap.mp member
      exact .inr ⟨carrier, present, (Member.mem_implementations.mp implemented).2⟩

theorem ownBody_eq {slot : Slot} (own : slot.parent = u.size) :
    (u.define declaration).methodDeclaration? slot =
      (members[slot.index]?).map (·.method u) := by
  rw [methodDeclaration?, own, assembly.declaration_eq, assembly.methods, List.getElem?_map]

/-- A member that is declared by a proxy type has the shape of its target. -/
theorem member_of_own {slot : Slot} {body : MethodBody} (own : slot.parent = u.size)
    (held : (u.define declaration).ownBody slot = some body) :
    ∃ member ∈ members, body = member.body ∧
      (u.define declaration).signature slot =
        { u.signature member.target.slot with name := member.name } := by
  unfold ownBody at held
  rw [assembly.ownBody_eq own] at held
  obtain ⟨declared, lookup, given⟩ := Option.bind_eq_some_iff.mp held
  obtain ⟨member, found, rfl⟩ := Option.map_eq_some_iff.mp lookup
  refine ⟨member, List.mem_of_getElem? found, (Option.some.inj given).symm, ?_⟩
  rw [signature, assembly.ownBody_eq own, found]
  rfl

/-- Every body in the table of a proxy type is an accessor or the body of a
member, which has the shape of the method that it serves. -/
theorem carrier_of_find? {slot : Slot} {body : MethodBody}
    (held : ((u.define declaration).methodTable u.size).find? slot = some body) :
    (∃ which, body = .accessor which) ∨
      ∃ member ∈ members, body = member.body ∧
        ((u.define declaration).signature slot).parameters =
          (u.signature member.target.slot).parameters ∧
        ((u.define declaration).signature slot).returns =
          (u.signature member.target.slot).returns ∧
        ((u.define declaration).signature slot).arity =
          (u.signature member.target.slot).arity := by
  have extended := u.extends_define declaration
  by_cases own : slot.parent = u.size
  · rw [← own, find?_methodTable_own] at held
    obtain ⟨member, listed, same, signature⟩ := assembly.member_of_own own held
    refine .inr ⟨member, listed, same, ?_⟩
    rw [signature]
    exact ⟨rfl, rfl, rfl⟩
  -- An inherited method has its body by name, or else from the first member of its shape; either
  -- way the member stands for the types of the method.
  · rw [find?_methodTable_inherited _ own] at held
    rcases Option.or_eq_some_iff.mp held with explicitly | ⟨_, implicitly⟩
    · rcases assembly.of_explicitBody explicitly with
        ⟨which, _, same⟩ | ⟨member, listed, handles, same⟩
      · exact .inl ⟨which, same⟩
      · obtain ⟨_, declared, shape⟩ := assembly.handled listed handles
        refine .inr ⟨member, listed, same, ?_⟩
        rw [extended.signature_eq (u.lt_size_of_mem_slots declared)]
        rcases shape with rfl | ⟨agrees, _⟩
        · exact ⟨rfl, rfl, rfl⟩
        · obtain ⟨_, parameters, returns, arity⟩ := Signature.agrees_iff.mp agrees
          exact ⟨parameters.symm, returns.symm, arity.symm⟩
    · unfold implicitBody at implicitly
      split at implicitly
      · obtain ⟨pair, found, rfl⟩ := Option.map_eq_some_iff.mp implicitly
        have agrees := List.find?_some found
        obtain ⟨home, ownBody⟩ :=
          ((u.define declaration).mem_ownBodies).mp (List.mem_of_find?_eq_some found)
        obtain ⟨member, listed, same, signature⟩ := assembly.member_of_own home ownBody
        obtain ⟨_, parameters, returns, arity⟩ := Signature.agrees_iff.mp agrees
        rw [signature] at parameters returns arity
        exact .inr ⟨member, listed, same, parameters, returns, arity⟩
      · cases implicitly

/-! ### Which types a proxy type stands in for -/

theorem base_eq : (u.define declaration).base u.size = some (u.proxyBase descriptor.primary) := by
  rw [Universe.base, assembly.declaration_eq, assembly.base]

/-- Whatever a proxy type is assignable to has its methods in the method set,
but for the proxy capability interface. -/
theorem covers_of_isAssignable {type : TypeId}
    (assignable : (u.define declaration).isAssignable u.size type = true)
    (other : type ≠ u.size) : u.Covers descriptor type ∨ type = proxyCapability := by
  have extended := u.extends_define declaration
  have interfaces : (u.define declaration).interfaces u.size = declaration.interfaces := by
    rw [Universe.interfaces, assembly.declaration_eq]
  rcases ((u.define declaration).isAssignable_iff).mp assignable with rfl | onChain | ⟨_, found⟩
  · exact .inl (.inr (.inr (.inr (.inr rfl))))
  · rw [(u.define declaration).chain_of_base assembly.base_eq] at onChain
    rcases List.mem_cons.mp onChain with same | above
    · exact absurd same other
    · by_cases isInterface : u.isInterface descriptor.primary = true
      · rw [proxyBase, if_pos isInterface, chain_objectType] at above
        exact .inl (.inr (.inr (.inr (.inr (List.mem_singleton.mp above)))))
      · rw [proxyBase, if_neg isInterface, extended.chain_eq assembly.primary_lt] at above
        exact .inl (.inr (.inl ⟨Bool.eq_false_iff.mpr isInterface, above⟩))
  · rcases ((u.define declaration).mem_own_or_inherited_iff).mp found with own | inherited
    -- An interface that the proxy type itself lists: the primary type, a requested one, or the
    -- proxy capability, which leads nowhere else.
    · rw [interfaces, mem_collectAll_nil] at own
      obtain ⟨listed, isListed, reaches⟩ := own
      have further := (u.define declaration).eq_or_mem_allInterfaces reaches
      rcases (assembly.interfaces listed).mp isListed with ⟨rfl, _⟩ | requested | rfl
      · rw [extended.allInterfaces_eq assembly.primary_lt] at further
        rcases further with same | further
        · exact .inl (.inl same)
        · exact .inl (.inr (.inr (.inl further)))
      · rw [extended.allInterfaces_eq (assembly.supplementary_lt requested)] at further
        refine .inl (.inr (.inr (.inr (.inl ⟨listed, requested, ?_⟩))))
        exact List.mem_cons.mpr further
      · exact .inr ((u.define declaration).eq_of_reaches_proxyCapability reaches)
    · rw [assembly.base_eq, Option.elim_some] at inherited
      by_cases isInterface : u.isInterface descriptor.primary = true
      · rw [proxyBase, if_pos isInterface, allInterfaces_objectType] at inherited
        cases inherited
      · rw [proxyBase, if_neg isInterface, extended.allInterfaces_eq assembly.primary_lt]
          at inherited
        exact .inl (.inr (.inr (.inl inherited)))

/-- Every method that a caller can reach a proxy type by is handled by a member,
whose body the table of the proxy type holds. -/
theorem exists_member_of_isAssignable {type : TypeId} {slot : Slot}
    (assignable : (u.define declaration).isAssignable u.size type = true)
    (other : type ≠ u.size) (declared : slot ∈ (u.define declaration).slots type)
    (proxyable : (u.define declaration).isProxyable slot = true) :
    ∃ member ∈ members, member.target.Handles slot ∧
      ((u.define declaration).methodTable u.size).find? slot = some member.body := by
  have extended := u.extends_define declaration
  obtain rfl := (u.define declaration).parent_of_mem_slots declared
  have older : slot.parent < u.size := by
    have bound := (u.define declaration).lt_size_of_mem_slots declared
    have grown : (u.define declaration).size = u.size + 1 := by simp [size, define]
    rw [grown] at bound
    exact Nat.lt_of_le_of_ne (Nat.le_of_lt_succ bound) other
  have covered : u.Covers descriptor slot.parent := by
    rcases assembly.covers_of_isAssignable assignable other with covered | capability
    · exact covered
    · rw [capability] at declared
      obtain ⟨which, rfl⟩ := (u.define declaration).mem_slots_proxyCapability declared
      rw [isProxyable_accessorSlot] at proxyable
      cases proxyable
  have proxyableBefore := (extended.isProxyable_eq older).symm.trans proxyable
  rw [extended.slots_eq older] at declared
  obtain ⟨target, isTarget, handles⟩ := u.exists_handles_methodSet descriptor proxyableBefore
    declared covered
  rw [← assembly.targets] at isTarget
  obtain ⟨member, listed, rfl⟩ := List.mem_map.mp isTarget
  obtain ⟨carrier, present, stands, given⟩ :=
    assembly.exists_explicitBody ⟨member, listed, handles⟩
  refine ⟨carrier, present, stands, ?_⟩
  rw [find?_methodTable_inherited _ other, given]
  rfl

end Assembly

/-! ### No method escapes a proxy -/

/-- Whatever type a proxy is used as, each of its methods that proxies implement
runs a body made for the proxy.  The body stands for the method itself or for a
declaration of its shape that is at least as derived on the chain of the primary
type, and it intercepts exactly when the filter accepts what it stands for.  The
accessors of the capability interface are always there. -/
theorem no_method_escapes (u : Universe) {factoryId : FactoryId} {descriptor : Descriptor}
    {f after : Factory} {proxyType : ProxyType} {later : Universe}
    (made : u.synthesize factoryId descriptor f = (.ok proxyType, later, after)) :
    (∀ type slot, type ≠ proxyType.type → later.isAssignable proxyType.type type = true →
      slot ∈ later.slots type → later.isProxyable slot = true →
      ∃ carried ∈ later.slots carried.parent,
        (carried = slot ∨
          ((later.signature carried).agrees (later.signature slot) = true ∧
            carried.parent ∈ later.chain descriptor.primary ∧
            slot.parent ∈ later.chain carried.parent)) ∧
        ((descriptor.filter.accepts u carried.toMethod = true ∧
            ∃ dispatch, later.resolve proxyType.type slot =
              some (.intercepted carried dispatch factoryId)) ∨
          (descriptor.filter.accepts u carried.toMethod = false ∧
            later.resolve proxyType.type slot = some (.passThrough carried factoryId)))) ∧
    ∀ which, later.resolve proxyType.type (Universal.accessorSlot which) =
      some (.accessor which) := by
  obtain ⟨members, declaration, assembly, rfl, rfl, _⟩ := u.assembly_of_synthesize made
  have extended := u.extends_define declaration
  constructor
  · intro type slot other assignable declared proxyable
    obtain ⟨member, listed, handles, held⟩ :=
      assembly.exists_member_of_isAssignable assignable other declared proxyable
    have resolved := (u.define declaration).resolve_of_find? held
    obtain ⟨declaredCarried, _, shape⟩ := assembly.handled_later extended listed handles
    refine ⟨member.target.slot, declaredCarried, shape, ?_⟩
    rcases assembly.routed member listed with ⟨accepted, dispatch, body⟩ | ⟨rejected, body⟩
    · exact .inl ⟨accepted, dispatch, body ▸ resolved⟩
    · exact .inr ⟨rejected, body ▸ resolved⟩
  · intro which
    apply (u.define declaration).resolve_of_find?
    have other : (Universal.accessorSlot which).parent ≠ u.size := by
      have home : (Universal.accessorSlot which).parent = proxyCapability := by
        cases which <;> rfl
      rw [home]
      exact Nat.ne_of_lt u.proxyCapability_lt_size
    rw [find?_methodTable_inherited _ other, assembly.explicitBody_accessor]
    rfl

def answer : Signature := { name := "Answer", returns := .int32 }

/-- Two classes, of which the second overrides the method of the first. -/
def overriding : Universe :=
  (initial.define ((TypeDeclaration.ofClass "Base").addMethod answer
    (some (.native fun _ => .done (.ok (.int32 1)))))).define
    (((TypeDeclaration.ofClass "Derived").extending 2).addMethod answer
      (some (.native fun _ => .done (.ok (.int32 2)))))

def everything : MethodFilter := ⟨1, fun _ _ => true⟩

/-- A proxy of the second class intercepts what is called by the first one. -/
theorem no_method_escapes_overriding :
    let outcome := overriding.synthesize 0 ⟨3, [], everything⟩ default
    outcome.1 = .ok ⟨4, 3, [], everything⟩ ∧
      ∃ carried dispatch,
        outcome.2.1.resolve 4 ⟨2, 0⟩ = some (.intercepted carried dispatch 0) ∧
        (carried = ⟨2, 0⟩ ∨ 2 ∈ outcome.2.1.chain carried.parent) := by
  intro outcome
  have succeeds : outcome.1 = .ok ⟨4, 3, [], everything⟩ := by with_unfolding_all rfl
  have made : outcome = (.ok ⟨4, 3, [], everything⟩, outcome.2.1, outcome.2.2) := by
    rw [← succeeds]
  have assignable : outcome.2.1.isAssignable 4 2 = true := by
    unfold outcome
    decide +kernel
  have declared : (⟨2, 0⟩ : Slot) ∈ outcome.2.1.slots 2 := by
    unfold outcome
    decide +kernel
  have proxyable : outcome.2.1.isProxyable ⟨2, 0⟩ = true := by
    unfold outcome
    decide +kernel
  have inside := (no_method_escapes overriding made).1
  obtain ⟨carried, _, home, routed⟩ :=
    inside 2 ⟨2, 0⟩ (by decide) assignable declared proxyable
  refine ⟨succeeds, carried, ?_⟩
  rcases routed with ⟨_, dispatch, resolved⟩ | ⟨rejected, _⟩
  · exact ⟨dispatch, resolved, home.imp id fun overridden => overridden.2.2⟩
  · cases rejected

end Interpose.Universe
