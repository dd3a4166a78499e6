/-
Module: Interpose.Proofs.Members
Purpose: The members that a proxy type gets for its targets, and what their bodies proceed to.
Main exports: Member, Member.Routed, Dispatch.Linked, Universe.Gains,
  Universe.implementTarget_eq_ok, Universe.implementTargets_ok,
  Universe.evolves_implementTargets
-/
import Interpose.Proofs.FactoryCoherence
import Interpose.Proofs.MethodSets
import Interpose.Proxy.Synthesis

namespace Interpose

/-- A member that a proxy type declares for a target, with the name that it got. -/
structure Member where
  target : Target
  name : String
  body : MethodBody

namespace Member

/-- The member as a method of the proxy type. -/
def method (u : Universe) (member : Member) : MethodDeclaration :=
  ⟨{ u.signature member.target.slot with name := member.name }, some member.body⟩

/-- The member as the body of everything that its target handles. -/
def implementations (member : Member) : List (Slot × MethodBody) :=
  (member.target.slot :: member.target.overridden).map fun slot => (slot, member.body)

/-- The filter alone decides whether a member intercepts or passes through. -/
def Routed (u : Universe) (factoryId : FactoryId) (filter : MethodFilter) (member : Member) :
    Prop :=
  (filter.accepts u member.target.slot.toMethod = true ∧
      ∃ dispatch, member.body = .intercepted member.target.slot dispatch factoryId) ∨
    (filter.accepts u member.target.slot.toMethod = false ∧
      member.body = .passThrough member.target.slot factoryId)

/-- A member is the body of everything that its target handles, and of nothing else. -/
theorem mem_implementations {member : Member} {slot : Slot} {body : MethodBody} :
    (slot, body) ∈ member.implementations ↔ member.target.Handles slot ∧ body = member.body := by
  simp only [implementations, Target.Handles, List.mem_map, List.mem_cons, Prod.mk.injEq]
  constructor
  · rintro ⟨other, handled, rfl, rfl⟩
    exact ⟨handled, rfl⟩
  · rintro ⟨handled, rfl⟩
    exact ⟨slot, handled, rfl, rfl⟩

end Member

/-- A dispatch reaches the method that it was made for: the entry is one of the
method, the cache one of the generic definition. -/
def Dispatch.Linked (u : Universe) (f : Factory) (slot : Slot) : Dispatch → Prop
  | .direct entry => u.isGeneric slot = false ∧ entry < f.entries.size ∧
      (f.entry entry).method = slot.toMethod
  | .generic cache => u.isGeneric slot = true ∧ cache < f.specializationCaches.size ∧
      (f.specializationCache cache).slot = slot

/-- What an intercepted body proceeds to is there. -/
def MethodBody.Linked (u : Universe) (f : Factory) : MethodBody → Prop
  | .intercepted slot dispatch _ => dispatch.Linked u f slot
  | _ => True

/-- A dispatch goes on reaching its method while entries and caches are only added. -/
theorem Dispatch.Linked.grow {u : Universe} {f later : Factory} {slot : Slot}
    {dispatch : Dispatch} (linked : dispatch.Linked u f slot) (grows : f.Grows later) :
    dispatch.Linked u later slot := by
  cases dispatch with
  | direct entry =>
      obtain ⟨plain, known, same⟩ := linked
      exact ⟨plain, Nat.lt_of_lt_of_le known grows.entries, (grows.methods entry known).trans same⟩
  | generic cache =>
      obtain ⟨generic, known, same⟩ := linked
      exact ⟨generic, Nat.lt_of_lt_of_le known grows.caches, (grows.slots cache known).trans same⟩

theorem MethodBody.Linked.grow {u : Universe} {f later : Factory} {body : MethodBody}
    (linked : body.Linked u f) (grows : f.Grows later) : body.Linked u later := by
  cases body with
  | intercepted slot dispatch factory => exact Dispatch.Linked.grow linked grows
  | _ => trivial

namespace Universe

/-- One declaration is another with further members. -/
structure Gains (u : Universe) (members : List Member) (declaration later : TypeDeclaration) :
    Prop where
  kind : later.kind = declaration.kind
  base : later.base = declaration.base
  interfaces : later.interfaces = declaration.interfaces
  methods : later.methods = declaration.methods ++ members.map (·.method u)
  implementations : later.implementations =
    declaration.implementations ++ members.flatMap (·.implementations)

namespace Gains

theorem refl (u : Universe) (declaration : TypeDeclaration) : u.Gains [] declaration declaration :=
  ⟨rfl, rfl, rfl, by simp, by simp⟩

theorem trans {u : Universe} {members others : List Member}
    {declaration later further : TypeDeclaration} (first : u.Gains members declaration later)
    (second : u.Gains others later further) : u.Gains (members ++ others) declaration further where
  kind := second.kind.trans first.kind
  base := second.base.trans first.base
  interfaces := second.interfaces.trans first.interfaces
  methods := by
    rw [second.methods, first.methods, List.map_append, List.append_assoc]
  implementations := by
    rw [second.implementations, first.implementations, List.flatMap_append, List.append_assoc]

end Gains

end Universe

/-- One draft is another with further members, at the same stage. -/
structure Draft.Gains (u : Universe) (members : List Member) (draft later : Draft) : Prop where
  stage : later.stage = draft.stage
  declaration : ∀ declaration, draft.declaration = some declaration →
    ∃ extended, later.declaration = some extended ∧ u.Gains members declaration extended

namespace Draft.Gains

theorem refl (u : Universe) (draft : Draft) : draft.Gains u [] draft where
  stage := rfl
  declaration := fun declaration held => ⟨declaration, held, .refl u declaration⟩

theorem trans {u : Universe} {members others : List Member} {draft later further : Draft}
    (first : draft.Gains u members later) (second : later.Gains u others further) :
    draft.Gains u (members ++ others) further where
  stage := second.stage.trans first.stage
  declaration := by
    intro declaration held
    obtain ⟨between, heldBetween, gains⟩ := first.declaration declaration held
    obtain ⟨extended, heldLater, further⟩ := second.declaration between heldBetween
    exact ⟨extended, heldLater, gains.trans further⟩

end Draft.Gains

namespace Universe

/-- Giving one body to several methods adds it once for each, in order. -/
theorem foldl_implement (slots : List Slot) (body : MethodBody) :
    ∀ declaration : TypeDeclaration,
      slots.foldl (fun extended slot => extended.implement slot body) declaration =
        { declaration with implementations :=
            declaration.implementations ++ slots.map fun slot => (slot, body) } := by
  induction slots with
  | nil => simp
  | cons slot rest inductionHypothesis =>
      intro declaration
      rw [List.foldl_cons, inductionHypothesis]
      simp [TypeDeclaration.implement]

/-- A declaration gains the member that is added, and nothing but its fields may differ otherwise.
-/
theorem gains_addMember (u : Universe) (target : Target) (name : String) (body : MethodBody)
    (declaration : TypeDeclaration) :
    u.Gains [⟨target, name, body⟩] declaration (u.addMember target name body declaration) := by
  unfold addMember
  simp only [foldl_implement]
  constructor
  · rfl
  · rfl
  · rfl
  · rfl
  · simp [TypeDeclaration.addMethod, Member.implementations]

/-! ### Implementing targets -/

/-- Where a method proceeds to is linked to it. -/
theorem linked_proceedSlot (u : Universe) {f : Factory} (coherent : f.Coherent u) (slot : Slot) :
    f.Evolves u (u.proceedSlot slot f).2 ∧
      ∀ suffix dispatch, (u.proceedSlot slot f).1 = .ok (suffix, dispatch) →
        dispatch.Linked u (u.proceedSlot slot f).2 slot := by
  unfold proceedSlot
  by_cases generic : u.isGeneric slot = true
  · obtain ⟨evolved, fresh, same⟩ := Factory.evolves_addSpecializationCache coherent slot
    rw [if_pos generic]
    refine ⟨evolved, ?_⟩
    intro suffix dispatch result
    obtain ⟨_, rfl⟩ := Prod.mk.inj (Except.ok.inj result)
    exact ⟨generic, fresh, same⟩
  · obtain ⟨evolved, fresh, same⟩ := Factory.evolves_thunkEntry coherent slot.toMethod
    have plain : u.isGeneric slot = false := Bool.eq_false_iff.mpr generic
    rw [if_neg generic]
    generalize f.thunkEntry slot.toMethod = entered at evolved fresh same
    obtain ⟨entry, between⟩ := entered
    simp only []
    split
    · obtain ⟨_, compiled⟩ := Factory.evolves_entryThunk evolved.coherent entry
      cases outcome : between.entryThunk u entry with
      | mk result after =>
          rw [outcome] at compiled
          cases result with
          | error fault =>
              refine ⟨evolved.trans compiled, ?_⟩
              intro suffix dispatch result
              cases result
          | ok shared =>
              refine ⟨evolved.trans compiled, ?_⟩
              intro suffix dispatch result
              obtain ⟨_, rfl⟩ := Prod.mk.inj (Except.ok.inj result)
              exact Dispatch.Linked.grow ⟨plain, fresh, same⟩ compiled.grows
    · refine ⟨evolved, ?_⟩
      intro suffix dispatch result
      obtain ⟨_, rfl⟩ := Prod.mk.inj (Except.ok.inj result)
      exact ⟨plain, fresh, same⟩

/-- What is left of a draft when one target was implemented: the declaration has a member of the
name that the target was given.  A method that the filter accepts has a field as well, and a way to
proceed that the factory gave it. -/
theorem implementTarget_eq_ok (u : Universe) {factoryId : FactoryId} {descriptor : Descriptor}
    {target : Target} {draft after : Draft} {name : String} {names : NameSupply}
    (given : draft.names.fresh (u.memberName descriptor.primary target.slot) = (name, names))
    (done : u.implementTarget factoryId descriptor target draft = (.ok (), after)) :
    ∃ declaration, draft.declaration = some declaration ∧
      ((descriptor.filter.accepts u target.slot.toMethod = true ∧ ∃ suffix dispatch f,
          u.proceedSlot target.slot draft.factory = (.ok (suffix, dispatch), f) ∧
          after = ⟨draft.stage, some (u.addMember target name
            (.intercepted target.slot dispatch factoryId)
            (declaration.addField ⟨name ++ suffix, .object, true⟩)), names, f⟩) ∨
        (descriptor.filter.accepts u target.slot.toMethod = false ∧
          after = ⟨draft.stage, some (u.addMember target name
            (.passThrough target.slot factoryId) declaration), names, draft.factory⟩)) := by
  unfold implementTarget at done
  simp only [given] at done
  split at done
  · rename_i accepted
    cases found : u.proceedSlot target.slot draft.factory with
    | mk result f =>
        rw [found] at done
        cases result with
        | error fault => cases done
        | ok way =>
            obtain ⟨declaration, held, rfl⟩ := Draft.declare_eq_ok.mp done
            exact ⟨declaration, held, .inl ⟨accepted, way.1, way.2, f, rfl, rfl⟩⟩
  · rename_i rejected
    obtain ⟨declaration, held, rfl⟩ := Draft.declare_eq_ok.mp done
    exact ⟨declaration, held, .inr ⟨Bool.eq_false_iff.mpr rejected, rfl⟩⟩

/-- One target more is one member more, whether or not it needs a dispatch. -/
theorem implementTarget_ok (u : Universe) {factoryId : FactoryId} {descriptor : Descriptor}
    {target : Target} {draft after : Draft}
    (done : u.implementTarget factoryId descriptor target draft = (.ok (), after)) :
    ∃ member : Member, member.target = target ∧
      member.Routed u factoryId descriptor.filter ∧ draft.Gains u [member] after ∧
      (draft.factory.Coherent u →
        draft.factory.Evolves u after.factory ∧ member.body.Linked u after.factory) := by
  obtain ⟨⟨name, names⟩, given⟩ : ∃ supply,
      draft.names.fresh (u.memberName descriptor.primary target.slot) = supply := ⟨_, rfl⟩
  obtain ⟨declaration, held, way⟩ := u.implementTarget_eq_ok given done
  cases way with
  | inl intercepted =>
      obtain ⟨accepted, suffix, dispatch, f, found, rfl⟩ := intercepted
      refine ⟨⟨target, name, .intercepted target.slot dispatch factoryId⟩, rfl,
        .inl ⟨accepted, dispatch, rfl⟩, ⟨rfl, ?_⟩, ?_⟩
      · intro other same
        obtain rfl := Option.some.inj (held.symm.trans same)
        have gains := u.gains_addMember target name
          (.intercepted target.slot dispatch factoryId)
          (declaration.addField ⟨name ++ suffix, .object, true⟩)
        exact ⟨_, rfl, gains.kind, gains.base, gains.interfaces, gains.methods,
          gains.implementations⟩
      · intro coherent
        obtain ⟨evolved, reaches⟩ := u.linked_proceedSlot coherent target.slot
        rw [found] at evolved reaches
        exact ⟨evolved, reaches suffix dispatch rfl⟩
  | inr passed =>
      obtain ⟨rejected, rfl⟩ := passed
      refine ⟨⟨target, name, .passThrough target.slot factoryId⟩, rfl, .inr ⟨rejected, rfl⟩,
        ⟨rfl, ?_⟩, ?_⟩
      · intro other same
        obtain rfl := Option.some.inj (held.symm.trans same)
        exact ⟨_, rfl, u.gains_addMember _ _ _ _⟩
      · intro coherent
        exact ⟨.refl coherent, trivial⟩

/-- Implementing targets adds one member for each, in order. -/
theorem implementTargets_ok (u : Universe) {factoryId : FactoryId} {descriptor : Descriptor}
    {targets : List Target} {draft after : Draft}
    (done : u.implementTargets factoryId descriptor targets draft = (.ok (), after)) :
    ∃ members : List Member, members.map (·.target) = targets ∧
      (∀ member ∈ members, member.Routed u factoryId descriptor.filter) ∧
      draft.Gains u members after ∧
      (draft.factory.Coherent u → draft.factory.Evolves u after.factory ∧
        ∀ member ∈ members, member.body.Linked u after.factory) := by
  induction targets generalizing draft with
  | nil =>
      obtain ⟨_, rfl⟩ := Prod.mk.inj done
      refine ⟨[], rfl, by simp, .refl u _, ?_⟩
      intro coherent
      exact ⟨.refl coherent, by simp⟩
  | cons target rest inductionHypothesis =>
      unfold implementTargets at done
      cases step : u.implementTarget factoryId descriptor target draft with
      | mk result between =>
          rw [step] at done
          cases result with
          | error fault => cases done
          | ok _ =>
              obtain ⟨member, same, routed, gains, linked⟩ := u.implementTarget_ok step
              obtain ⟨members, targets, allRouted, allGains, allLinked⟩ := inductionHypothesis done
              refine ⟨member :: members, ?_, ?_, gains.trans allGains, ?_⟩
              · rw [List.map_cons, same, targets]
              · intro other listed
                rcases List.mem_cons.mp listed with rfl | later
                · exact routed
                · exact allRouted other later
              · intro coherent
                obtain ⟨first, reaches⟩ := linked coherent
                obtain ⟨second, allReach⟩ := allLinked first.coherent
                refine ⟨first.trans second, ?_⟩
                intro other listed
                rcases List.mem_cons.mp listed with rfl | later
                · exact reaches.grow second.grows
                · exact allReach other later

private theorem factory_declare (primary : TypeId) (change : TypeDeclaration → TypeDeclaration)
    (draft : Draft) : (draft.declare primary change).2.factory = draft.factory := by
  unfold Draft.declare
  split <;> rfl

/-- Whether it succeeds or not, implementing targets keeps a factory coherent. -/
theorem evolves_implementTargets (u : Universe) (factoryId : FactoryId) (descriptor : Descriptor)
    (targets : List Target) :
    ∀ draft : Draft, draft.factory.Coherent u →
      draft.factory.Evolves u
        (u.implementTargets factoryId descriptor targets draft).2.factory := by
  induction targets with
  | nil => exact fun draft coherent => .refl coherent
  | cons target rest inductionHypothesis =>
      intro draft coherent
      have first : draft.factory.Evolves u
          (u.implementTarget factoryId descriptor target draft).2.factory := by
        unfold implementTarget
        generalize draft.names.fresh (u.memberName descriptor.primary target.slot) = supply
        obtain ⟨name, names⟩ := supply
        simp only []
        split
        · have evolved := (u.linked_proceedSlot coherent target.slot).1
          generalize u.proceedSlot target.slot draft.factory = proceeds at evolved
          obtain ⟨result, f⟩ := proceeds
          cases result with
          | error fault => exact evolved
          | ok way =>
              rw [factory_declare]
              exact evolved
        · rw [factory_declare]
          exact .refl coherent
      unfold implementTargets
      generalize u.implementTarget factoryId descriptor target draft = outcome at first
      obtain ⟨result, between⟩ := outcome
      cases result with
      | error fault => exact first
      | ok _ => exact first.trans (inductionHypothesis between first.coherent)

end Universe

end Interpose
