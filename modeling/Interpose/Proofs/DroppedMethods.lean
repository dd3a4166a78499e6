/-
Module: Interpose.Proofs.DroppedMethods
Purpose: What a proxy type runs for methods that it does not implement.
Main exports: Universe.ownLike, Universe.dropped_method_resolved
-/
import Interpose.Proofs.ProxyTypes

namespace Interpose.Universe

/-- The first method that a type declares with the name and shape of another one. -/
def ownLike (u : Universe) (id : TypeId) (slot : Slot) : Option Slot :=
  (u.slots id).find? fun own => (u.signature slot).agrees (u.signature own)

/-- Where every candidate has a body, the first one that passes a test is also the
first among the bodies. -/
private theorem find?_withBodies (u : Universe) (test : Slot → Bool) (slots : List Slot)
    (complete : ∀ own ∈ slots, (u.ownBody own).isSome = true) :
    ((slots.filterMap fun own => (u.ownBody own).map fun body => (own, body)).find?
      fun own => test own.1).map (·.2) = (slots.find? test).bind u.ownBody := by
  induction slots with
  | nil => rfl
  | cons own rest inductionHypothesis =>
      obtain ⟨body, held⟩ := Option.isSome_iff_exists.mp (complete own List.mem_cons_self)
      have others := inductionHypothesis fun later member =>
        complete later (List.mem_cons_of_mem own member)
      rw [List.filterMap_cons, held, Option.map_some]
      by_cases passes : test own = true
      · simp [passes, held]
      · simpa [passes] using others

/-- A type all of whose methods have a body gives an inherited member the body of
its first method of that name and shape. -/
private theorem implicitBody_eq_ownLike (u : Universe) {id : TypeId} (slot : Slot)
    (complete : ∀ own ∈ u.slots id, (u.ownBody own).isSome = true) :
    u.implicitBody id slot =
      if slot ∈ u.inheritedSlots id then (u.ownLike id slot).bind u.ownBody else none := by
  unfold implicitBody ownLike
  rw [← u.find?_withBodies _ (u.slots id) complete]
  rfl

namespace Assembly

variable {u now : Universe} {factoryId : FactoryId} {descriptor : Descriptor}
  {members : List Member} {declaration : TypeDeclaration}
  (assembly : u.Assembly factoryId descriptor members declaration)

include assembly

/-- Every method that a proxy type declares is a member, with its body. -/
private theorem member_of_mem_slots (extended : (u.define declaration).Extends now) {own : Slot}
    (declared : own ∈ now.slots u.size) :
    ∃ member ∈ members, now.ownBody own = some member.body ∧
      now.signature own = { u.signature member.target.slot with name := member.name } := by
  have defined := u.size_lt_size_define declaration
  rw [extended.slots_eq defined] at declared
  obtain ⟨home, bound⟩ := (u.define declaration).mem_slots.mp declared
  rw [assembly.declaration_eq, assembly.methods, List.length_map] at bound
  have held : (u.define declaration).ownBody own = some members[own.index].body := by
    unfold ownBody
    rw [assembly.ownBody_eq home, List.getElem?_eq_getElem bound]
    rfl
  obtain ⟨member, listed, same, signature⟩ := assembly.member_of_own home held
  rw [← home] at defined
  refine ⟨member, listed, ?_, ?_⟩
  · rw [extended.ownBody_eq defined, held, same]
  · rw [extended.signature_eq defined, signature]

/-- The synthesizer names no method that it dropped. -/
private theorem explicitBody_of_dropped (extended : (u.define declaration).Extends now)
    {slot : Slot} (dropped : now.isProxyable slot = false)
    (ordinary : ∀ which, slot ≠ Universal.accessorSlot which) :
    now.explicitBody u.size slot = none := by
  have defined := u.size_lt_size_define declaration
  rw [extended.explicitBody_eq slot defined]
  cases given : (u.define declaration).explicitBody u.size slot with
  | none => rfl
  | some body =>
      rcases assembly.of_explicitBody given with
        ⟨which, same, _⟩ | ⟨member, listed, handles, _⟩
      · exact absurd same (ordinary which)
      · obtain ⟨proxyable, declared, _⟩ := assembly.handled listed handles
        have grown := (u.extends_define declaration).trans extended
        rw [grown.isProxyable_eq (u.lt_size_of_mem_slots declared), proxyable] at dropped
        cases dropped

end Assembly

/-- Methods that the synthesizer drops.  A proxy type gives no body by name to a
method of another type that is not virtual or has a special name, the accessors
apart.  It runs what the type that it extends runs for the method, unless it
inherits the method and declares a member of the same name and shape.  If the
method is virtual, the body of the first such member is run in its place: it
intercepts or forwards a method that was not dropped. -/
theorem dropped_method_resolved (u : Universe) {factoryId : FactoryId} {descriptor : Descriptor}
    {f after : Factory} {proxyType : ProxyType} {later now : Universe}
    (made : u.synthesize factoryId descriptor f = (.ok proxyType, later, after))
    (extended : later.Extends now) {slot : Slot} (other : slot.parent ≠ proxyType.type)
    (dropped : now.isProxyable slot = false)
    (ordinary : ∀ which, slot ≠ Universal.accessorSlot which) :
    now.explicitBody proxyType.type slot = none ∧
      (slot ∉ now.inheritedSlots proxyType.type ∨ now.ownLike proxyType.type slot = none →
        now.resolve proxyType.type slot =
          now.resolve (u.proxyBase descriptor.primary) slot) ∧
      ((now.signature slot).isVirtual = true → slot ∈ now.inheritedSlots proxyType.type →
        ∀ own, now.ownLike proxyType.type slot = some own →
          ∃ body carried, now.ownBody own = some body ∧
            now.resolve proxyType.type slot = some body ∧ now.isProxyable carried = true ∧
            (now.signature slot).parameters = (now.signature carried).parameters ∧
            (now.signature slot).returns = (now.signature carried).returns ∧
            ((∃ dispatch, body = .intercepted carried dispatch factoryId) ∨
              body = .passThrough carried factoryId)) := by
  obtain ⟨members, declaration, assembly, rfl, rfl, _⟩ := u.assembly_of_synthesize made
  have defined := u.size_lt_size_define declaration
  have grown := (u.extends_define declaration).trans extended
  have unnamed := assembly.explicitBody_of_dropped extended dropped ordinary
  have base : now.base u.size = some (u.proxyBase descriptor.primary) :=
    (extended.base_eq defined).trans assembly.base_eq
  have complete : ∀ own ∈ now.slots u.size, (now.ownBody own).isSome = true := by
    intro own declared
    obtain ⟨_, _, held, _⟩ := assembly.member_of_mem_slots extended declared
    rw [held]
    rfl
  -- Nothing names the dropped method, so its place holds the body of the first own method of its
  -- shape, if it is captured at all.
  have filled : (now.methodTable u.size).find? slot =
      if slot ∈ now.inheritedSlots u.size then (now.ownLike u.size slot).bind now.ownBody
      else none := by
    rw [now.find?_methodTable_inherited other, unnamed, Option.none_or,
      now.implicitBody_eq_ownLike slot complete]
  refine ⟨unnamed, ?_, ?_⟩
  · intro alone
    have empty : (now.methodTable u.size).find? slot = none := by
      rw [filled]
      rcases alone with foreign | unlike
      · exact if_neg foreign
      · rw [unlike]
        exact ite_self none
    rw [now.resolve_of_base base, empty, Option.none_or]
  · intro _ inherited own like
    have declared : own ∈ now.slots u.size := List.mem_of_find?_eq_some like
    have shape := List.find?_some like
    obtain ⟨member, listed, held, signature⟩ := assembly.member_of_mem_slots extended declared
    have placed := assembly.wellPlaced listed
    have older := u.lt_size_of_mem_slots placed.declared
    rw [if_pos inherited, like, Option.bind_some, held] at filled
    rw [signature] at shape
    obtain ⟨_, parameters, returns, _⟩ := Signature.agrees_iff.mp shape
    refine ⟨member.body, member.target.slot, held, now.resolve_of_find? filled, ?_, ?_, ?_, ?_⟩
    · rw [grown.isProxyable_eq older]
      exact placed.proxyable
    · rw [grown.signature_eq older]
      exact parameters
    · rw [grown.signature_eq older]
      exact returns
    · rcases assembly.routed member listed with ⟨_, dispatch, body⟩ | ⟨_, body⟩
      · exact .inl ⟨dispatch, body⟩
      · exact .inr body

def run : Signature := { name := "Run", returns := .int32 }

/-- Two interfaces that declare the same method, the second one by a special name. -/
def doublyDeclared : Universe :=
  (initial.define ((TypeDeclaration.interface "IRunner").addMethod run none)).define
    ((TypeDeclaration.interface "ISpecial").addMethod { run with isSpecialName := true } none)

/-- The method with the special name is no target, and the universal base type has no
body for it.  The proxy type still runs it as if it were the other method. -/
theorem dropped_method_captured :
    let outcome := doublyDeclared.synthesize 0 ⟨2, [3], .standard⟩ default
    outcome.1 = .ok ⟨4, 2, [3], .standard⟩ ∧ outcome.2.1.isProxyable ⟨3, 0⟩ = false ∧
      (∀ which, (⟨3, 0⟩ : Slot) ≠ Universal.accessorSlot which) ∧
      doublyDeclared.proxyBase 2 = objectType ∧
      outcome.2.1.resolve 4 ⟨3, 0⟩ = some (.intercepted ⟨2, 0⟩ (.direct 0) 0) ∧
      outcome.2.1.resolve objectType ⟨3, 0⟩ = none := by
  refine ⟨?_, ?_, ?_, ?_, ?_, ?_⟩
  case refine_3 =>
    intro which
    cases which <;> decide
  all_goals with_unfolding_all rfl

/-- Asked for the second interface alone, the proxy type has no member of the name
and runs the method as the universal base type does, not at all. -/
theorem dropped_method_resolved_special :
    let outcome := doublyDeclared.synthesize 0 ⟨3, [], .standard⟩ default
    outcome.1 = .ok ⟨4, 3, [], .standard⟩ ∧ outcome.2.1.resolve 4 ⟨3, 0⟩ = none := by
  intro outcome
  have succeeds : outcome.1 = .ok ⟨4, 3, [], .standard⟩ := by with_unfolding_all rfl
  have made : outcome = (.ok ⟨4, 3, [], .standard⟩, outcome.2.1, outcome.2.2) := by
    rw [← succeeds]
  have dropped : outcome.2.1.isProxyable ⟨3, 0⟩ = false := by
    unfold outcome
    decide +kernel
  have ordinary : ∀ which, (⟨3, 0⟩ : Slot) ≠ Universal.accessorSlot which := by
    intro which
    cases which <;> decide
  have unlike : outcome.2.1.ownLike 4 ⟨3, 0⟩ = none := by
    unfold outcome
    decide +kernel
  have bodiless : outcome.2.1.resolve (doublyDeclared.proxyBase 3) ⟨3, 0⟩ = none := by
    with_unfolding_all rfl
  have other : (⟨3, 0⟩ : Slot).parent ≠ 4 := by decide
  obtain ⟨_, alone, _⟩ :=
    dropped_method_resolved doublyDeclared made (.refl outcome.2.1) other dropped ordinary
  exact ⟨succeeds, (alone (.inr unlike)).trans bodiless⟩

end Interpose.Universe
