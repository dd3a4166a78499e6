/-
Module: Interpose.Proofs.Growth
Purpose: Defining further types changes nothing about the types that are there.
Main exports: Universe.Extends, Universe.Extends.isAssignable_eq,
  Universe.Extends.find?_methodTable, Universe.Extends.resolve_eq, Universe.Extends.compile_of_ok
-/
import Mathlib.Data.List.Basic
import Mathlib.Data.List.Find
import Mathlib.Tactic.ByContra
import Interpose.Proofs.MethodTables
import Interpose.Thunk

namespace Interpose.Universe

/-- The types of one universe are the first ones of another. -/
structure Extends (u later : Universe) : Prop where
  size_le : u.size ≤ later.size
  declaration_eq : ∀ id < u.size, later.declaration id = u.declaration id

theorem size_lt_size_define (u : Universe) (added : TypeDeclaration) :
    u.size < (u.define added).size := by
  simp [size, define]

theorem extends_define (u : Universe) (added : TypeDeclaration) : u.Extends (u.define added) where
  size_le := Nat.le_of_lt (u.size_lt_size_define added)
  declaration_eq := fun _ defined => u.declaration_define_of_lt added defined

theorem declaration_of_size_le (u : Universe) {id : TypeId} (absent : u.size ≤ id) :
    u.declaration id = undefined := by
  unfold declaration
  rw [Array.getElem?_eq_none absent]
  rfl

/-- Only the synthesizer makes proxy types, and what is not defined counts as one. -/
theorem lt_size_of_kind (u : Universe) {id : TypeId} (kind : u.kind id ≠ .proxyType) :
    id < u.size := by
  by_contra absent
  apply kind
  rw [Universe.kind, u.declaration_of_size_le (Nat.le_of_not_lt absent)]
  rfl

/-- A method is declared by a type that is there: one that is not there declares nothing. -/
theorem lt_size_of_mem_slots (u : Universe) {slot : Slot} (declared : slot ∈ u.slots slot.parent) :
    slot.parent < u.size := by
  by_contra absent
  have members := (u.mem_slots.mp declared).2
  rw [u.declaration_of_size_le (Nat.le_of_not_lt absent)] at members
  simp [undefined, TypeDeclaration.bare] at members

namespace Extends

variable {u later further : Universe}

theorem refl (u : Universe) : u.Extends u := ⟨Nat.le_refl _, fun _ _ => rfl⟩

theorem trans (first : u.Extends later) (second : later.Extends further) : u.Extends further where
  size_le := Nat.le_trans first.size_le second.size_le
  declaration_eq := by
    intro id defined
    rw [second.declaration_eq id (Nat.lt_of_lt_of_le defined first.size_le)]
    exact first.declaration_eq id defined

section Questions

variable (extended : u.Extends later)

include extended

theorem base_eq {id : TypeId} (defined : id < u.size) : later.base id = u.base id := by
  rw [base, base, extended.declaration_eq id defined]

private theorem interfaces_eq {id : TypeId} (defined : id < u.size) :
    later.interfaces id = u.interfaces id := by
  rw [interfaces, interfaces, extended.declaration_eq id defined]

theorem kind_eq {id : TypeId} (defined : id < u.size) : later.kind id = u.kind id := by
  rw [kind, kind, extended.declaration_eq id defined]

theorem isInterface_eq {id : TypeId} (defined : id < u.size) :
    later.isInterface id = u.isInterface id := by
  rw [isInterface, isInterface, extended.kind_eq defined]

theorem slots_eq {id : TypeId} (defined : id < u.size) : later.slots id = u.slots id := by
  rw [slots, slots, extended.declaration_eq id defined]

private theorem methodDeclaration?_eq {slot : Slot} (defined : slot.parent < u.size) :
    later.methodDeclaration? slot = u.methodDeclaration? slot := by
  rw [methodDeclaration?, methodDeclaration?, extended.declaration_eq _ defined]

theorem signature_eq {slot : Slot} (defined : slot.parent < u.size) :
    later.signature slot = u.signature slot := by
  rw [signature, signature, extended.methodDeclaration?_eq defined]

/-- What a type extends was there before the type, so later types do not come into its chain. -/
theorem chain_eq {id : TypeId} (defined : id < u.size) : later.chain id = u.chain id := by
  induction id using Nat.strongRecOn with
  | ind id inductionHypothesis =>
      rw [Universe.chain_eq later, Universe.chain_eq u, extended.base_eq defined]
      cases extends_ : u.base id with
      | none => rfl
      | some parent =>
          have older := u.base_lt extends_
          have same := inductionHypothesis parent older (Nat.lt_trans older defined)
          simp only [Option.elim_some, same]

/-- The walk from a type goes to earlier types only, so it does not come upon later ones. -/
theorem collect_eq {id : TypeId} (defined : id < u.size) :
    ∀ found, later.collect id found = u.collect id found := by
  induction id using Nat.strongRecOn with
  | ind id inductionHypothesis =>
      intro found
      have older : ∀ listed ∈ u.interfaces id, listed < u.size := fun listed isListed =>
        Nat.lt_trans (u.interface_lt isListed) defined
      rw [Universe.collect_eq later, Universe.collect_eq u, extended.interfaces_eq defined,
        collectAll_congr fun listed isListed =>
          inductionHypothesis listed (u.interface_lt isListed) (older listed isListed)]

/-- A type goes on having the interfaces that it has. -/
theorem allInterfaces_eq {id : TypeId} (defined : id < u.size) :
    later.allInterfaces id = u.allInterfaces id := by
  have onChain : ∀ ancestor ∈ u.chain id, ancestor < u.size := fun ancestor member =>
    Nat.lt_of_le_of_lt (u.le_of_mem_chain member) defined
  have listed : (u.chain id).flatMap later.interfaces = (u.chain id).flatMap u.interfaces :=
    List.flatMap_congr fun ancestor member => extended.interfaces_eq (onChain ancestor member)
  rw [Universe.allInterfaces_eq later, Universe.allInterfaces_eq u, extended.chain_eq defined,
    listed]
  have known : ∀ type ∈ (u.chain id).flatMap u.interfaces, type < u.size := by
    intro type member
    obtain ⟨ancestor, above, isListed⟩ := List.mem_flatMap.mp member
    exact Nat.lt_trans (u.interface_lt isListed) (onChain ancestor above)
  exact collectAll_congr (fun type member => extended.collect_eq (known type member)) []

/-- What an object of a defined type may stand for is settled with its type. -/
theorem isAssignable_eq {id target : TypeId} (defined : id < u.size) :
    later.isAssignable id target = u.isAssignable id target := by
  rw [isAssignable, isAssignable, extended.chain_eq defined, extended.allInterfaces_eq defined]
  by_cases found : target ∈ u.allInterfaces id
  · rw [extended.isInterface_eq (Nat.lt_trans (u.lt_of_mem_allInterfaces found) defined)]
  · simp [found]

/-! ### Method tables -/

theorem explicitBody_eq {id : TypeId} (slot : Slot) (defined : id < u.size) :
    later.explicitBody id slot = u.explicitBody id slot := by
  rw [explicitBody, explicitBody, extended.declaration_eq id defined]

theorem ownBody_eq {slot : Slot} (defined : slot.parent < u.size) :
    later.ownBody slot = u.ownBody slot := by
  rw [ownBody, ownBody, extended.methodDeclaration?_eq defined]

private theorem ownBodies_eq {id : TypeId} (defined : id < u.size) :
    later.ownBodies id = u.ownBodies id := by
  rw [ownBodies, ownBodies, extended.slots_eq defined]
  apply List.filterMap_congr
  intro slot member
  rw [extended.methodDeclaration?_eq]
  rw [u.parent_of_mem_slots member]
  exact defined

/-- A type inherits the same methods in a later universe. -/
theorem mem_inheritedSlots {id : TypeId} {slot : Slot} (defined : id < u.size) :
    slot ∈ later.inheritedSlots id ↔ slot ∈ u.inheritedSlots id := by
  rw [Universe.mem_inheritedSlots, Universe.mem_inheritedSlots, extended.chain_eq defined,
    extended.allInterfaces_eq defined]
  by_cases known : slot.parent < u.size
  · rw [extended.slots_eq known, extended.signature_eq known]
  · have notAbove : slot.parent ∉ u.chain id := fun member =>
      known (Nat.lt_of_le_of_lt (u.le_of_mem_chain member) defined)
    have notListed : slot.parent ∉ u.allInterfaces id := fun member =>
      known (Nat.lt_trans (u.lt_of_mem_allInterfaces member) defined)
    simp [notAbove, notListed]

/-- The methods of a type that implement a given one by their shape are the same ones later. -/
private theorem implicitBody_eq {id : TypeId} (slot : Slot) (defined : id < u.size) :
    later.implicitBody id slot = u.implicitBody id slot := by
  unfold implicitBody
  rw [extended.ownBodies_eq defined]
  by_cases inherited : slot ∈ u.inheritedSlots id
  · rw [if_pos inherited, if_pos ((extended.mem_inheritedSlots defined).mpr inherited)]
    have older : slot.parent < u.size := by
      rcases u.mem_inheritedSlots.mp inherited with ⟨declared, _⟩ | ⟨declared, _⟩ <;>
        exact u.lt_size_of_mem_slots declared
    congr 1
    apply List.find?_congr
    rintro ⟨own, body⟩ member
    have declaredHere := (u.mem_ownBodies.mp member).1
    rw [extended.signature_eq older, extended.signature_eq (declaredHere ▸ defined)]
  · rw [if_neg inherited, if_neg (mt (extended.mem_inheritedSlots defined).mp inherited)]

/-- The method table of a type never changes. -/
theorem find?_methodTable {id : TypeId} (slot : Slot) (defined : id < u.size) :
    (later.methodTable id).find? slot = (u.methodTable id).find? slot := by
  by_cases own : slot.parent = id
  · subst own
    rw [find?_methodTable_own, find?_methodTable_own, extended.ownBody_eq defined]
  · rw [find?_methodTable_inherited later own, find?_methodTable_inherited u own,
      extended.explicitBody_eq slot defined, extended.implicitBody_eq slot defined]

/-- A type goes on resolving a method to the body that it resolves it to. -/
theorem resolve_eq {id : TypeId} (slot : Slot) (defined : id < u.size) :
    later.resolve id slot = u.resolve id slot := by
  unfold resolve
  rw [extended.chain_eq defined]
  apply findSome?_congr
  intro ancestor member
  exact extended.find?_methodTable slot (Nat.lt_of_le_of_lt (u.le_of_mem_chain member) defined)

/-! ### Signatures and thunks -/

private theorem checkSignature_eq {method : Method} (defined : method.parent < u.size) :
    later.checkSignature method = u.checkSignature method := by
  have same : later.signature method.slot = u.signature method.slot :=
    extended.signature_eq defined
  unfold checkSignature openParameter? isGenericDefinition isGeneric parameters returnType
  rw [same]

/-- The thunk of a method depends on the method alone, whatever types are defined after its
declaring type. -/
private theorem compile_eq {method : Method} (defined : method.parent < u.size) :
    later.compile method = u.compile method := by
  have same : later.signature method.slot = u.signature method.slot :=
    extended.signature_eq defined
  unfold compile Thunk.assemble isGenericDefinition isGeneric parameters returnType
  rw [extended.checkSignature_eq defined, same]

end Questions

end Extends

/-- Only declared methods have supported signatures. -/
private theorem mem_slots_of_checkSignature (u : Universe) {method : Method}
    (supported : u.checkSignature method = .ok ()) : method.slot ∈ u.slots method.parent := by
  by_contra absent
  have none : u.methodDeclaration? method.slot = none := by
    apply List.getElem?_eq_none
    by_contra bound
    exact absent (u.mem_slots.mpr ⟨rfl, Nat.lt_of_not_le bound⟩)
  simp [checkSignature, signature, none, undeclared] at supported

theorem checkSignature_of_compile (u : Universe) {method : Method} {thunk : Thunk}
    (compiled : u.compile method = .ok thunk) : u.checkSignature method = .ok () := by
  unfold compile at compiled
  split at compiled
  · cases compiled
  · assumption

theorem lt_size_of_checkSignature (u : Universe) {method : Method}
    (supported : u.checkSignature method = .ok ()) : method.parent < u.size :=
  u.lt_size_of_mem_slots (u.mem_slots_of_checkSignature supported)

/-- A compiled thunk is the thunk that later compilations make. -/
theorem Extends.compile_of_ok {u later : Universe} (extended : u.Extends later) {method : Method}
    {thunk : Thunk} (compiled : u.compile method = .ok thunk) :
    later.compile method = .ok thunk := by
  rw [extended.compile_eq (u.lt_size_of_checkSignature (u.checkSignature_of_compile compiled))]
  exact compiled

/-- Type arguments that a declared method took are taken by it later. -/
theorem Extends.makeGeneric_of_ok {u later : Universe} (extended : u.Extends later)
    {method closed : Method} {arguments : List RuntimeType}
    (made : u.makeGeneric method arguments = .ok closed) :
    later.makeGeneric method arguments = .ok closed := by
  have generic : (u.signature method.slot).arity ≠ 0 := by
    intro none
    simp [makeGeneric, none] at made
  have declared : method.parent < u.size := by
    by_contra absent
    apply generic
    have undefined := u.declaration_of_size_le (Nat.le_of_not_lt absent)
    unfold Method.parent at undefined
    simp [signature, methodDeclaration?, undefined, Universe.undefined, TypeDeclaration.bare,
      undeclared, Signature.arity]
  unfold makeGeneric at made ⊢
  rw [extended.signature_eq declared]
  exact made

/-- A signature that is supported is supported later. -/
theorem Extends.checkSignature_of_ok {u later : Universe} (extended : u.Extends later)
    {method : Method} (supported : u.checkSignature method = .ok ()) :
    later.checkSignature method = .ok () := by
  rw [extended.checkSignature_eq (u.lt_size_of_checkSignature supported)]
  exact supported

end Interpose.Universe
