/-
Module: Interpose.Proofs.MethodTables
Purpose: Which body a method table holds for a member, told from the declarations alone.
Main exports: Universe.explicitBody, Universe.implicitBody, Universe.find?_methodTable_own,
  Universe.find?_methodTable_inherited, Universe.resolve_eq_iff_of_alike
-/
import Interpose.Proofs.Hierarchy
import Interpose.Types.MethodTable

namespace Interpose

namespace Signature

theorem agrees_iff {one other : Signature} :
    one.agrees other = true ↔ one.name = other.name ∧ one.parameters = other.parameters ∧
      one.returns = other.returns ∧ one.arity = other.arity := by
  simp [agrees, arity, and_assoc]

theorem agrees_refl (signature : Signature) : signature.agrees signature = true :=
  agrees_iff.mpr ⟨rfl, rfl, rfl, rfl⟩

/-- Signatures that agree are told apart by no third one. -/
theorem agrees_congr {one other : Signature} (same : one.agrees other = true)
    (third : Signature) : one.agrees third = other.agrees third := by
  obtain ⟨name, parameters, returns, arity⟩ := agrees_iff.mp same
  unfold Signature.arity at arity
  simp [agrees, name, parameters, returns, arity]

end Signature

namespace Universe

/-- The body that a method has of its own. -/
def ownBody (u : Universe) (slot : Slot) : Option MethodBody :=
  (u.methodDeclaration? slot).bind (·.body)

/-- The body that a type gives to a member of another type by naming it; of
several the last. -/
def explicitBody (u : Universe) (id : TypeId) (slot : Slot) : Option MethodBody :=
  ((u.declaration id).implementations.reverse.find? fun pair => pair.1 == slot).map (·.2)

/-- The body that a type gives to an inherited member by declaring a method of
its shape; of several the first. -/
def implicitBody (u : Universe) (id : TypeId) (slot : Slot) : Option MethodBody :=
  if slot ∈ u.inheritedSlots id then
    ((u.ownBodies id).find? fun own =>
      (u.signature slot).agrees (u.signature own.1)).map (·.2)
  else none

/-! ### Slots -/

/-- The methods of a type are numbered in the order in which it declares them. -/
theorem mem_slots (u : Universe) {id : TypeId} {slot : Slot} :
    slot ∈ u.slots id ↔ slot.parent = id ∧ slot.index < (u.declaration id).methods.length := by
  simp only [slots, List.mem_map, List.mem_range]
  constructor
  · rintro ⟨index, bound, rfl⟩
    exact ⟨rfl, bound⟩
  · rintro ⟨rfl, bound⟩
    exact ⟨slot.index, bound, rfl⟩

theorem parent_of_mem_slots (u : Universe) {id : TypeId} {slot : Slot}
    (member : slot ∈ u.slots id) : slot.parent = id :=
  (u.mem_slots.mp member).1

private theorem mem_slots_of_ownBody (u : Universe) {slot : Slot} {body : MethodBody}
    (own : u.ownBody slot = some body) : slot ∈ u.slots slot.parent := by
  unfold ownBody at own
  obtain ⟨declared, lookup, _⟩ := Option.bind_eq_some_iff.mp own
  exact u.mem_slots.mpr ⟨rfl, (List.getElem?_eq_some_iff.mp lookup).1⟩

/-- The bodies that a type has for its own methods are those with which it declares them. -/
theorem mem_ownBodies (u : Universe) {id : TypeId} {slot : Slot} {body : MethodBody} :
    (slot, body) ∈ u.ownBodies id ↔ slot.parent = id ∧ u.ownBody slot = some body := by
  simp only [ownBodies, List.mem_filterMap, Option.map_eq_some_iff, Prod.mk.injEq]
  constructor
  · rintro ⟨other, member, found, own, rfl, rfl⟩
    exact ⟨u.parent_of_mem_slots member, own⟩
  · rintro ⟨rfl, own⟩
    exact ⟨slot, u.mem_slots_of_ownBody own, body, own, rfl, rfl⟩

/-- The interfaces of a type are those that it lists itself, with what they
reach, and those of the type that it extends. -/
theorem mem_own_or_inherited_iff (u : Universe) {id type : TypeId} :
    type ∈ u.allInterfaces id ↔
      type ∈ u.collectAll (u.interfaces id) [] ∨ type ∈ (u.base id).elim [] u.allInterfaces := by
  rw [mem_allInterfaces, mem_collectAll_nil]
  constructor
  · rintro ⟨ancestor, onChain, listed, isListed, reaches⟩
    cases extended : u.base id with
    | none =>
        rw [chain_eq, extended] at onChain
        obtain rfl : ancestor = id := by simpa using onChain
        exact .inl ⟨listed, isListed, reaches⟩
    | some parent =>
        rw [u.chain_of_base extended] at onChain
        rcases List.mem_cons.mp onChain with rfl | above
        · exact .inl ⟨listed, isListed, reaches⟩
        · exact .inr (u.mem_allInterfaces.mpr ⟨ancestor, above, listed, isListed, reaches⟩)
  · rintro (⟨listed, isListed, reaches⟩ | inherited)
    · exact ⟨id, u.mem_chain_self id, listed, isListed, reaches⟩
    · cases extended : u.base id with
      | none => simp [extended] at inherited
      | some parent =>
          rw [extended] at inherited
          obtain ⟨ancestor, above, rest⟩ := u.mem_allInterfaces.mp inherited
          refine ⟨ancestor, ?_, rest⟩
          rw [u.chain_of_base extended]
          exact List.mem_cons_of_mem id above

/-- What a type inherits: the virtual methods further up its chain and every
method of all its interfaces. -/
theorem mem_inheritedSlots (u : Universe) {id : TypeId} {slot : Slot} :
    slot ∈ u.inheritedSlots id ↔
      (slot ∈ u.slots slot.parent ∧ (u.signature slot).isVirtual = true ∧
        slot.parent ∈ u.chain id ∧ slot.parent ≠ id) ∨
      (slot ∈ u.slots slot.parent ∧ slot.parent ∈ u.allInterfaces id) := by
  have above : ∀ ancestor, ancestor ∈ (u.base id).elim [] u.chain ↔
      ancestor ∈ u.chain id ∧ ancestor ≠ id := by
    intro ancestor
    cases extended : u.base id with
    | none =>
        rw [chain_eq, extended]
        simp
    | some parent =>
        rw [u.chain_of_base extended]
        simp only [Option.elim_some, List.mem_cons]
        constructor
        · intro member
          have older := Nat.lt_of_le_of_lt (u.le_of_mem_chain member) (u.base_lt extended)
          exact ⟨.inr member, Nat.ne_of_lt older⟩
        · rintro ⟨same | member, different⟩
          · exact absurd same different
          · exact member
  -- Listing the own interfaces first and the further ones of the base after them changes the order,
  -- not the members.
  have interfaces : ∀ type,
      type ∈ u.collectAll (u.interfaces id) [] ++
          ((u.base id).elim [] u.allInterfaces).filter
            (fun listed => !(u.collectAll (u.interfaces id) []).contains listed) ↔
        type ∈ u.allInterfaces id := by
    intro type
    rw [mem_own_or_inherited_iff]
    by_cases own : type ∈ u.collectAll (u.interfaces id) [] <;> simp [own]
  unfold inheritedSlots
  simp only [List.mem_append (s := List.flatMap _ _), List.mem_flatMap, List.mem_filter, above,
    interfaces]
  constructor
  · rintro (⟨ancestor, ⟨onChain, different⟩, declared, isVirtual⟩ | ⟨type, listed, declared⟩)
    · obtain rfl := u.parent_of_mem_slots declared
      exact .inl ⟨declared, isVirtual, onChain, different⟩
    · obtain rfl := u.parent_of_mem_slots declared
      exact .inr ⟨declared, listed⟩
  · rintro (⟨declared, isVirtual, onChain, different⟩ | ⟨declared, listed⟩)
    · exact .inl ⟨slot.parent, ⟨onChain, different⟩, declared, isVirtual⟩
    · exact .inr ⟨slot.parent, listed, declared⟩

/-- Nothing inherited is declared by the type itself. -/
theorem parent_ne_of_mem_inheritedSlots (u : Universe) {id : TypeId} {slot : Slot}
    (member : slot ∈ u.inheritedSlots id) : slot.parent ≠ id := by
  rcases u.mem_inheritedSlots.mp member with ⟨_, _, _, different⟩ | ⟨_, listed⟩
  · exact different
  · exact Nat.ne_of_lt (u.lt_of_mem_allInterfaces listed)

/-! ### Look-ups in a method table -/

private theorem find?_explicitTable (u : Universe) (id : TypeId) (slot : Slot) :
    (u.explicitTable id).find? slot = u.explicitBody id slot := by
  rw [explicitTable, Table.find?_foldl_insert, Table.find?_empty, Option.or_none]
  rfl

/-- A body that is given by name was given by a clause of the declaration. -/
theorem mem_of_explicitBody (u : Universe) {id : TypeId} {slot : Slot} {body : MethodBody}
    (given : u.explicitBody id slot = some body) :
    (slot, body) ∈ (u.declaration id).implementations := by
  obtain ⟨pair, found, rfl⟩ := Option.map_eq_some_iff.mp given
  have same : pair.1 = slot := by simpa using List.find?_some found
  rw [← same]
  exact List.mem_reverse.mp (List.mem_of_find?_eq_some found)

/-- A type gives bodies by name to members of older types only. -/
theorem explicitBody_of_le (u : Universe) {id : TypeId} {slot : Slot} (younger : id ≤ slot.parent) :
    u.explicitBody id slot = none := by
  cases given : u.explicitBody id slot with
  | none => rfl
  | some body =>
      have older := u.lt_of_mem_implementations (u.mem_of_explicitBody given)
      exact absurd older (Nat.not_lt.mpr younger)

/-- One inherited slot at a time is filled if it is empty and of the shape of
the own method. -/
private theorem find?_fill (u : Universe) (own slot : Slot) (body : MethodBody)
    (inherited : List Slot) :
    ∀ table : Table Slot MethodBody,
      (inherited.foldl (fun filled slot =>
        if (u.signature slot).agrees (u.signature own) then filled.insertNew slot body else filled)
        table).find? slot =
      (table.find? slot).or
        (if slot ∈ inherited ∧ (u.signature slot).agrees (u.signature own) = true then some body
          else none) := by
  induction inherited with
  | nil => simp
  | cons head rest inductionHypothesis =>
      intro table
      rw [List.foldl_cons, inductionHypothesis]
      by_cases same : head = slot
      · subst same
        by_cases shape : (u.signature head).agrees (u.signature own) = true
        · simp [shape, Table.find?_insertNew]
        · simp [shape]
      · have other : slot ∈ head :: rest ↔ slot ∈ rest := by simp [Ne.symm same]
        by_cases shape : (u.signature head).agrees (u.signature own) = true
        · simp [shape, Table.find?_insertNew, same, other]
        · simp [shape, other]

/-- Entering an own body writes it for its own method, and for every inherited method of the shape
that has none yet. -/
private theorem find?_enterOwn (u : Universe) (inherited : List Slot)
    (table : Table Slot MethodBody) (own slot : Slot) (body : MethodBody) :
    (u.enterOwn inherited table own body).find? slot =
      if own = slot then some body
      else (table.find? slot).or
        (if slot ∈ inherited ∧ (u.signature slot).agrees (u.signature own) = true then some body
          else none) := by
  rw [enterOwn, Table.find?_insert, find?_fill]

/-- An inherited slot holds what was there before, or else the body of the first
own method of its shape. -/
private theorem find?_enterOwns_inherited (u : Universe) {inherited : List Slot} {slot : Slot} :
    ∀ (owns : List (Slot × MethodBody)) (table : Table Slot MethodBody),
      (∀ own ∈ owns, own.1 ≠ slot) →
      (owns.foldl (fun table own => u.enterOwn inherited table own.1 own.2) table).find? slot =
        (table.find? slot).or
          (if slot ∈ inherited then
            (owns.find? fun own => (u.signature slot).agrees (u.signature own.1)).map (·.2)
          else none) := by
  intro owns
  induction owns with
  | nil => simp
  | cons own rest inductionHypothesis =>
      intro table others
      have headOther : own.1 ≠ slot := others own List.mem_cons_self
      have restOther : ∀ later ∈ rest, later.1 ≠ slot := fun later member =>
        others later (List.mem_cons_of_mem own member)
      rw [List.foldl_cons, inductionHypothesis _ restOther, find?_enterOwn, if_neg headOther,
        Option.or_assoc]
      by_cases listed : slot ∈ inherited
      · by_cases shape : (u.signature slot).agrees (u.signature own.1) = true <;>
          simp [listed, shape]
      · simp [listed]

/-- The slot of an own method that is entered holds its body, whatever is
entered later. -/
private theorem find?_enterOwns_own (u : Universe) {inherited : List Slot} {slot : Slot}
    (fresh : slot ∉ inherited) :
    ∀ (owns : List (Slot × MethodBody)) (table : Table Slot MethodBody),
      (∀ own ∈ owns, u.ownBody own.1 = some own.2) →
      (owns.foldl (fun table own => u.enterOwn inherited table own.1 own.2) table).find? slot =
        if slot ∈ owns.map (·.1) then u.ownBody slot else table.find? slot := by
  intro owns
  induction owns with
  | nil => simp
  | cons own rest inductionHypothesis =>
      intro table bodies
      have restBodies : ∀ later ∈ rest, u.ownBody later.1 = some later.2 := fun later member =>
        bodies later (List.mem_cons_of_mem own member)
      rw [List.foldl_cons, inductionHypothesis _ restBodies, find?_enterOwn]
      by_cases later : slot ∈ rest.map (·.1)
      · rw [if_pos later, List.map_cons, if_pos (List.mem_cons_of_mem _ later)]
      · by_cases same : own.1 = slot
        · have body := bodies own List.mem_cons_self
          rw [same] at body
          simp [later, same, body]
        · simp [later, same, Ne.symm same, fresh]

/-- For a method of the type itself the table holds its own body. -/
theorem find?_methodTable_own (u : Universe) (slot : Slot) :
    (u.methodTable slot.parent).find? slot = u.ownBody slot := by
  have fresh : slot ∉ u.inheritedSlots slot.parent := fun member =>
    u.parent_ne_of_mem_inheritedSlots member rfl
  have bodies : ∀ own ∈ u.ownBodies slot.parent, u.ownBody own.1 = some own.2 :=
    fun own member => (u.mem_ownBodies.mp member).2
  rw [methodTable, find?_enterOwns_own u fresh _ _ bodies, find?_explicitTable,
    u.explicitBody_of_le (Nat.le_refl _)]
  split
  · rfl
  · rename_i absent
    cases own : u.ownBody slot with
    | none => rfl
    | some body =>
        exact absurd (List.mem_map.mpr ⟨_, u.mem_ownBodies.mpr ⟨rfl, own⟩, rfl⟩) absent

/-- For a member of another type the table holds the explicit body, or else the
implicit one. -/
theorem find?_methodTable_inherited (u : Universe) {id : TypeId} {slot : Slot}
    (other : slot.parent ≠ id) :
    (u.methodTable id).find? slot = (u.explicitBody id slot).or (u.implicitBody id slot) := by
  have others : ∀ own ∈ u.ownBodies id, own.1 ≠ slot := by
    intro own member same
    apply other
    rw [← same]
    exact (u.mem_ownBodies.mp member).1
  rw [methodTable, find?_enterOwns_inherited u _ _ others, find?_explicitTable]
  rfl

/-- A table holds bodies for members of the type itself and of older types. -/
theorem parent_le_of_find? (u : Universe) {id : TypeId} {slot : Slot} {body : MethodBody}
    (held : (u.methodTable id).find? slot = some body) : slot.parent ≤ id := by
  by_cases home : slot.parent = id
  · exact Nat.le_of_eq home
  · rw [find?_methodTable_inherited _ home] at held
    rcases Option.or_eq_some_iff.mp held with explicitly | ⟨_, implicitly⟩
    · exact Nat.le_of_lt (u.lt_of_mem_implementations (u.mem_of_explicitBody explicitly))
    · unfold implicitBody at implicitly
      split at implicitly
      · rename_i inherited
        rcases u.mem_inheritedSlots.mp inherited with ⟨_, _, onChain, _⟩ | ⟨_, listed⟩
        · exact u.le_of_mem_chain onChain
        · exact Nat.le_of_lt (u.lt_of_mem_allInterfaces listed)
      · cases implicitly

/-! ### Resolution -/

theorem resolve_of_find? (u : Universe) {id : TypeId} {slot : Slot} {body : MethodBody}
    (held : (u.methodTable id).find? slot = some body) : u.resolve id slot = some body := by
  rw [resolve, chain_eq, List.findSome?_cons, held]

theorem require_of_find? (u : Universe) {id : TypeId} {method : Method} {body : MethodBody}
    (held : (u.methodTable id).find? method.slot = some body) : u.require id method = .ok body := by
  rw [require, u.resolve_of_find? held]

/-- What the table of a type does not hold is resolved by the type that it extends. -/
theorem resolve_of_base (u : Universe) {id parent : TypeId} (extended : u.base id = some parent)
    (slot : Slot) :
    u.resolve id slot = ((u.methodTable id).find? slot).or (u.resolve parent slot) := by
  unfold resolve
  rw [u.chain_of_base extended, List.findSome?_cons]
  cases (u.methodTable id).find? slot <;> rfl

/-- A body that is required is one that is resolved. -/
theorem resolve_of_require (u : Universe) {id : TypeId} {method : Method} {body : MethodBody}
    (found : u.require id method = .ok body) : u.resolve id method.slot = some body := by
  unfold require at found
  split at found
  · rename_i resolved
    rw [resolved, Except.ok.inj found]
  · cases found

/-- A body that is found is held by the table of some type of the chain. -/
theorem exists_of_resolve (u : Universe) {id : TypeId} {slot : Slot} {body : MethodBody}
    (found : u.resolve id slot = some body) :
    ∃ ancestor ∈ u.chain id, (u.methodTable ancestor).find? slot = some body :=
  List.exists_of_findSome?_eq_some found

theorem findSome?_congr {α β : Type} {one other : α → Option β} {items : List α}
    (same : ∀ item ∈ items, one item = other item) :
    items.findSome? one = items.findSome? other := by
  induction items with
  | nil => rfl
  | cons item rest inductionHypothesis =>
      rw [List.findSome?_cons, List.findSome?_cons, same item List.mem_cons_self,
        inductionHypothesis fun later member => same later (List.mem_cons_of_mem item member)]

/-- Resolution compares two members along a chain.  Where the tables of all types
below `ancestor` hold the same for both, one of these types decides for both, or
else `ancestor` does. -/
theorem resolve_eq_iff_of_alike (u : Universe) {id ancestor : TypeId} {one other : Slot}
    (onChain : ancestor ∈ u.chain id)
    (alike : ∀ type ∈ u.chain id, ancestor ∈ u.chain type → type ≠ ancestor →
      (u.methodTable type).find? one = (u.methodTable type).find? other) :
    u.resolve id one = u.resolve id other ↔
      (∃ type ∈ u.chain id, ancestor ∈ u.chain type ∧ type ≠ ancestor ∧
        ((u.methodTable type).find? other).isSome = true) ∨
      u.resolve ancestor one = u.resolve ancestor other := by
  obtain ⟨below, split⟩ := u.suffix_of_mem_chain onChain
  have pairwise := u.pairwise_chain id
  rw [← split] at pairwise
  have further := (List.pairwise_append.mp pairwise).2.2
  have listed : ∀ type ∈ below, type ∈ u.chain id ∧ ancestor ∈ u.chain type ∧ type ≠ ancestor := by
    intro type member
    obtain ⟨reaches, older⟩ := further type member ancestor (u.mem_chain_self ancestor)
    refine ⟨?_, reaches, Nat.ne_of_gt older⟩
    rw [← split]
    exact List.mem_append_left _ member
  -- Below the ancestor the tables do not tell the two methods apart.
  have same : below.findSome? (fun type => (u.methodTable type).find? one) =
      below.findSome? (fun type => (u.methodTable type).find? other) := by
    apply findSome?_congr
    intro type member
    obtain ⟨onChain, reaches, different⟩ := listed type member
    exact alike type onChain reaches different
  have resolved : ∀ slot, u.resolve id slot =
      (below.findSome? fun type => (u.methodTable type).find? slot).or
        (u.resolve ancestor slot) := by
    intro slot
    unfold resolve
    rw [← split, List.findSome?_append]
  rw [resolved, resolved, same]
  -- So either a type below decides, and decides the same for both, or the ancestor does.
  cases found : below.findSome? (fun type => (u.methodTable type).find? other) with
  | some body =>
      obtain ⟨type, member, held⟩ := List.exists_of_findSome?_eq_some found
      obtain ⟨onChain, reaches, different⟩ := listed type member
      have decided : ((u.methodTable type).find? other).isSome = true := by
        rw [held]
        rfl
      exact ⟨fun _ => .inl ⟨type, onChain, reaches, different, decided⟩, fun _ => rfl⟩
  | none =>
      constructor
      · exact .inr
      · rintro (⟨type, onChain, reaches, different, held⟩ | decided)
        · rw [← split] at onChain
          rcases List.mem_append.mp onChain with member | above
          · rw [List.findSome?_eq_none_iff.mp found type member] at held
            cases held
          · have older := u.le_of_mem_chain above
            exact absurd (Nat.le_antisymm older (u.le_of_mem_chain reaches)) different
        · exact decided

end Universe

end Interpose
