/-
Module: Interpose.Proofs.Hierarchy
Purpose: What the walks along extended and implemented types find.
Main exports: Universe.Reaches, Universe.mem_collectAll_nil, Universe.mem_allInterfaces,
  Universe.suffix_of_mem_chain, Universe.pairwise_chain
-/
import Mathlib.Logic.Relation
import Interpose.Types.Universe

namespace Interpose.Universe

/-- One type is reached from another along the types that types list as
implemented. -/
def Reaches (u : Universe) : TypeId → TypeId → Prop :=
  Relation.ReflTransGen fun one other => other ∈ u.interfaces one

theorem le_of_reaches (u : Universe) {id type : TypeId} (reaches : u.Reaches id type) :
    type ≤ id := by
  induction reaches with
  | refl => exact Nat.le_refl id
  | tail _ listed shorter => exact Nat.le_trans (Nat.le_of_lt (u.interface_lt listed)) shorter

/-! ### The chain of extended types -/

theorem chain_eq (u : Universe) (id : TypeId) :
    u.chain id = id :: (u.base id).elim [] u.chain := by
  rw [chain]
  split <;> rename_i extended <;> simp [extended]

theorem mem_chain_self (u : Universe) (id : TypeId) : id ∈ u.chain id := by
  rw [chain_eq]
  exact List.mem_cons_self

theorem chain_of_base (u : Universe) {id parent : TypeId} (extended : u.base id = some parent) :
    u.chain id = id :: u.chain parent := by
  rw [chain_eq, extended]
  rfl

/-- The chain of an ancestor is the end of every chain on which it lies. -/
theorem suffix_of_mem_chain (u : Universe) {id ancestor : TypeId}
    (member : ancestor ∈ u.chain id) : u.chain ancestor <:+ u.chain id := by
  induction id using Nat.strongRecOn with
  | ind id inductionHypothesis =>
      cases extended : u.base id with
      | none =>
          rw [chain_eq, extended] at member
          obtain rfl : ancestor = id := by simpa using member
          exact List.suffix_refl _
      | some parent =>
          rw [u.chain_of_base extended] at member
          rcases List.mem_cons.mp member with rfl | above
          · exact List.suffix_refl _
          · have shorter := inductionHypothesis parent (u.base_lt extended) above
            rw [u.chain_of_base extended]
            exact shorter.trans (List.suffix_cons id _)

theorem mem_chain_trans (u : Universe) {id ancestor further : TypeId}
    (member : ancestor ∈ u.chain id) (above : further ∈ u.chain ancestor) :
    further ∈ u.chain id :=
  (u.suffix_of_mem_chain member).subset above

/-- Types on a chain are defined before the type that it starts from. -/
theorem le_of_mem_chain (u : Universe) {id ancestor : TypeId}
    (member : ancestor ∈ u.chain id) : ancestor ≤ id := by
  induction id using Nat.strongRecOn with
  | ind id inductionHypothesis =>
      cases extended : u.base id with
      | none =>
          rw [chain_eq, extended] at member
          obtain rfl : ancestor = id := by simpa using member
          exact Nat.le_refl _
      | some parent =>
          rw [u.chain_of_base extended] at member
          rcases List.mem_cons.mp member with rfl | above
          · exact Nat.le_refl _
          · have older := u.base_lt extended
            exact Nat.le_trans (inductionHypothesis parent older above) (Nat.le_of_lt older)

/-- Later types of a chain lie on the chains of earlier ones and are older. -/
theorem pairwise_chain (u : Universe) (id : TypeId) :
    (u.chain id).Pairwise fun one other => other ∈ u.chain one ∧ other < one := by
  induction id using Nat.strongRecOn with
  | ind id inductionHypothesis =>
      cases extended : u.base id with
      | none =>
          rw [chain_eq, extended]
          exact List.pairwise_singleton _ _
      | some parent =>
          have older := u.base_lt extended
          rw [u.chain_of_base extended]
          refine List.pairwise_cons.mpr ⟨?_, inductionHypothesis parent older⟩
          intro ancestor above
          refine ⟨?_, Nat.lt_of_le_of_lt (u.le_of_mem_chain above) older⟩
          rw [u.chain_of_base extended]
          exact List.mem_cons_of_mem id above

/-! ### The walk along implemented types -/

/-- What a walk from `ids` may turn `found` into: it keeps what was found, finds
where it starts and only what is reached from there, and every type that it
adds has all its listed types found. -/
structure Walked (u : Universe) (ids found reached : List TypeId) : Prop where
  kept : ∀ type ∈ found, type ∈ reached
  started : ∀ id ∈ ids, id ∈ reached
  reachable : ∀ type ∈ reached, type ∈ found ∨ ∃ id ∈ ids, u.Reaches id type
  complete : ∀ type ∈ reached, type ∈ found ∨ ∀ listed ∈ u.interfaces type, listed ∈ reached

namespace Walked

variable {u : Universe}

theorem nil (found : List TypeId) : u.Walked [] found found where
  kept := fun _ member => member
  started := by simp
  reachable := fun _ member => .inl member
  complete := fun _ member => .inl member

/-- Two walks, one after the other, make a walk from both starts. -/
theorem trans {ids others found between reached : List TypeId}
    (first : u.Walked ids found between) (second : u.Walked others between reached) :
    u.Walked (ids ++ others) found reached where
  kept := fun type member => second.kept type (first.kept type member)
  started := by
    intro id member
    rcases List.mem_append.mp member with early | late
    · exact second.kept id (first.started id early)
    · exact second.started id late
  reachable := by
    intro type member
    rcases second.reachable type member with early | ⟨id, late, reaches⟩
    · rcases first.reachable type early with known | ⟨id, listed, reaches⟩
      · exact .inl known
      · exact .inr ⟨id, List.mem_append_left _ listed, reaches⟩
    · exact .inr ⟨id, List.mem_append_right _ late, reaches⟩
  complete := by
    intro type member
    rcases second.complete type member with early | finished
    · rcases first.complete type early with known | finished
      · exact .inl known
      · exact .inr fun listed isListed => second.kept listed (finished listed isListed)
    · exact .inr finished

/-- Walking from several types in order, when the walk from each one is right. -/
theorem collectAll {ids : List TypeId}
    (each : ∀ id ∈ ids, ∀ found, u.Walked [id] found (u.collect id found)) :
    ∀ found, u.Walked ids found (u.collectAll ids found) := by
  induction ids with
  | nil => exact nil
  | cons id rest inductionHypothesis =>
      intro found
      have first := each id List.mem_cons_self found
      have second := inductionHypothesis
        (fun other member => each other (List.mem_cons_of_mem id member)) (u.collect id found)
      exact first.trans second

/-- A type that was not found before is entered first; the walk from its listed
types then makes it complete. -/
theorem enter {id : TypeId} {found reached : List TypeId}
    (walk : u.Walked (u.interfaces id) (found ++ [id]) reached) : u.Walked [id] found reached where
  kept := fun type member => walk.kept type (List.mem_append_left _ member)
  started := by
    intro type member
    exact walk.kept type (List.mem_append_right _ member)
  reachable := by
    intro type member
    rcases walk.reachable type member with early | ⟨listed, isListed, reaches⟩
    · rcases List.mem_append.mp early with known | entered
      · exact .inl known
      · obtain rfl : type = id := by simpa using entered
        exact .inr ⟨type, List.mem_cons_self, .refl⟩
    · exact .inr ⟨id, List.mem_cons_self, .head isListed reaches⟩
  complete := by
    intro type member
    rcases walk.complete type member with early | finished
    · rcases List.mem_append.mp early with known | entered
      · exact .inl known
      · obtain rfl : type = id := by simpa using entered
        exact .inr walk.started
    · exact .inr finished

end Walked

/-- The walk from one type.  The induction is on the type, because types list
earlier types only. -/
theorem walked_collect (u : Universe) (id : TypeId) :
    ∀ found, u.Walked [id] found (u.collect id found) := by
  induction id using Nat.strongRecOn with
  | ind id inductionHypothesis =>
      intro found
      rw [collect_eq]
      by_cases known : id ∈ found
      · rw [if_pos known]
        refine ⟨fun _ member => member, ?_, fun _ member => .inl member,
          fun _ member => .inl member⟩
        intro type member
        obtain rfl : type = id := by simpa using member
        exact known
      · rw [if_neg known]
        exact .enter (.collectAll (fun listed isListed =>
          inductionHypothesis listed (u.interface_lt isListed)) _)

theorem walked_collectAll (u : Universe) (ids found : List TypeId) :
    u.Walked ids found (u.collectAll ids found) :=
  .collectAll (fun id _ => u.walked_collect id) found

/-- Walks in two universes find the same when the walks from each type do. -/
theorem collectAll_congr {u other : Universe} {ids : List TypeId}
    (each : ∀ id ∈ ids, ∀ found, other.collect id found = u.collect id found) :
    ∀ found, other.collectAll ids found = u.collectAll ids found := by
  induction ids with
  | nil => exact fun _ => rfl
  | cons id rest inductionHypothesis =>
      intro found
      have tail := inductionHypothesis
        (fun later member => each later (List.mem_cons_of_mem id member)) (u.collect id found)
      unfold collectAll at tail ⊢
      rw [List.foldl_cons, List.foldl_cons, each id List.mem_cons_self, tail]

/-- A walk that starts with nothing found finds exactly what is reached. -/
theorem mem_collectAll_nil (u : Universe) (ids : List TypeId) (type : TypeId) :
    type ∈ u.collectAll ids [] ↔ ∃ id ∈ ids, u.Reaches id type := by
  have walk := u.walked_collectAll ids []
  constructor
  · intro member
    rcases walk.reachable type member with none | reaches
    · cases none
    · exact reaches
  · rintro ⟨id, member, reaches⟩
    induction reaches with
    | refl => exact walk.started id member
    | tail _ isListed found =>
        rcases walk.complete _ found with none | finished
        · cases none
        · exact finished _ isListed

/-- All interfaces of a type are one walk from the types listed along its chain. -/
theorem allInterfaces_eq (u : Universe) (id : TypeId) :
    u.allInterfaces id = u.collectAll ((u.chain id).flatMap u.interfaces) [] := by
  rw [allInterfaces, collectAll, List.foldl_flatMap]
  rfl

/-- A type is among all interfaces of another exactly when it is reached from a
type that some type of the chain lists. -/
theorem mem_allInterfaces (u : Universe) {id type : TypeId} :
    type ∈ u.allInterfaces id ↔
      ∃ ancestor ∈ u.chain id, ∃ listed ∈ u.interfaces ancestor, u.Reaches listed type := by
  rw [allInterfaces_eq, mem_collectAll_nil]
  constructor
  · rintro ⟨listed, member, reaches⟩
    obtain ⟨ancestor, onChain, isListed⟩ := List.mem_flatMap.mp member
    exact ⟨ancestor, onChain, listed, isListed, reaches⟩
  · rintro ⟨ancestor, onChain, listed, isListed, reaches⟩
    exact ⟨listed, List.mem_flatMap.mpr ⟨ancestor, onChain, isListed⟩, reaches⟩

/-- All interfaces of a type are older than the type. -/
theorem lt_of_mem_allInterfaces (u : Universe) {id type : TypeId}
    (member : type ∈ u.allInterfaces id) : type < id := by
  obtain ⟨ancestor, onChain, listed, isListed, reaches⟩ := u.mem_allInterfaces.mp member
  calc type
      ≤ listed := u.le_of_reaches reaches
    _ < ancestor := u.interface_lt isListed
    _ ≤ id := u.le_of_mem_chain onChain

/-- A type that is reached in some steps is the start or one of all interfaces. -/
theorem eq_or_mem_allInterfaces (u : Universe) {id type : TypeId} (reaches : u.Reaches id type) :
    type = id ∨ type ∈ u.allInterfaces id := by
  rcases Relation.ReflTransGen.cases_head reaches with same | ⟨listed, isListed, further⟩
  · exact .inl same.symm
  · exact .inr (u.mem_allInterfaces.mpr ⟨id, u.mem_chain_self id, listed, isListed, further⟩)

/-! ### Assignability -/

/-- The three ways in which a type is assignable to another. -/
theorem isAssignable_iff (u : Universe) {id target : TypeId} :
    u.isAssignable id target = true ↔
      target = objectType ∨ target ∈ u.chain id ∨
        (u.isInterface target = true ∧ target ∈ u.allInterfaces id) := by
  simp [isAssignable, or_assoc]

end Interpose.Universe
