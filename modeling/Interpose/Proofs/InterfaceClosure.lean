/-
Module: Interpose.Proofs.InterfaceClosure
Purpose: All interfaces of a type are what a walk without memory comes upon, each where it comes
  up first.
Main exports: Universe.encounters, Universe.collectAll_eq_eraseDups, Universe.ListsAlike,
  Universe.interface_closure
-/
import Mathlib.Data.List.Induction
import Interpose.Proofs.Hierarchy
import Interpose.Proofs.Repetitions

namespace Interpose.Universe

/-! ### The walk without memory -/

/-- What a depth-first walk from a type along listed types comes upon when it does not remember
where it was: each type as often as there are ways to it. -/
def encounters (u : Universe) (id : TypeId) : List TypeId :=
  id :: (u.interfaces id).attach.flatMap fun listed => u.encounters listed.1
termination_by id
decreasing_by exact u.interface_lt listed.2

/-- What such a walk comes upon for a type: it goes through the types that are listed by the type,
then by the type that it extends, and so on. -/
def allEncounters (u : Universe) (id : TypeId) : List TypeId :=
  ((u.chain id).flatMap u.interfaces).flatMap u.encounters

private theorem encounters_eq (u : Universe) (id : TypeId) :
    u.encounters id = id :: (u.interfaces id).flatMap u.encounters := by
  rw [encounters]
  simp [List.flatMap_def]

/-- The walk comes upon everything that is reached.  The induction is on the type, because types
list earlier types only. -/
theorem mem_encounters (u : Universe) {id type : TypeId} :
    type ∈ u.encounters id ↔ u.Reaches id type := by
  induction id using Nat.strongRecOn with
  | ind id inductionHypothesis =>
      rw [encounters_eq, List.mem_cons, List.mem_flatMap]
      constructor
      · rintro (rfl | ⟨listed, isListed, found⟩)
        · exact .refl
        · exact .head isListed ((inductionHypothesis listed (u.interface_lt isListed)).mp found)
      · intro reaches
        cases Relation.ReflTransGen.cases_head reaches with
        | inl same => exact .inl same.symm
        | inr further =>
            obtain ⟨listed, isListed, reached⟩ := further
            apply Or.inr
            exact ⟨listed, isListed,
              (inductionHypothesis listed (u.interface_lt isListed)).mpr reached⟩

/-! ### What was found is not searched again -/

/-- Found types that can be reached from a type have everything found that is reached from them.
Other found types may still be waiting for their listed types. -/
def Settled (u : Universe) (id : TypeId) (found : List TypeId) : Prop :=
  ∀ type ∈ found, u.Reaches id type → ∀ further, u.Reaches type further → further ∈ found

variable {u : Universe} {id listed : TypeId} {found : List TypeId}

/-- A type that is just entered is in the way of none of its listed types: they do not lead back
to it. -/
theorem Settled.enter (settled : u.Settled id found) (isListed : listed ∈ u.interfaces id) :
    u.Settled listed (found ++ [id]) := by
  intro type member reaches further beyond
  rcases List.mem_append.mp member with early | entered
  · exact List.mem_append_left _ (settled type early (.head isListed reaches) further beyond)
  · obtain rfl : type = id := List.mem_singleton.mp entered
    have older := u.interface_lt isListed
    exact absurd (u.le_of_reaches reaches) (Nat.not_le.mpr older)

/-- The walk from one type leaves the others settled. -/
theorem Settled.walk {other : TypeId} (settled : u.Settled other found) :
    u.Settled other (found ++ u.encounters id).eraseDups := by
  intro type member reaches further beyond
  rw [List.mem_eraseDups, List.mem_append] at member ⊢
  cases member with
  | inl early => exact .inl (settled type early reaches further beyond)
  | inr met =>
      apply Or.inr
      exact u.mem_encounters.mpr ((u.mem_encounters.mp met).trans beyond)

/-- Walking from several types in order, when the walk from each one is right. -/
private theorem collectAll_eq_of_collect {ids : List TypeId}
    (each : ∀ id ∈ ids, ∀ found, found.Nodup → u.Settled id found →
      u.collect id found = (found ++ u.encounters id).eraseDups) :
    ∀ found, found.Nodup → (∀ id ∈ ids, u.Settled id found) →
      u.collectAll ids found = (found ++ ids.flatMap u.encounters).eraseDups := by
  induction ids with
  | nil =>
      intro found distinct _
      rw [List.flatMap_nil, List.append_nil, eraseDups_of_nodup distinct]
      rfl
  | cons id rest inductionHypothesis =>
      intro found distinct settled
      obtain ⟨first, others⟩ := List.forall_mem_cons.mp settled
      have walked := each id List.mem_cons_self found distinct first
      calc u.collectAll (id :: rest) found
          = u.collectAll rest (u.collect id found) := rfl
        _ = u.collectAll rest (found ++ u.encounters id).eraseDups := by rw [walked]
        _ = ((found ++ u.encounters id).eraseDups ++ rest.flatMap u.encounters).eraseDups :=
            inductionHypothesis (fun other member => each other (List.mem_cons_of_mem id member))
              _ (nodup_eraseDups _) fun other member => (others other member).walk
        _ = (found ++ (id :: rest).flatMap u.encounters).eraseDups := by
            rw [eraseDups_eraseDups_append, List.flatMap_cons, List.append_assoc]

/-- The walk that remembers adds what the walk without memory comes upon, as far as it was not
found before.  The induction is on the type; a found type ends the walk at once, and because it is
settled nothing is missed. -/
theorem collect_eq_eraseDups (u : Universe) (id : TypeId) :
    ∀ found, found.Nodup → u.Settled id found →
      u.collect id found = (found ++ u.encounters id).eraseDups := by
  induction id using Nat.strongRecOn with
  | ind id inductionHypothesis =>
      intro found distinct settled
      rw [collect_eq]
      by_cases known : id ∈ found
      -- A found type ends the walk; what the full walk would add is there already.
      · rw [if_pos known]
        refine (eraseDups_append_of_subset distinct ?_).symm
        intro type met
        exact settled id known .refl type (u.mem_encounters.mp met)
      · rw [if_neg known]
        have entered : (found ++ [id]).Nodup := by
          rw [← List.concat_eq_append]
          exact distinct.concat known
        have walked := collectAll_eq_of_collect
          (fun listed isListed => inductionHypothesis listed (u.interface_lt isListed))
          (found ++ [id]) entered fun listed isListed => settled.enter isListed
        rw [walked, u.encounters_eq id, List.append_assoc, List.singleton_append]

/-- A walk that starts with nothing found finds the types in the order in which the walk without
memory first comes upon them. -/
private theorem collectAll_eq_eraseDups (u : Universe) (ids : List TypeId) :
    u.collectAll ids [] = (ids.flatMap u.encounters).eraseDups := by
  apply collectAll_eq_of_collect fun id _ => u.collect_eq_eraseDups id
  · exact List.nodup_nil
  · intro id _ type member
    cases member

/-- All interfaces of a type are what the walk without memory comes upon, each where it is met
first. -/
theorem allInterfaces_eq_eraseDups (u : Universe) (id : TypeId) :
    u.allInterfaces id = (u.allEncounters id).eraseDups := by
  rw [allInterfaces_eq, collectAll_eq_eraseDups, allEncounters]

/-! ### Types that are listed again -/

/-- The types of two universes extend the same types and list the same ones in the same order,
however often they list one again. -/
structure ListsAlike (u other : Universe) : Prop where
  base : ∀ id, other.base id = u.base id
  interfaces : ∀ id, (other.interfaces id).eraseDups = (u.interfaces id).eraseDups

/-- A type that is listed again is found already. -/
private theorem collectAll_eraseDups (u : Universe) (ids found : List TypeId) :
    u.collectAll ids.eraseDups found = u.collectAll ids found := by
  induction ids using List.reverseRecOn with
  | nil => rfl
  | append_singleton earlier last inductionHypothesis =>
      have split : u.collectAll (earlier ++ [last]) found =
          u.collect last (u.collectAll earlier found) := by
        rw [collectAll, List.foldl_append]
        rfl
      rw [eraseDups_concat, split]
      by_cases again : last ∈ earlier
      · have known := (u.walked_collectAll earlier found).started last again
        rw [if_pos again, inductionHypothesis, collect_eq, if_pos known]
      · rw [if_neg again, collectAll, List.foldl_append]
        exact congrArg (u.collect last) inductionHypothesis

private theorem collectAll_congr_eraseDups (u : Universe) {ids others : List TypeId}
    (same : ids.eraseDups = others.eraseDups) (found : List TypeId) :
    u.collectAll ids found = u.collectAll others found := by
  rw [← u.collectAll_eraseDups ids, same, u.collectAll_eraseDups others]

namespace ListsAlike

variable {other : Universe}

theorem chain_eq (alike : u.ListsAlike other) (id : TypeId) : other.chain id = u.chain id := by
  induction id using Nat.strongRecOn with
  | ind id inductionHypothesis =>
      rw [other.chain_eq, u.chain_eq, alike.base]
      cases extended : u.base id with
      | none => rfl
      | some parent => exact congrArg (id :: ·) (inductionHypothesis parent (u.base_lt extended))

/-- The walk of a type goes the same way in both universes. -/
theorem collect_eq (alike : u.ListsAlike other) (id : TypeId) :
    ∀ found, other.collect id found = u.collect id found := by
  induction id using Nat.strongRecOn with
  | ind id inductionHypothesis =>
      intro found
      rw [other.collect_eq, u.collect_eq, other.collectAll_congr_eraseDups (alike.interfaces id)]
      have further : other.collectAll (u.interfaces id) (found ++ [id]) =
          u.collectAll (u.interfaces id) (found ++ [id]) :=
        collectAll_congr
          (fun listed isListed => inductionHypothesis listed (u.interface_lt isListed)) _
      rw [further]

/-- How often a type is listed makes no difference. -/
theorem allInterfaces_eq (alike : u.ListsAlike other) (id : TypeId) :
    other.allInterfaces id = u.allInterfaces id := by
  have step : ∀ found ancestor, other.collectAll (other.interfaces ancestor) found =
      u.collectAll (u.interfaces ancestor) found := by
    intro found ancestor
    rw [other.collectAll_congr_eraseDups (alike.interfaces ancestor)]
    exact collectAll_congr (fun listed _ => alike.collect_eq listed) found
  rw [allInterfaces, allInterfaces, alike.chain_eq]
  simp only [step]

end ListsAlike

/-! ### The closure -/

/-- All interfaces of a type are the types that are reached from what the type, or a type that it
extends, lists, each once.  They come in the order in which a depth-first walk, which goes from
derived types to the ones that they extend, comes upon them first.  All of them are older than the
type, and it makes no difference how often a type is listed. -/
theorem interface_closure (u : Universe) (id : TypeId) :
    (u.allInterfaces id).Nodup ∧
    (∀ type, type ∈ u.allInterfaces id ↔
      ∃ ancestor ∈ u.chain id, ∃ listed ∈ u.interfaces ancestor, u.Reaches listed type) ∧
    u.allInterfaces id = (u.allEncounters id).eraseDups ∧
    (∀ type ∈ u.allInterfaces id, type < id) ∧
    (∀ other : Universe, u.ListsAlike other → other.allInterfaces id = u.allInterfaces id) := by
  refine ⟨?_, fun type => u.mem_allInterfaces, u.allInterfaces_eq_eraseDups id,
    fun type => u.lt_of_mem_allInterfaces, ?_⟩
  · rw [allInterfaces_eq_eraseDups]
    exact nodup_eraseDups _
  · intro other alike
    exact alike.allInterfaces_eq id

/-- Two interfaces that list a third one, and a class that lists what is given. -/
def diamond (listed : List TypeId) : Universe :=
  (((initial.define (.interface "IRoot")).define
    ((TypeDeclaration.interface "ILeft").implementing 2)).define
    ((TypeDeclaration.interface "IRight").implementing 2)).define
    { TypeDeclaration.ofClass "Joined" with interfaces := listed }

private theorem listsAlike_diamond : (diamond [4, 3, 2]).ListsAlike (diamond [4, 3, 4, 2, 3]) where
  base := by
    intro id
    match id with
    | 0 | 1 | 2 | 3 | 4 | 5 => rfl
    | later + 6 => rfl
  interfaces := by
    intro id
    match id with
    | 0 | 1 | 2 | 3 | 4 | 5 => decide
    | later + 6 => rfl

/-- The third interface is reached in three ways.  It is found once, where the walk first comes
upon it, also when two of the interfaces are listed again. -/
theorem interface_closure_diamond :
    (diamond [4, 3, 2]).allInterfaces 5 = [4, 2, 3] ∧
      (diamond [4, 3, 4, 2, 3]).allInterfaces 5 = [4, 2, 3] := by
  obtain ⟨_, _, inOrder, _, unaffected⟩ := interface_closure (diamond [4, 3, 2]) 5
  have found : (diamond [4, 3, 2]).allInterfaces 5 = [4, 2, 3] :=
    inOrder.trans (by decide +kernel)
  exact ⟨found, (unaffected _ listsAlike_diamond).trans found⟩

end Interpose.Universe
