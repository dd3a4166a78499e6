/-
Module: Interpose.Proofs.CollectedMethods
Purpose: The method set of a proxy member by member: which methods are targets, in which order,
  and which of them override which declarations.
Main exports: Universe.proxyables, Universe.foldl_addDeclaration, Universe.slots_addTargets,
  Universe.Primary, Universe.Collected, Universe.method_set_exact
-/
import Mathlib.Data.List.Find
import Mathlib.Data.List.Induction
import Mathlib.Data.List.Nodup
import Interpose.Proofs.MethodSets
import Interpose.Proofs.Repetitions

namespace Interpose

private theorem Signature.agrees_comm (one other : Signature) :
    one.agrees other = other.agrees one := by
  rw [Bool.eq_iff_iff, agrees_iff, agrees_iff]
  constructor <;> rintro ⟨name, parameters, returns, arity⟩ <;>
    exact ⟨name.symm, parameters.symm, returns.symm, arity.symm⟩

namespace Universe

variable {u : Universe}

def proxyables (u : Universe) (types : List TypeId) : List Slot :=
  (types.flatMap u.slots).filter u.isProxyable

/-- The first of several methods that has the shape of a method. -/
def firstLike (u : Universe) (slots : List Slot) (slot : Slot) : Option Slot :=
  slots.find? fun earlier => (u.signature earlier).agrees (u.signature slot)

/-! ### Declarations of one shape -/

/-- The target that the first declaration of a shape becomes: it overrides the later ones. -/
def targetOf (u : Universe) (slots : List Slot) (slot : Slot) : Target :=
  ⟨slot, slots.filter fun other => u.firstLike slots other = some slot ∧ other ≠ slot⟩

def absorb (u : Universe) (slot : Slot) (target : Target) : Target :=
  if (u.signature target.slot).agrees (u.signature slot) then
    { target with overridden := target.overridden ++ [slot] }
  else target

/-- The declarations that no earlier one has the shape of. -/
def firsts (u : Universe) (slots : List Slot) : List Slot :=
  slots.filter fun slot => u.firstLike slots slot = some slot

private theorem firstLike_congr (slots : List Slot) {one other : Slot}
    (same : (u.signature one).agrees (u.signature other) = true) :
    u.firstLike slots one = u.firstLike slots other := by
  apply List.find?_congr
  intro earlier _
  rw [Signature.agrees_comm, Signature.agrees_congr same, Signature.agrees_comm]

private theorem agrees_of_firstLike {slots : List Slot} {slot first : Slot}
    (found : u.firstLike slots slot = some first) :
    (u.signature first).agrees (u.signature slot) = true := by
  have shape := List.find?_some found
  simpa using shape

private theorem mem_of_firstLike {slots : List Slot} {slot first : Slot}
    (found : u.firstLike slots slot = some first) : first ∈ slots :=
  List.mem_of_find?_eq_some found

/-- A method is of its own shape, so among methods that it is one of there is a first of its shape.
-/
private theorem exists_firstLike {slots : List Slot} {slot : Slot} (member : slot ∈ slots) :
    ∃ first, u.firstLike slots slot = some first :=
  Option.isSome_iff_exists.mp
    (List.find?_isSome.mpr ⟨slot, member, (u.signature slot).agrees_refl⟩)

/-- Among the methods before it another one of its shape comes first, or a method is itself
the first. -/
private theorem firstLike_snoc (slots : List Slot) (last slot : Slot) :
    u.firstLike (slots ++ [last]) slot =
      (u.firstLike slots slot).or
        (if (u.signature last).agrees (u.signature slot) then some last else none) := by
  rw [firstLike, List.find?_append]
  congr 1
  by_cases shape : (u.signature last).agrees (u.signature slot) = true <;> simp [shape]

private theorem mem_firsts {slots : List Slot} {slot : Slot} :
    slot ∈ u.firsts slots ↔ slot ∈ slots ∧ u.firstLike slots slot = some slot := by
  simp [firsts]

private theorem mem_firsts_of_firstLike {slots : List Slot} {slot first : Slot}
    (found : u.firstLike slots slot = some first) : first ∈ u.firsts slots := by
  refine mem_firsts.mpr ⟨mem_of_firstLike found, ?_⟩
  rw [firstLike_congr slots (agrees_of_firstLike found)]
  exact found

private theorem mem_overridden_targetOf {slots : List Slot} {slot other : Slot} :
    other ∈ (u.targetOf slots slot).overridden ↔
      other ∈ slots ∧ u.firstLike slots other = some slot ∧ other ≠ slot := by
  simp [targetOf]

/-- Two first declarations have different shapes. -/
theorem pairwise_firsts {slots : List Slot} (distinct : slots.Nodup) :
    (u.firsts slots).Pairwise fun one other =>
      (u.signature one).agrees (u.signature other) = false := by
  apply (distinct.filter _).imp_of_mem
  intro one other oneMember otherMember different
  rw [Bool.eq_false_iff]
  intro shape
  have same := firstLike_congr slots shape
  rw [(mem_firsts.mp oneMember).2, (mem_firsts.mp otherMember).2] at same
  exact different (Option.some.inj same)

private theorem absorb_of_unlike {slot : Slot} {target : Target}
    (unlike : (u.signature target.slot).agrees (u.signature slot) = false) :
    u.absorb slot target = target :=
  if_neg (by simp [unlike])

/-- A declaration of a new shape becomes a target of its own. -/
private theorem addDeclaration_of_unlike {slot : Slot} {targets : List Target}
    (unlike : ∀ target ∈ targets, (u.signature target.slot).agrees (u.signature slot) = false) :
    u.addDeclaration targets slot = targets ++ [⟨slot, []⟩] := by
  induction targets with
  | nil => rfl
  | cons head rest inductionHypothesis =>
      obtain ⟨different, others⟩ := List.forall_mem_cons.mp unlike
      rw [addDeclaration, if_neg (by simp [different]), inductionHypothesis others]
      rfl

/-- Where targets have different shapes, one of them absorbs a declaration of its shape and
the others are left as they are. -/
private theorem addDeclaration_of_alike {slot : Slot} {targets : List Target}
    (shapes : targets.Pairwise fun one other =>
      (u.signature one.slot).agrees (u.signature other.slot) = false)
    (alike : ∃ target ∈ targets, (u.signature target.slot).agrees (u.signature slot) = true) :
    u.addDeclaration targets slot = targets.map (u.absorb slot) := by
  induction targets with
  | nil => simp at alike
  | cons head rest inductionHypothesis =>
      obtain ⟨different, shapesRest⟩ := List.pairwise_cons.mp shapes
      rw [addDeclaration, List.map_cons, absorb]
      by_cases shape : (u.signature head.slot).agrees (u.signature slot) = true
      · have others : rest.map (u.absorb slot) = rest := by
          refine (List.map_congr_left fun target member => ?_).trans (List.map_id rest)
          have unlike := different target member
          rw [Signature.agrees_congr shape, Signature.agrees_comm] at unlike
          exact absorb_of_unlike unlike
        rw [if_pos shape, if_pos shape, others]
      · have later : ∃ target ∈ rest,
            (u.signature target.slot).agrees (u.signature slot) = true := by
          simpa [shape] using alike
        rw [if_neg shape, if_neg shape, inductionHypothesis shapesRest later]

private theorem firstLike_snoc_of_mem {before : List Slot} (last : Slot) {slot : Slot}
    (member : slot ∈ before) : u.firstLike (before ++ [last]) slot = u.firstLike before slot := by
  obtain ⟨first, found⟩ := exists_firstLike (u := u) member
  rw [firstLike_snoc, found, Option.some_or]

/-- One more declaration is a first one if no earlier one has its shape. -/
private theorem firsts_snoc {before : List Slot} {last : Slot} (fresh : last ∉ before) :
    u.firsts (before ++ [last]) =
      u.firsts before ++ if u.firstLike before last = none then [last] else [] := by
  have early : before.filter (fun slot => u.firstLike (before ++ [last]) slot = some slot) =
      u.firsts before :=
    List.filter_congr fun slot member => by rw [firstLike_snoc_of_mem last member]
  rw [firsts, List.filter_append, early]
  congr 1
  cases found : u.firstLike before last with
  | none => simp [firstLike_snoc, found, Signature.agrees_refl]
  | some first =>
      have different : first ≠ last := fun same => fresh (same ▸ mem_of_firstLike found)
      simp [firstLike_snoc, found, different]

/-- A first declaration overrides one more exactly when that one has its shape. -/
private theorem targetOf_snoc {before : List Slot} {last slot : Slot} (fresh : last ∉ before)
    (first : slot ∈ u.firsts before) :
    u.targetOf (before ++ [last]) slot = u.absorb last (u.targetOf before slot) := by
  obtain ⟨member, own⟩ := mem_firsts.mp first
  have different : last ≠ slot := fun same => fresh (same ▸ member)
  have early : before.filter
      (fun other => u.firstLike (before ++ [last]) other = some slot ∧ other ≠ slot) =
        (u.targetOf before slot).overridden :=
    List.filter_congr fun other present => by rw [firstLike_snoc_of_mem last present]
  rw [targetOf, List.filter_append, early]
  by_cases shape : (u.signature slot).agrees (u.signature last) = true
  · have found : u.firstLike before last = some slot := by
      rw [← firstLike_congr before shape, own]
    simp [absorb, targetOf, firstLike_snoc, found, shape, different]
  · have other : u.firstLike (before ++ [last]) last ≠ some slot :=
      fun found => shape (agrees_of_firstLike found)
    simp [absorb, targetOf, shape, other]

/-- The last declaration overrides nothing. -/
private theorem targetOf_snoc_self {before : List Slot} {last : Slot} (fresh : last ∉ before) :
    u.targetOf (before ++ [last]) last = ⟨last, []⟩ := by
  have none : ∀ other ∈ before ++ [last],
      ¬(u.firstLike (before ++ [last]) other = some last ∧ other ≠ last) := by
    rintro other member ⟨first, different⟩
    have present : other ∈ before := by simpa [different] using member
    rw [firstLike_snoc_of_mem last present] at first
    exact fresh (mem_of_firstLike first)
  rw [targetOf, List.filter_eq_nil_iff.mpr (by simpa using none)]

/-- Walking a chain, the first declaration of each shape becomes a target and overrides the
later ones of its shape.  The induction adds one declaration at the end. -/
theorem foldl_addDeclaration {slots : List Slot} (distinct : slots.Nodup) :
    slots.foldl u.addDeclaration [] = (u.firsts slots).map (u.targetOf slots) := by
  induction slots using List.reverseRecOn with
  | nil => rfl
  | append_singleton before last inductionHypothesis =>
      obtain ⟨distinctBefore, _, apart⟩ := List.nodup_append.mp distinct
      have fresh : last ∉ before := fun member => apart last member last (by simp) rfl
      rw [List.foldl_append, inductionHypothesis distinctBefore, List.foldl_cons, List.foldl_nil,
        firsts_snoc fresh, List.map_append]
      cases found : u.firstLike before last with
      | none =>
          have unlike : ∀ slot ∈ u.firsts before,
              (u.signature slot).agrees (u.signature last) = false := by
            intro slot first
            simpa using List.find?_eq_none.mp found slot (mem_firsts.mp first).1
          have early : (u.firsts before).map (u.targetOf (before ++ [last])) =
              (u.firsts before).map (u.targetOf before) :=
            List.map_congr_left fun slot first =>
              (targetOf_snoc fresh first).trans (absorb_of_unlike (unlike slot first))
          have noneAlike : ∀ target ∈ (u.firsts before).map (u.targetOf before),
              (u.signature target.slot).agrees (u.signature last) = false := by
            intro target member
            obtain ⟨slot, first, rfl⟩ := List.mem_map.mp member
            exact unlike slot first
          rw [addDeclaration_of_unlike noneAlike, early, if_pos rfl, List.map_singleton,
            targetOf_snoc_self fresh]
      | some first =>
          have shapes : ((u.firsts before).map (u.targetOf before)).Pairwise fun one other =>
              (u.signature one.slot).agrees (u.signature other.slot) = false :=
            List.pairwise_map.mpr (pairwise_firsts distinctBefore)
          have early : (u.firsts before).map (u.targetOf (before ++ [last])) =
              ((u.firsts before).map (u.targetOf before)).map (u.absorb last) := by
            rw [List.map_map]
            exact List.map_congr_left fun slot earlier => targetOf_snoc fresh earlier
          have alike : ∃ target ∈ (u.firsts before).map (u.targetOf before),
              (u.signature target.slot).agrees (u.signature last) = true :=
            ⟨u.targetOf before first, List.mem_map_of_mem (mem_firsts_of_firstLike found),
              agrees_of_firstLike found⟩
          rw [addDeclaration_of_alike shapes alike, early]
          simp

/-! ### Methods added without absorption -/

/-- Methods that are added override nothing. -/
theorem exists_addTargets_append (u : Universe) (slots : List Slot) :
    ∀ targets : List Target, ∃ more, u.addTargets targets slots = targets ++ more ∧
      ∀ target ∈ more, target.overridden = [] := by
  induction slots with
  | nil => exact fun targets => ⟨[], (List.append_nil targets).symm, by simp⟩
  | cons slot rest inductionHypothesis =>
      intro targets
      obtain ⟨more, added, bare⟩ := inductionHypothesis (u.addTarget targets slot)
      have step : u.addTargets targets (slot :: rest) = u.addTarget targets slot ++ more := added
      unfold addTarget at step
      split at step
      · refine ⟨⟨slot, []⟩ :: more, by simpa using step, ?_⟩
        simpa using bare
      · exact ⟨more, step, bare⟩

/-- What proxies implement of the methods added follows the targets, without repetitions. -/
theorem slots_addTargets (u : Universe) (slots : List Slot) :
    ∀ {targets : List Target}, (targets.map (·.slot)).Nodup →
      (u.addTargets targets slots).map (·.slot) =
        (targets.map (·.slot) ++ slots.filter u.isProxyable).eraseDups := by
  induction slots with
  | nil =>
      intro targets distinct
      rw [List.filter_nil, List.append_nil, eraseDups_of_nodup distinct]
      rfl
  | cons slot rest inductionHypothesis =>
      intro targets distinct
      have step : u.addTargets targets (slot :: rest) =
        u.addTargets (u.addTarget targets slot) rest := rfl
      by_cases proxyable : u.isProxyable slot = true
      -- A method that is a target already is passed over, as it is in a list without its
      -- repetitions.
      · by_cases known : slot ∈ targets.map (·.slot)
        · have kept : u.addTarget targets slot = targets := by
            have present : targets.any (·.slot == slot) = true := by simpa using known
            simp [addTarget, present]
          have absent : (slot :: rest.filter u.isProxyable).removeAll (targets.map (·.slot)) =
              (rest.filter u.isProxyable).removeAll (targets.map (·.slot)) := by
            have present : (targets.map (·.slot)).contains slot = true :=
              List.contains_iff_mem.mpr known
            rw [List.cons_removeAll, present, if_neg (by simp)]
          rw [step, kept, inductionHypothesis distinct, List.filter_cons_of_pos proxyable,
            List.eraseDups_append, List.eraseDups_append, absent]
        · have added : u.addTarget targets slot = targets ++ [Target.mk slot []] := by
            have unknown : targets.any (·.slot == slot) = false := by simpa using known
            simp [addTarget, proxyable, unknown]
          have apart : ((targets ++ [Target.mk slot []]).map (·.slot)).Nodup := by
            rw [List.map_append, List.nodup_append]
            refine ⟨distinct, by simp, ?_⟩
            rintro one member other single rfl
            exact known (by simpa [List.mem_singleton.mp single] using member)
          rw [step, added, inductionHypothesis apart, List.filter_cons_of_pos proxyable,
            List.map_append, List.append_assoc]
          rfl
      · have kept : u.addTarget targets slot = targets := by simp [addTarget, proxyable]
        rw [step, kept, inductionHypothesis distinct, List.filter_cons_of_neg proxyable]

/-! ### The targets of the primary type -/

/-- The types whose methods are the targets of a primary type: an interface alone, or a class
with the classes that it extends. -/
def primaryTypes (u : Universe) (primary : TypeId) : List TypeId :=
  if u.isInterface primary then [primary] else u.chain primary

/-- The methods of several types that proxies implement are those that one of the types declares. -/
theorem mem_proxyables {types : List TypeId} {slot : Slot} :
    slot ∈ u.proxyables types ↔
      u.isProxyable slot = true ∧ slot ∈ u.slots slot.parent ∧ slot.parent ∈ types := by
  constructor
  · intro member
    obtain ⟨listed, proxyable⟩ := List.mem_filter.mp member
    obtain ⟨type, present, declared⟩ := List.mem_flatMap.mp listed
    obtain rfl := u.parent_of_mem_slots declared
    exact ⟨proxyable, declared, present⟩
  · rintro ⟨proxyable, declared, present⟩
    exact List.mem_filter.mpr ⟨List.mem_flatMap.mpr ⟨slot.parent, present, declared⟩, proxyable⟩

private theorem proxyables_append (u : Universe) (types others : List TypeId) :
    u.proxyables (types ++ others) = u.proxyables types ++ u.proxyables others := by
  simp [proxyables]

/-- Different types declare different methods. -/
private theorem nodup_proxyables {types : List TypeId} (distinct : types.Nodup) :
    (u.proxyables types).Nodup := by
  apply List.Nodup.filter
  rw [List.nodup_flatMap]
  refine ⟨fun type _ => ?_, distinct.imp fun {one other} different => ?_⟩
  · exact List.nodup_range.map fun one other same => congrArg Slot.index same
  · intro slot ofOne ofOther
    exact different ((u.parent_of_mem_slots ofOne).symm.trans (u.parent_of_mem_slots ofOther))

/-- No type extends itself, so the chain has no repetitions. -/
private theorem nodup_primaryTypes (u : Universe) (primary : TypeId) :
    (u.primaryTypes primary).Nodup := by
  unfold primaryTypes
  split
  · exact List.nodup_singleton primary
  · exact (u.pairwise_chain primary).imp fun {one other} below same => by
      have older : other < one := below.2
      exact absurd (same ▸ older) (Nat.lt_irrefl _)

/-- The targets of a primary type: they are its methods in order, most derived types first,
without those that one of them overrides.  What a target overrides has its shape, is declared
no further down, and is overridden by it alone.  Those of an interface override nothing; those
of a class have different shapes. -/
structure Primary (u : Universe) (primary : TypeId) (own : List Target) : Prop where
  inOrder : own.map (·.slot) = (u.proxyables (u.primaryTypes primary)).filter
    fun slot => slot ∉ own.flatMap (·.overridden)
  unabsorbed : u.isInterface primary = true → ∀ target ∈ own, target.overridden = []
  shapes : u.isInterface primary = false →
    own.Pairwise fun one other => (u.signature one.slot).agrees (u.signature other.slot) = false
  overrides : ∀ target ∈ own, ∀ slot ∈ target.overridden,
    slot ∈ u.proxyables (u.primaryTypes primary) ∧
      (u.signature target.slot).agrees (u.signature slot) = true ∧
      slot.parent ∈ u.chain target.slot.parent
  once : (own.flatMap (·.overridden)).Nodup

/-- The targets of a class are the first declarations of each shape along its chain, each with what
it overrides. -/
theorem primaryTargets_of_class (u : Universe) {primary : TypeId}
    (isClass : u.isInterface primary = false) :
    u.primaryTargets primary =
      (u.firsts (u.proxyables (u.primaryTypes primary))).map
        (u.targetOf (u.proxyables (u.primaryTypes primary))) := by
  have walked : u.primaryTypes primary = u.chain primary := by simp [primaryTypes, isClass]
  rw [← foldl_addDeclaration (nodup_proxyables (u.nodup_primaryTypes primary)), walked]
  simp [primaryTargets, isClass, proxyables]

/-- What the first declarations of all shapes override are the other declarations. -/
private theorem mem_flatMap_overridden {slots : List Slot} {slot : Slot} (member : slot ∈ slots) :
    slot ∈ ((u.firsts slots).map (u.targetOf slots)).flatMap (·.overridden) ↔
      u.firstLike slots slot ≠ some slot := by
  simp only [List.mem_flatMap, List.mem_map, exists_exists_and_eq_and, mem_overridden_targetOf]
  constructor
  · rintro ⟨first, _, _, found, different⟩ own
    rw [found] at own
    exact different (Option.some.inj own).symm
  · intro different
    obtain ⟨first, found⟩ := exists_firstLike (u := u) member
    refine ⟨first, mem_firsts_of_firstLike found, member, found, ?_⟩
    rintro rfl
    exact different found

/-- What is collected for a primary type is as it should be, for an interface and for a class. -/
theorem primary_primaryTargets (u : Universe) (primary : TypeId) :
    u.Primary primary (u.primaryTargets primary) := by
  have distinct : (u.proxyables (u.primaryTypes primary)).Nodup :=
    nodup_proxyables (u.nodup_primaryTypes primary)
  cases kind : u.isInterface primary with
  -- The methods of an interface are added one by one and absorb nothing.
  | true =>
      obtain ⟨own, added, bare⟩ := u.exists_addTargets_append (u.slots primary) []
      have targets : u.primaryTargets primary = own := by
        simpa [primaryTargets, kind] using added
      have walked : u.proxyables (u.primaryTypes primary) =
          (u.slots primary).filter u.isProxyable := by
        simp [proxyables, primaryTypes, kind]
      have nothing : own.flatMap (·.overridden) = [] := List.flatMap_eq_nil_iff.mpr bare
      have listed := @slots_addTargets u (u.slots primary) [] List.nodup_nil
      rw [added, ← walked] at listed
      rw [targets]
      refine ⟨?_, fun _ => bare, ?_, ?_, ?_⟩
      · rw [nothing]
        simpa [eraseDups_of_nodup distinct] using listed
      · intro isClass
        rw [kind] at isClass
        cases isClass
      · intro target member slot overridden
        rw [bare target member] at overridden
        cases overridden
      · rw [nothing]
        exact List.nodup_nil
  -- The chain of a class goes from derived types upwards, so the first declaration of a shape is
  -- the most derived one.
  | false =>
      have placed : ∀ target ∈ u.primaryTargets primary, u.WellPlaced primary target :=
        u.wellPlaced_of_mem_primaryTargets
      rw [u.primaryTargets_of_class kind] at placed ⊢
      refine ⟨?_, ?_, fun _ => List.pairwise_map.mpr (pairwise_firsts distinct), ?_, ?_⟩
      · rw [List.map_map]
        refine (List.map_id _).trans (List.filter_congr fun slot member => ?_)
        simp only [mem_flatMap_overridden member, ne_eq, not_not]
      · intro isInterface
        rw [kind] at isInterface
        cases isInterface
      · intro target member slot overridden
        obtain ⟨first, _, rfl⟩ := List.mem_map.mp member
        obtain ⟨listed, found, _⟩ := mem_overridden_targetOf.mp overridden
        obtain ⟨_, _, _, _, above⟩ := (placed _ member).overrides slot overridden
        exact ⟨listed, agrees_of_firstLike found, above⟩
      · rw [List.nodup_flatMap]
        refine ⟨?_, List.pairwise_map.mpr ((distinct.filter _).imp fun {one other} different => ?_)⟩
        · intro target member
          obtain ⟨first, _, rfl⟩ := List.mem_map.mp member
          exact distinct.filter _
        · intro slot ofOne ofOther
          have one := (mem_overridden_targetOf.mp ofOne).2.1
          have other := (mem_overridden_targetOf.mp ofOther).2.1
          rw [one] at other
          exact different (Option.some.inj other)

/-! ### The whole method set -/

/-- The methods that become targets, as they come up: the targets of the primary type, the
methods of its interfaces as these are discovered, those of each supplementary interface and
its interfaces, and the members of the universal base type that nothing overrides. -/
def candidates (u : Universe) (descriptor : Descriptor) (own : List Target) : List Slot :=
  own.map (·.slot) ++ u.proxyables (u.allInterfaces descriptor.primary) ++
    u.proxyables (descriptor.interfaces.flatMap u.withInterfaces) ++
    (u.proxyables [objectType]).filter fun slot => slot ∉ own.flatMap (·.overridden)

/-- What the method set of a descriptor is: the targets of its primary type, then others.
No method is a target twice; targets and what they override are the methods that a proxy has
to implement; the others override nothing.  Methods are targets in the order in which they
come up, and one that comes up again keeps its first place. -/
structure Collected (u : Universe) (descriptor : Descriptor) (own others : List Target) : Prop
    extends u.Primary descriptor.primary own where
  distinct : ((own ++ others).map (·.slot)).Nodup
  complete : ∀ slot, (∃ target ∈ own ++ others, target.Handles slot) ↔
    u.isProxyable slot = true ∧ slot ∈ u.slots slot.parent ∧ u.Covers descriptor slot.parent
  bare : ∀ target ∈ others, target.overridden = []
  order : (own ++ others).map (·.slot) = (u.candidates descriptor own).eraseDups

/-- The targets of the primary type come first in the method set; the others are added without
absorption. -/
theorem exists_others (u : Universe) (descriptor : Descriptor) :
    ∃ others, u.methodSet descriptor = u.primaryTargets descriptor.primary ++ others ∧
      (∀ target ∈ others, target.overridden = []) ∧
      (u.methodSet descriptor).map (·.slot) =
        (u.candidates descriptor (u.primaryTargets descriptor.primary)).eraseDups := by
  have primary := u.primary_primaryTargets descriptor.primary
  unfold methodSet candidates
  simp only []
  generalize u.primaryTargets descriptor.primary = own at primary ⊢
  have distinct : (own.map (·.slot)).Nodup := by
    rw [primary.inOrder]
    exact (nodup_proxyables (u.nodup_primaryTypes descriptor.primary)).filter _
  -- The interfaces come first; they do not change what is overridden.
  obtain ⟨implemented, added, bare⟩ := u.exists_addTargets_append
    ((u.allInterfaces descriptor.primary ++
      descriptor.interfaces.flatMap u.withInterfaces).flatMap u.slots) own
  have names := u.slots_addTargets ((u.allInterfaces descriptor.primary ++
    descriptor.interfaces.flatMap u.withInterfaces).flatMap u.slots) distinct
  have absorbed : (own ++ implemented).flatMap (·.overridden) = own.flatMap (·.overridden) := by
    rw [List.flatMap_append, List.flatMap_eq_nil_iff.mpr bare, List.append_nil]
  have distinctNames : ((own ++ implemented).map (·.slot)).Nodup := by
    rw [← added, names]
    exact nodup_eraseDups _
  rw [added] at names ⊢
  rw [absorbed]
  obtain ⟨universal, addedLast, bareLast⟩ := u.exists_addTargets_append
    ((u.slots objectType).filter fun slot => !(own.flatMap (·.overridden)).contains slot)
    (own ++ implemented)
  refine ⟨implemented ++ universal, by rw [addedLast, List.append_assoc], ?_, ?_⟩
  · intro target member
    rcases List.mem_append.mp member with early | late
    · exact bare target early
    · exact bareLast target late
  · have remaining : ((u.slots objectType).filter fun slot =>
          !(own.flatMap (·.overridden)).contains slot).filter u.isProxyable =
        (u.proxyables [objectType]).filter fun slot => slot ∉ own.flatMap (·.overridden) := by
      simp only [proxyables, List.flatMap_singleton, List.filter_filter, List.contains_eq_mem,
        decide_not, Bool.and_comm]
    have listed : ((u.allInterfaces descriptor.primary ++
          descriptor.interfaces.flatMap u.withInterfaces).flatMap u.slots).filter u.isProxyable =
        u.proxyables (u.allInterfaces descriptor.primary) ++
          u.proxyables (descriptor.interfaces.flatMap u.withInterfaces) :=
      u.proxyables_append _ _
    rw [u.slots_addTargets _ distinctNames, names, eraseDups_eraseDups_append, remaining, listed,
      ← List.append_assoc]

/-- The types whose methods are collected first are among those that the method set covers. -/
theorem covers_of_mem_primaryTypes (u : Universe) {descriptor : Descriptor} {type : TypeId}
    (member : type ∈ u.primaryTypes descriptor.primary) : u.Covers descriptor type := by
  unfold primaryTypes at member
  split at member
  · exact .inl (List.mem_singleton.mp member)
  · rename_i isClass
    exact .inr (.inl ⟨by simpa using isClass, member⟩)

/-- Targets and what they override are methods that a proxy has to implement. -/
theorem sound_of_handles (u : Universe) {descriptor : Descriptor} {target : Target} {slot : Slot}
    (member : target ∈ u.methodSet descriptor) (handles : target.Handles slot) :
    u.isProxyable slot = true ∧ slot ∈ u.slots slot.parent ∧ u.Covers descriptor slot.parent := by
  obtain ⟨others, split, bare, order⟩ := u.exists_others descriptor
  have primary := u.primary_primaryTargets descriptor.primary
  rcases handles with rfl | overridden
  · have listed := List.mem_map_of_mem (f := (·.slot)) member
    rw [order, List.mem_eraseDups, candidates, primary.inOrder] at listed
    simp only [List.mem_append, List.mem_filter, mem_proxyables] at listed
    rcases listed with ((own | implemented) | supplement) | universal
    · obtain ⟨⟨proxyable, declared, present⟩, _⟩ := own
      exact ⟨proxyable, declared, u.covers_of_mem_primaryTypes present⟩
    · obtain ⟨proxyable, declared, present⟩ := implemented
      exact ⟨proxyable, declared, .inr (.inr (.inl present))⟩
    · obtain ⟨proxyable, declared, present⟩ := supplement
      exact ⟨proxyable, declared, .inr (.inr (.inr (.inl (List.mem_flatMap.mp present))))⟩
    · obtain ⟨⟨proxyable, declared, present⟩, _⟩ := universal
      exact ⟨proxyable, declared, .inr (.inr (.inr (.inr (List.mem_singleton.mp present))))⟩
  · rw [split] at member
    rcases List.mem_append.mp member with own | other
    · have ⟨listed, _⟩ := primary.overrides target own slot overridden
      obtain ⟨proxyable, declared, present⟩ := mem_proxyables.mp listed
      exact ⟨proxyable, declared, u.covers_of_mem_primaryTypes present⟩
    · rw [bare target other] at overridden
      cases overridden

/-- The collected method set is exact. -/
theorem method_set_exact (u : Universe) (descriptor : Descriptor) :
    ∃ own others, u.methodSet descriptor = own ++ others ∧
      u.Collected descriptor own others := by
  obtain ⟨others, split, bare, order⟩ := u.exists_others descriptor
  have primary := u.primary_primaryTargets descriptor.primary
  refine ⟨u.primaryTargets descriptor.primary, others, split, primary, ?_, ?_, bare, ?_⟩
  · rw [← split, order]
    exact nodup_eraseDups _
  · intro slot
    rw [← split]
    constructor
    · rintro ⟨target, member, handles⟩
      exact u.sound_of_handles member handles
    · rintro ⟨proxyable, declared, covered⟩
      exact u.exists_handles_methodSet descriptor proxyable declared covered
  · rw [← split]
    exact order

end Universe

end Interpose
