/-
Module: Interpose.Proofs.VirtualDispatch
Purpose: Which body a virtual call reaches, told from the clauses by which types are declared
  and without method tables.
Main exports: TypeDeclaration.Clause, TypeDeclaration.written, Universe.Provides,
  Universe.Resolves, Universe.provides_iff, Universe.resolve_eq_some_iff,
  Universe.virtual_dispatch_most_derived
-/
import Mathlib.Data.List.Induction
import Interpose.Proofs.Growth

namespace Interpose

namespace TypeDeclaration

/-! ### Declarations clause by clause -/

/-- One clause of the declaration of a type. -/
inductive Clause where
  | extending (base : TypeId)
  | implementing (interface : TypeId)
  | method (signature : Signature) (body : Option MethodBody)
  | implement (slot : Slot) (body : MethodBody)
  | field (field : Field)

namespace Clause

/-- A clause mentions none but the first `limit` types. -/
def Known (limit : Nat) : Clause → Prop
  | extending base => base < limit
  | implementing interface => interface < limit
  | implement slot _ => slot.parent < limit
  | method _ _ | field _ => True

def base? : Clause → Option TypeId
  | extending base => some base
  | _ => none

def method? : Clause → Option MethodDeclaration
  | method signature body => some ⟨signature, body⟩
  | _ => none

def implementation? : Clause → Option (Slot × MethodBody)
  | implement slot body => some (slot, body)
  | _ => none

end Clause

/-- A declaration with one more clause. -/
def add (declaration : TypeDeclaration) : Clause → TypeDeclaration
  | .extending base => declaration.extending base
  | .implementing interface => declaration.implementing interface
  | .method signature body => declaration.addMethod signature body
  | .implement slot body => declaration.implement slot body
  | .field added => declaration.addField added

/-- The declaration of a type that is written down clause by clause. -/
def written (name : String) (kind : TypeKind) (base : Option TypeId) (clauses : List Clause) :
    TypeDeclaration :=
  clauses.foldl add (bare name kind base)

private theorem base_add (declaration : TypeDeclaration) (clause : Clause) :
    (declaration.add clause).base = clause.base?.or declaration.base := by
  cases clause with
  | implementing interface =>
      simp only [add, implementing]
      split <;> rfl
  | _ => rfl

private theorem methods_add (declaration : TypeDeclaration) (clause : Clause) :
    (declaration.add clause).methods = declaration.methods ++ clause.method?.toList := by
  cases clause with
  | implementing interface =>
      simp only [add, implementing]
      split <;> simp [Clause.method?]
  | _ => simp [add, extending, addMethod, implement, addField, Clause.method?]

private theorem implementations_add (declaration : TypeDeclaration) (clause : Clause) :
    (declaration.add clause).implementations =
      declaration.implementations ++ clause.implementation?.toList := by
  cases clause with
  | implementing interface =>
      simp only [add, implementing]
      split <;> simp [Clause.implementation?]
  | _ => simp [add, extending, addMethod, implement, addField, Clause.implementation?]

/-- One more clause lists the type that it says is implemented, and no other. -/
private theorem mem_interfaces_add (declaration : TypeDeclaration) (clause : Clause)
    (type : TypeId) :
    type ∈ (declaration.add clause).interfaces ↔
      type ∈ declaration.interfaces ∨ clause = .implementing type := by
  cases clause with
  | implementing interface =>
      simp only [add, implementing]
      split
      · rename_i listed
        constructor
        · exact .inl
        · rintro (old | same)
          · exact old
          · obtain rfl := Clause.implementing.inj same
            exact List.contains_iff_mem.mp listed
      · simp [eq_comm]
  | _ => simp [add, extending, addMethod, implement, addField]

section Written

variable (name : String) (kind : TypeKind) (base : Option TypeId) (clauses : List Clause)

private theorem written_snoc (last : Clause) :
    written name kind base (clauses ++ [last]) = (written name kind base clauses).add last := by
  rw [written, List.foldl_append]
  rfl

/-- The last clause that says so decides which type is extended. -/
theorem base_written :
    (written name kind base clauses).base = (clauses.reverse.findSome? Clause.base?).or base := by
  induction clauses using List.reverseRecOn with
  | nil => rfl
  | append_singleton earlier last inductionHypothesis =>
      rw [written_snoc, base_add, inductionHypothesis, List.reverse_concat, List.findSome?_cons]
      cases last.base? <;> rfl

/-- The methods of a type that is written down are those that its clauses declare, in order. -/
theorem methods_written :
    (written name kind base clauses).methods = clauses.filterMap Clause.method? := by
  induction clauses using List.reverseRecOn with
  | nil => rfl
  | append_singleton earlier last inductionHypothesis =>
      rw [written_snoc, methods_add, inductionHypothesis, List.filterMap_append]
      cases held : last.method? <;> simp [held]

/-- The bodies that it gives by name are those of its clauses, in order. -/
theorem implementations_written :
    (written name kind base clauses).implementations =
      clauses.filterMap Clause.implementation? := by
  induction clauses using List.reverseRecOn with
  | nil => rfl
  | append_singleton earlier last inductionHypothesis =>
      rw [written_snoc, implementations_add, inductionHypothesis, List.filterMap_append]
      cases held : last.implementation? <;> simp [held]

/-- The types that it lists are those that its clauses say are implemented. -/
theorem mem_interfaces_written (type : TypeId) :
    type ∈ (written name kind base clauses).interfaces ↔ .implementing type ∈ clauses := by
  induction clauses using List.reverseRecOn with
  | nil => simp [written, bare]
  | append_singleton earlier last inductionHypothesis =>
      rw [written_snoc, mem_interfaces_add, inductionHypothesis, List.mem_append,
        List.mem_singleton, eq_comm]

variable {base clauses} {limit : Nat} (baseKnown : ∀ parent, base = some parent → parent < limit)
  (known : ∀ clause ∈ clauses, clause.Known limit)

include baseKnown known

/-- A declaration mentions no other types than its clauses do. -/
theorem within_written :
    (written name kind base clauses).within limit = written name kind base clauses := by
  apply within_eq_self
  · intro parent member
    rcases List.mem_append.mp member with extended | listed
    · rw [base_written, Option.mem_toList] at extended
      rcases Option.or_eq_some_iff.mp extended with found | ⟨_, initially⟩
      · obtain ⟨clause, listed, tells⟩ := List.exists_of_findSome?_eq_some found
        have within := known clause (List.mem_reverse.mp listed)
        cases clause with
        | extending other =>
            obtain rfl := Option.some.inj tells
            exact within
        | _ => cases tells
      · exact baseKnown parent initially
    · exact known _ ((mem_interfaces_written name kind base clauses parent).mp listed)
  · intro implementation member
    rw [implementations_written] at member
    obtain ⟨clause, listed, tells⟩ := List.mem_filterMap.mp member
    have within := known clause listed
    cases clause with
    | implement slot body =>
        obtain rfl := Option.some.inj tells
        exact within
    | _ => cases tells

end Written

end TypeDeclaration

namespace Universe

/-! ### What a type provides by itself -/

/-- The type declares the method, and declares it with the body. -/
def Owns (u : Universe) (id : TypeId) (slot : Slot) (body : MethodBody) : Prop :=
  slot.parent = id ∧ u.ownBody slot = some body

/-- The type gives the body to the method by name, and gives it no other one later on. -/
def Names (u : Universe) (id : TypeId) (slot : Slot) (body : MethodBody) : Prop :=
  ∃ earlier later, (u.declaration id).implementations = earlier ++ (slot, body) :: later ∧
    ∀ pair ∈ later, pair.1 ≠ slot

/-- The type inherits the method: a virtual method of a type that it extends, or any method of
a type that is reached from what the type, or a type that it extends, lists as implemented. -/
def Inherits (u : Universe) (id : TypeId) (slot : Slot) : Prop :=
  slot ∈ u.slots slot.parent ∧
    (((u.signature slot).isVirtual = true ∧
        ∃ base, u.base id = some base ∧ slot.parent ∈ u.chain base) ∨
      ∃ ancestor ∈ u.chain id, ∃ listed ∈ u.interfaces ancestor, u.Reaches listed slot.parent)

/-- The body is that of the first method that the type declares in the shape of the method
and with a body. -/
def Matches (u : Universe) (id : TypeId) (slot : Slot) (body : MethodBody) : Prop :=
  ∃ earlier own later, u.slots id = earlier ++ own :: later ∧ u.ownBody own = some body ∧
    (u.signature slot).agrees (u.signature own) = true ∧
    ∀ other ∈ earlier, (u.signature slot).agrees (u.signature other) = true →
      u.ownBody other = none

/-- The three ways in which a type provides a body for a method.  A way is open only where
those before it lead to no body. -/
inductive Provides (u : Universe) (id : TypeId) (slot : Slot) (body : MethodBody) : Prop where
  | owned (owns : u.Owns id slot body)
  | named (bodiless : ∀ other, ¬ u.Owns id slot other) (names : u.Names id slot body)
  | matched (bodiless : ∀ other, ¬ u.Owns id slot other)
      (unnamed : ∀ other, ¬ u.Names id slot other) (inherits : u.Inherits id slot)
      (shaped : u.Matches id slot body)

/-- The body that is reached from a type: its own if it provides one, else what is reached
from the type that it extends. -/
inductive Resolves (u : Universe) (slot : Slot) : TypeId → MethodBody → Prop where
  | here {id : TypeId} {body : MethodBody} (provides : u.Provides id slot body) :
      Resolves u slot id body
  | above {id base : TypeId} {body : MethodBody} (absent : ∀ other, ¬ u.Provides id slot other)
      (extended : u.base id = some base) (further : Resolves u slot base body) :
      Resolves u slot id body

section Tables

variable {u : Universe} {id : TypeId} {slot : Slot} {body : MethodBody}

/-- A body that is looked up by name is the last one that was given to the method. -/
theorem explicitBody_eq_some_iff : u.explicitBody id slot = some body ↔ u.Names id slot body := by
  simp only [explicitBody, Option.map_eq_some_iff, List.find?_eq_some_iff_append]
  constructor
  · rintro ⟨⟨other, given⟩, ⟨same, later, earlier, listed, others⟩, rfl⟩
    obtain rfl : other = slot := by simpa using same
    refine ⟨earlier.reverse, later.reverse, ?_, ?_⟩
    · rw [← List.reverse_inj, listed]
      simp
    · intro pair member
      simpa using others pair (List.mem_reverse.mp member)
  · rintro ⟨earlier, later, listed, others⟩
    refine ⟨(slot, body), ⟨by simp, later.reverse, earlier.reverse, ?_, ?_⟩, rfl⟩
    · rw [listed]
      simp
    · intro pair member
      simpa using others pair (List.mem_reverse.mp member)

/-- The methods that a type inherits are those that its table is filled for. -/
theorem inherits_iff : u.Inherits id slot ↔ slot ∈ u.inheritedSlots id := by
  have above : (slot.parent ∈ u.chain id ∧ slot.parent ≠ id) ↔
      ∃ base, u.base id = some base ∧ slot.parent ∈ u.chain base := by
    rw [chain_eq]
    cases extended : u.base id with
    | none => simp
    | some base =>
        have older : ∀ type ∈ u.chain base, type ≠ id := fun type member =>
          Nat.ne_of_lt (Nat.lt_of_le_of_lt (u.le_of_mem_chain member) (u.base_lt extended))
        simp only [Option.elim_some, List.mem_cons, Option.some.injEq, exists_eq_left']
        constructor
        · rintro ⟨same | member, different⟩
          · exact absurd same different
          · exact member
        · intro member
          exact ⟨.inr member, older _ member⟩
  rw [mem_inheritedSlots, above, mem_allInterfaces, Inherits]
  constructor
  · rintro ⟨declared, ⟨isVirtual, extended⟩ | implemented⟩
    · exact .inl ⟨declared, isVirtual, extended⟩
    · exact .inr ⟨declared, implemented⟩
  · rintro (⟨declared, isVirtual, extended⟩ | ⟨declared, implemented⟩)
    · exact ⟨declared, .inl ⟨isVirtual, extended⟩⟩
    · exact ⟨declared, .inr implemented⟩

/-- Methods without a body are passed over. -/
private theorem find?_ownBodies (slot : Slot) :
    ((u.ownBodies id).find? fun own => (u.signature slot).agrees (u.signature own.1)).map (·.2) =
      some body ↔ u.Matches id slot body := by
  have test : ∀ own, ((u.ownBody own).map fun body => (own, body)).any
      (fun pair => (u.signature slot).agrees (u.signature pair.1)) =
        ((u.ownBody own).isSome && (u.signature slot).agrees (u.signature own)) := by
    intro own
    cases u.ownBody own <;> simp
  have bodies : u.ownBodies id =
      (u.slots id).filterMap fun own => (u.ownBody own).map fun body => (own, body) := rfl
  rw [bodies, List.find?_filterMap]
  simp only [test, Option.map_eq_some_iff, Option.bind_eq_some_iff, List.find?_eq_some_iff_append]
  constructor
  · rintro ⟨_, ⟨own, ⟨passes, earlier, later, listed, others⟩, held, bodied, rfl⟩, rfl⟩
    refine ⟨earlier, own, later, listed, bodied, (Bool.and_eq_true_iff.mp passes).2, ?_⟩
    intro other member shape
    simpa [shape] using others other member
  · rintro ⟨earlier, own, later, listed, bodied, shape, others⟩
    refine ⟨(own, body), ⟨own, ⟨by simp [bodied, shape], earlier, later, listed, ?_⟩, body,
      bodied, rfl⟩, rfl⟩
    intro other member
    by_cases like : (u.signature slot).agrees (u.signature other) = true
    · simp [others other member like]
    · simp [like]

theorem implicitBody_eq_some_iff :
    u.implicitBody id slot = some body ↔ u.Inherits id slot ∧ u.Matches id slot body := by
  rw [← find?_ownBodies, inherits_iff, implicitBody]
  split <;> simp [*]

/-- A type provides just what its method table holds. -/
theorem provides_iff : u.Provides id slot body ↔ (u.methodTable id).find? slot = some body := by
  by_cases home : slot.parent = id
  · subst home
    rw [find?_methodTable_own]
    constructor
    · intro provides
      cases provides with
      | owned owns => exact owns.2
      | named bodiless names =>
          have older := explicitBody_eq_some_iff.mpr names
          rw [u.explicitBody_of_le (Nat.le_refl _)] at older
          cases older
      -- A type does not inherit its own methods.
      | matched bodiless unnamed inherits shaped =>
          exact absurd rfl (u.parent_ne_of_mem_inheritedSlots (inherits_iff.mp inherits))
    · intro held
      exact .owned ⟨rfl, held⟩
  -- A method of another type is provided by name or by shape, and the table asks in this order.
  · have bodiless : ∀ other, ¬ u.Owns id slot other := fun _ owns => home owns.1
    rw [u.find?_methodTable_inherited home, Option.or_eq_some_iff, explicitBody_eq_some_iff,
      implicitBody_eq_some_iff]
    constructor
    · intro provides
      cases provides with
      | owned owns => exact absurd owns.1 home
      | named _ names => exact .inl names
      | matched _ unnamed inherits shaped =>
          refine .inr ⟨?_, inherits, shaped⟩
          cases given : u.explicitBody id slot with
          | none => rfl
          | some other => exact absurd (explicitBody_eq_some_iff.mp given) (unnamed other)
    · rintro (names | ⟨unnamed, inherits, shaped⟩)
      · exact .named bodiless names
      · refine .matched bodiless ?_ inherits shaped
        intro other names
        rw [explicitBody_eq_some_iff.mpr names] at unnamed
        cases unnamed

theorem find?_eq_none_iff_not_provides :
    (u.methodTable id).find? slot = none ↔ ∀ other, ¬ u.Provides id slot other := by
  simp only [provides_iff]
  cases (u.methodTable id).find? slot <;> simp

/-! ### What is reached from a type -/

/-- Resolution walks from the type upwards.  The induction is on the type, because a type
extends an older one. -/
theorem resolve_eq_some_iff : u.resolve id slot = some body ↔ u.Resolves slot id body := by
  induction id using Nat.strongRecOn with
  | ind id inductionHypothesis =>
      constructor
      · intro found
        cases held : (u.methodTable id).find? slot with
        | some own =>
            rw [u.resolve_of_find? held] at found
            obtain rfl := Option.some.inj found
            exact .here (provides_iff.mpr held)
        | none =>
            cases extended : u.base id with
            | none => simp [resolve, chain_eq, extended, held] at found
            | some base =>
                rw [u.resolve_of_base extended, held, Option.none_or] at found
                exact .above (find?_eq_none_iff_not_provides.mp held) extended
                  ((inductionHypothesis base (u.base_lt extended)).mp found)
      · intro resolves
        cases resolves with
        | here provides => exact u.resolve_of_find? (provides_iff.mp provides)
        | above absent extended further =>
            rw [u.resolve_of_base extended, find?_eq_none_iff_not_provides.mpr absent,
              Option.none_or]
            exact (inductionHypothesis _ (u.base_lt extended)).mpr further

/-- Nothing is reached exactly if no type of the chain provides the method. -/
theorem resolve_eq_none_iff :
    u.resolve id slot = none ↔
      ∀ ancestor ∈ u.chain id, ∀ other, ¬ u.Provides ancestor slot other := by
  simp only [resolve, List.findSome?_eq_none_iff, find?_eq_none_iff_not_provides]

end Tables

/-- A virtual call reaches the most derived override.  For every type and method, closed or
not, the body that is run is the one that the type resolves: of the type and the types that it
extends, the first one that provides the method decides.  It runs its own body if it declares
the method with one, else the last body that it gives to the method by name, else, if it
inherits the method, that of its first method of the shape.  Where no type of the chain
provides the method, there is none.  What a type gives to a method by name stands in its table
whatever the type declares.

For a type that is written down clause by clause all this is told by the clauses: which type
it extends, what it implements, which methods it declares and which bodies it gives by name,
both in the order of the clauses. -/
theorem virtual_dispatch_most_derived (u : Universe) :
    (∀ id method body, u.require id method = .ok body ↔ u.Resolves method.slot id body) ∧
    (∀ id method, u.require id method = .error (.methodNotFound method id) ↔
      ∀ ancestor ∈ u.chain id, ∀ body, ¬ u.Provides ancestor method.slot body) ∧
    (∀ id slot body, u.Names id slot body → (u.methodTable id).find? slot = some body) ∧
    ∀ (before : Universe) (name : String) (kind : TypeKind) (base : Option TypeId)
      (clauses : List TypeDeclaration.Clause),
      (∀ parent, base = some parent → parent < before.size) →
      (∀ clause ∈ clauses, clause.Known before.size) →
      (before.define (.written name kind base clauses)).Extends u →
      u.base before.size = (clauses.reverse.findSome? (·.base?)).or base ∧
      (∀ type, type ∈ u.interfaces before.size ↔ .implementing type ∈ clauses) ∧
      (u.declaration before.size).methods = clauses.filterMap (·.method?) ∧
      (u.declaration before.size).implementations = clauses.filterMap (·.implementation?) := by
  refine ⟨?_, ?_, ?_, ?_⟩
  · intro id method body
    rw [← resolve_eq_some_iff, require]
    cases u.resolve id method.slot <;> simp
  · intro id method
    rw [← resolve_eq_none_iff, require]
    cases u.resolve id method.slot <;> simp
  · intro id slot body names
    have given := explicitBody_eq_some_iff.mpr names
    have home : slot.parent ≠ id :=
      Nat.ne_of_lt (u.lt_of_mem_implementations (u.mem_of_explicitBody given))
    rw [u.find?_methodTable_inherited home, given, Option.some_or]
  · intro before name kind base clauses baseKnown known extended
    have declared : u.declaration before.size = .written name kind base clauses := by
      rw [extended.declaration_eq _ (before.size_lt_size_define _), declaration_define_self]
      exact TypeDeclaration.within_written name kind baseKnown known
    unfold Universe.base Universe.interfaces
    rw [declared]
    exact ⟨TypeDeclaration.base_written name kind base clauses,
      TypeDeclaration.mem_interfaces_written name kind base clauses,
      TypeDeclaration.methods_written name kind base clauses,
      TypeDeclaration.implementations_written name kind base clauses⟩

def turn : Signature := { name := "Turn", returns := .int32 }

/-- Returns the number. -/
def turning (n : Int32) : MethodBody := .native fun _ => .done (.ok (.int32 n))

/-- An interface with the method, and a class that implements it. -/
def layers : Universe :=
  (initial.define (.written "IWheel" .interfaceType none [.method turn none])).define
    (.written "Wheel" .classType (some objectType)
      [.implementing 2, .method turn (some (turning 1))])

/-- Extends the class, gives a body to the method of the interface by name, and declares a
method of the same shape. -/
def gear : List TypeDeclaration.Clause :=
  [.extending 3, .implement ⟨2, 0⟩ (turning 2), .method turn (some (turning 3))]

/-- With a class that overrides the method in both ways. -/
def layered : Universe := layers.define (.written "Gear" .classType (some objectType) gear)

/-- The method of the interface is the one that has its body by name.  The method of the
class that is extended is overridden by the declaration. -/
theorem virtual_dispatch_most_derived_layered :
    layered.require 4 ⟨⟨2, 0⟩, []⟩ = .ok (turning 2) ∧
      layered.require 4 ⟨⟨3, 0⟩, []⟩ = .ok (turning 3) := by
  obtain ⟨reached, _, _, told⟩ := virtual_dispatch_most_derived layered
  have size : layers.size = 4 := by with_unfolding_all rfl
  have baseKnown : ∀ parent, some objectType = some parent → parent < layers.size := by
    rintro parent ⟨⟩
    rw [size]
    decide
  have known : ∀ clause ∈ gear, clause.Known layers.size := by
    intro clause member
    rw [size]
    rcases member with _ | ⟨_, _ | ⟨_, _ | ⟨_, ⟨⟩⟩⟩⟩
    · exact (by decide : 3 < 4)
    · exact (by decide : 2 < 4)
    · trivial
  obtain ⟨extended, _, _, given⟩ :=
    told layers "Gear" .classType (some objectType) gear baseKnown known (.refl layered)
  rw [size] at extended given
  have named : (layered.declaration 4).implementations = [(⟨2, 0⟩, turning 2)] := given
  have base : layered.base 4 = some 3 := extended
  constructor
  · refine (reached 4 ⟨⟨2, 0⟩, []⟩ _).mpr (.here (.named ?_ ⟨[], [], named, by simp⟩))
    rintro other ⟨impossible, _⟩
    cases impossible
  · refine (reached 4 ⟨⟨3, 0⟩, []⟩ _).mpr (.here (.matched ?_ ?_ ?_ ?_))
    · rintro other ⟨impossible, _⟩
      cases impossible
    · rintro other ⟨earlier, later, listed, _⟩
      have member : (⟨3, 0⟩, other) ∈ (layered.declaration 4).implementations := by
        rw [listed]
        simp
      rw [named] at member
      simp at member
    · have declared : (⟨3, 0⟩ : Slot) ∈ layered.slots 3 := by decide +kernel
      exact ⟨declared, .inl ⟨by with_unfolding_all rfl, 3, base, layered.mem_chain_self 3⟩⟩
    · exact ⟨[], ⟨4, 0⟩, [], by with_unfolding_all rfl, by with_unfolding_all rfl,
        by with_unfolding_all rfl, by simp⟩

end Universe

end Interpose
