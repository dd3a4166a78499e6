/-
Module: Interpose.Naming
Purpose: Names given to things, of which the first counts in both directions.
Main exports: Naming, Naming.meaning?, Naming.name?, Naming.give
Main statements: what one more name changes in either direction.
-/

namespace Interpose

/-- Names given to things, in order.  A name may be given to several things, and
a thing may be given several names. -/
structure Naming (α : Type) where
  given : List (String × α)
deriving Repr

namespace Naming

variable {α : Type}

def empty : Naming α := ⟨[]⟩

instance : Inhabited (Naming α) := ⟨empty⟩

/-- What a name stands for: the thing to which it was given first. -/
def meaning? (naming : Naming α) (name : String) : Option α :=
  (naming.given.find? fun pair => pair.1 == name).map (·.2)

/-- The first name that a thing of this kind was given. -/
def nameWhere? (naming : Naming α) (kind : α → Bool) : Option String :=
  (naming.given.find? fun pair => kind pair.2).map (·.1)

/-- What a thing goes by: the first name that it was given. -/
def name? [BEq α] (naming : Naming α) (thing : α) : Option String :=
  naming.nameWhere? (· == thing)

/-- Give a thing one more name.  A name that stands for something goes on
standing for it, but the thing goes by the name if it has no other. -/
def give (naming : Naming α) (name : String) (thing : α) : Naming α :=
  ⟨naming.given ++ [(name, thing)]⟩

@[simp] theorem meaning?_empty (name : String) : (empty : Naming α).meaning? name = none := rfl

@[simp] theorem nameWhere?_empty (kind : α → Bool) :
    (empty : Naming α).nameWhere? kind = none := rfl

theorem meaning?_give (naming : Naming α) (name other : String) (thing : α) :
    (naming.give name thing).meaning? other =
      (naming.meaning? other).or (if name = other then some thing else none) := by
  by_cases same : name = other <;>
    cases before : naming.given.find? (fun pair => pair.1 == other) <;>
      simp [meaning?, give, List.find?_append, before, same]

theorem nameWhere?_give (naming : Naming α) (name : String) (thing : α) (kind : α → Bool) :
    (naming.give name thing).nameWhere? kind =
      (naming.nameWhere? kind).or (if kind thing then some name else none) := by
  by_cases hit : kind thing <;>
    cases before : naming.given.find? (fun pair => kind pair.2) <;>
      simp [nameWhere?, give, List.find?_append, before, hit]

end Naming

end Interpose
