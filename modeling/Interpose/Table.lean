/-
Module: Interpose.Table
Purpose: Finite maps that keep their keys in order of arrival.
Main exports: Table, Table.find?, Table.insert, Table.size
Main statements: a look-up after insertions, and how an insertion changes the size.
-/

namespace Interpose

/-- A finite map from `κ` to `α`.  Each key is listed once, where it first
arrived; writing a key again keeps its place. -/
structure Table (κ α : Type) where
  entries : List (κ × α)
deriving Repr

namespace Table

variable {κ α : Type}

def empty : Table κ α := ⟨[]⟩

instance : Inhabited (Table κ α) := ⟨empty⟩

def size (table : Table κ α) : Nat := table.entries.length

def isEmpty (table : Table κ α) : Bool := table.entries.isEmpty

def keys (table : Table κ α) : List κ := table.entries.map (·.1)

@[simp] theorem size_empty : (empty : Table κ α).size = 0 := rfl

variable [DecidableEq κ]

/-- The value that the first pair with this key holds. -/
private def findIn (key : κ) : List (κ × α) → Option α
  | [] => none
  | (other, value) :: rest => if other = key then some value else findIn key rest

/-- Write a key into a list of pairs: in its place if it is there, else at the end. -/
private def insertIn (key : κ) (value : α) : List (κ × α) → List (κ × α)
  | [] => [(key, value)]
  | (other, old) :: rest =>
      if other = key then (other, value) :: rest else (other, old) :: insertIn key value rest

def find? (table : Table κ α) (key : κ) : Option α := findIn key table.entries

def contains (table : Table κ α) (key : κ) : Bool := (table.find? key).isSome

/-- The map with `key` holding `value`. -/
def insert (table : Table κ α) (key : κ) (value : α) : Table κ α :=
  ⟨insertIn key value table.entries⟩

/-- The map with `key` holding `value`, unless it already holds something. -/
def insertNew (table : Table κ α) (key : κ) (value : α) : Table κ α :=
  if table.contains key then table else table.insert key value

@[simp] theorem find?_empty (key : κ) : (empty : Table κ α).find? key = none := rfl

/-- Looking a key up after one was written. -/
private theorem findIn_insertIn (key other : κ) (value : α) (pairs : List (κ × α)) :
    findIn other (insertIn key value pairs) =
      if key = other then some value else findIn other pairs := by
  induction pairs with
  | nil => simp [insertIn, findIn]
  | cons pair rest inductionHypothesis =>
      obtain ⟨head, old⟩ := pair
      by_cases hit : head = key
      · subst hit
        by_cases same : head = other <;> simp [insertIn, findIn, same]
      · by_cases same : head = other
        · subst same
          simp [insertIn, findIn, hit, Ne.symm hit]
        · simp [insertIn, findIn, hit, same, inductionHypothesis]

/-- Reading after writing: the written key gives the new value, every other
key what it gave before. -/
theorem find?_insert (table : Table κ α) (key other : κ) (value : α) :
    (table.insert key value).find? other =
      if key = other then some value else table.find? other :=
  findIn_insertIn key other value table.entries

@[simp] theorem find?_insert_self (table : Table κ α) (key : κ) (value : α) :
    (table.insert key value).find? key = some value := by
  simp [find?_insert]

theorem find?_insert_of_ne (table : Table κ α) {key other : κ} (value : α)
    (different : key ≠ other) :
    (table.insert key value).find? other = table.find? other := by
  simp [find?_insert, different]

/-- Writing a key unless it is there: what the map holds goes first. -/
theorem find?_insertNew (table : Table κ α) (key other : κ) (value : α) :
    (table.insertNew key value).find? other =
      (table.find? other).or (if key = other then some value else none) := by
  unfold insertNew contains
  by_cases same : key = other
  · subst same
    cases held : table.find? key <;> simp [held]
  · cases table.find? key <;> simp [find?_insert, same]

/-- Writing pairs in order: the last pair with a key decides. -/
theorem find?_foldl_insert (pairs : List (κ × α)) (table : Table κ α) (key : κ) :
    (pairs.foldl (fun filled pair => filled.insert pair.1 pair.2) table).find? key =
      ((pairs.reverse.find? fun pair => pair.1 == key).map (·.2)).or (table.find? key) := by
  induction pairs generalizing table with
  | nil => rfl
  | cons pair rest inductionHypothesis =>
      rw [List.foldl_cons, inductionHypothesis, find?_insert, List.reverse_cons,
        List.find?_append]
      cases rest.reverse.find? fun pair => pair.1 == key with
      | some last => rfl
      | none =>
          by_cases same : pair.1 = key <;> simp [same]

/-- Writing a key makes the list longer only if the key is new. -/
private theorem length_insertIn (key : κ) (value : α) (pairs : List (κ × α)) :
    (insertIn key value pairs).length =
      if (findIn key pairs).isSome then pairs.length else pairs.length + 1 := by
  induction pairs with
  | nil => simp [insertIn, findIn]
  | cons pair rest inductionHypothesis =>
      obtain ⟨head, old⟩ := pair
      by_cases hit : head = key
      · simp [insertIn, findIn, hit]
      · simp only [insertIn, findIn, hit, if_false, List.length_cons, inductionHypothesis]
        split <;> rfl

/-- Writing a key that is there keeps the size; a new key adds one. -/
theorem size_insert (table : Table κ α) (key : κ) (value : α) :
    (table.insert key value).size =
      if table.contains key then table.size else table.size + 1 :=
  length_insertIn key value table.entries

/-- A new key comes last. -/
private theorem insertIn_of_absent {key : κ} (value : α) {pairs : List (κ × α)}
    (absent : findIn key pairs = none) : insertIn key value pairs = pairs ++ [(key, value)] := by
  induction pairs with
  | nil => rfl
  | cons pair rest inductionHypothesis =>
      obtain ⟨head, old⟩ := pair
      by_cases hit : head = key
      · simp [findIn, hit] at absent
      · rw [findIn, if_neg hit] at absent
        rw [insertIn, if_neg hit, inductionHypothesis absent]
        rfl

/-- A new key comes last. -/
theorem entries_insert_of_absent {table : Table κ α} {key : κ} (value : α)
    (absent : table.find? key = none) :
    (table.insert key value).entries = table.entries ++ [(key, value)] :=
  insertIn_of_absent value absent

end Table

end Interpose
