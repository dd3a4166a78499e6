/-
Module: Interpose.Proofs.ValueSets
Purpose: The set of values that a runtime type denotes, which narrowing decides.
Main exports: Universe.values, RuntimeType.wrapped, Universe.fits_iff_mem_values,
  Universe.values_wrapped_succ, Universe.values_wrapped_object, Universe.narrow_decides_values
-/
import Mathlib.Data.Set.Insert
import Interpose.Types.Narrowing

namespace Interpose

/-- A type made nullable so many times. -/
def RuntimeType.wrapped (type : RuntimeType) : Nat → RuntimeType
  | 0 => type
  | depth + 1 => .nullable (type.wrapped depth)

namespace Universe

/-- The values that a type denotes.  The primitive types are the values of their tags.  `object`
and the universal base type are everything but `void`; null belongs to the other reference types
and to whatever is made nullable.  A type that stands for a missing type argument is empty. -/
def values (u : Universe) : RuntimeType → Set Value
  | .void => {.void}
  | .boolean => Set.range .boolean
  | .char => Set.range .char
  | .int32 => Set.range .int32
  | .int64 => Set.range .int64
  | .float64 => Set.range .float64
  | .string => insert .null (Set.range .string)
  | .object => {v | v ≠ .void}
  | .nullable inner => insert .null (u.values inner)
  | .named id =>
      if id = objectType then {v | v ≠ .void}
      else insert .null {v | ∃ o, v = .object o ∧ u.isAssignable o.type id = true}
  | .methodParameter _ => ∅

/-! ### Narrowing -/

/-- A location of a type may hold the values that the type denotes.  The induction is on the type:
only what is made nullable leads back to another type. -/
theorem fits_iff_mem_values (u : Universe) (v : Value) (type : RuntimeType) :
    u.fits v type = true ↔ v ∈ u.values type := by
  induction type with
  | nullable inner inductionHypothesis =>
      rw [fits, values, Set.mem_insert_iff, Bool.or_eq_true, inductionHypothesis]
      cases v <;> simp [Value.isNull]
  | named id =>
      rw [fits, values]
      by_cases top : id = objectType
      · simp [top]
      · rw [if_neg top, if_neg top]
        cases v <;> simp [Value.isNull, Value.object?]
  | _ => cases v <;> simp [fits, values, Value.kind?, Value.isNull]

private theorem narrow_eq_ok_iff_mem_values (u : Universe) (v result : Value) (type : RuntimeType) :
    u.narrow v type = .ok result ↔ v ∈ u.values type ∧ result = v := by
  rw [narrow_eq_ok_iff, fits_iff_mem_values]

/-- Other values are refused, and the fault names the type and the value. -/
private theorem narrow_of_notMem_values (u : Universe) {v : Value} {type : RuntimeType}
    (outside : v ∉ u.values type) :
    u.narrow v type = .error (.typeMismatch (.runtime type) v.label) := by
  rw [← fits_iff_mem_values] at outside
  exact if_neg outside

/-! ### Types that are made nullable -/

/-- Made nullable once or more often, a type has null as one more value. -/
private theorem values_wrapped_succ (u : Universe) (type : RuntimeType) (depth : Nat) :
    u.values (type.wrapped (depth + 1)) = insert .null (u.values type) := by
  induction depth with
  | zero => rfl
  | succ depth inductionHypothesis =>
      calc u.values (type.wrapped (depth + 2))
          = insert .null (u.values (type.wrapped (depth + 1))) := rfl
        _ = insert .null (insert .null (u.values type)) := by rw [inductionHypothesis]
        _ = insert .null (u.values type) := Set.insert_idem _ _

/-- The universal base type goes by two names, also where it is made nullable. -/
private theorem values_wrapped_object (u : Universe) (depth : Nat) :
    u.values (RuntimeType.object.wrapped depth) =
      u.values ((RuntimeType.named objectType).wrapped depth) := by
  have same : u.values .object = u.values (.named objectType) := (if_pos rfl).symm
  cases depth with
  | zero => exact same
  | succ depth => rw [values_wrapped_succ, values_wrapped_succ, same]

/-! ### Defaults -/

/-- A location whose type mentions no type argument may hold its default. -/
theorem fits_defaultValue (u : Universe) {type : RuntimeType} (closed : type.isOpen = false) :
    u.fits type.defaultValue type = true := by
  cases type with
  | methodParameter index => cases closed
  | named id =>
      unfold fits
      split <;> rfl
  | _ => rfl

/-! ### What narrowing decides -/

/-- Narrowing gives a value back exactly if the type denotes it, and refuses it with a mismatch
otherwise.  It makes no difference how often a type is made nullable, nor by which of its names
the universal base type goes.  A type that mentions no type argument denotes its default. -/
theorem narrow_decides_values (u : Universe) (v : Value) (type : RuntimeType) :
    (∀ result, u.narrow v type = .ok result ↔ v ∈ u.values type ∧ result = v) ∧
    (v ∉ u.values type →
      u.narrow v type = .error (.typeMismatch (.runtime type) v.label)) ∧
    (∀ depth result, u.narrow v (type.wrapped (depth + 1)) = .ok result ↔
      (v = .null ∨ v ∈ u.values type) ∧ result = v) ∧
    (∀ depth result, u.narrow v (RuntimeType.object.wrapped depth) = .ok result ↔
      u.narrow v ((RuntimeType.named objectType).wrapped depth) = .ok result) ∧
    (type.isOpen = false → u.narrow type.defaultValue type = .ok type.defaultValue) := by
  refine ⟨fun result => u.narrow_eq_ok_iff_mem_values v result type, u.narrow_of_notMem_values,
    ?_, ?_, ?_⟩
  · intro depth result
    rw [narrow_eq_ok_iff_mem_values, values_wrapped_succ, Set.mem_insert_iff]
  · intro depth result
    rw [narrow_eq_ok_iff_mem_values, narrow_eq_ok_iff_mem_values, values_wrapped_object]
  · intro closed
    exact (u.narrow_eq_ok_iff _ _ _).mpr ⟨u.fits_defaultValue closed, rfl⟩

/-- Twice nullable, the integers have null but no string; the default is null. -/
theorem narrow_decides_values_optional :
    initial.narrow (.string "four") (RuntimeType.int32.wrapped 2) =
        .error (.typeMismatch (.runtime (.nullable (.nullable .int32))) (.runtime .string)) ∧
      initial.narrow .null (RuntimeType.int32.wrapped 2) = .ok .null := by
  have outside : Value.string "four" ∉ initial.values (RuntimeType.int32.wrapped 2) := by
    simp [values, RuntimeType.wrapped]
  have strings := initial.narrow_decides_values (.string "four") (RuntimeType.int32.wrapped 2)
  exact ⟨strings.2.1 outside, strings.2.2.2.2 rfl⟩

end Universe

end Interpose
