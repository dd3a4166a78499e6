/-
Module: Interpose.Types.Narrowing
Purpose: Which values a location of a runtime type may hold.
Main exports: Universe.fits, Universe.narrow
-/
import Interpose.Types.Universe

namespace Interpose.Universe

/-- Whether a location of a type may hold a value.  `object` and the universal
base type hold everything but `void`; reference types and nullable types hold
null; a type that is still open holds nothing. -/
def fits (u : Universe) (value : Value) : RuntimeType → Bool
  | .void => value == .void
  | .boolean => value.kind? == some .boolean
  | .char => value.kind? == some .char
  | .int32 => value.kind? == some .int32
  | .int64 => value.kind? == some .int64
  | .float64 => value.kind? == some .float64
  | .string => value.isNull || value.kind? == some .string
  | .object => value != .void
  | .nullable inner => value.isNull || u.fits value inner
  | .named id =>
      if id = objectType then value != .void
      else value.isNull || (value.object?.any fun o => u.isAssignable o.type id)
  | .methodParameter _ => false

/-- The value itself, if a location of the type may hold it. -/
def narrow (u : Universe) (value : Value) (type : RuntimeType) : Except Fault Value :=
  if u.fits value type then .ok value
  else .error (.typeMismatch (.runtime type) value.label)

/-- Narrowing never changes a value. -/
theorem narrow_eq_ok_iff (u : Universe) (value result : Value) (type : RuntimeType) :
    u.narrow value type = .ok result ↔ u.fits value type = true ∧ result = value := by
  by_cases held : u.fits value type = true
  · simp only [narrow, held, if_true, Except.ok.injEq, true_and]
    exact eq_comm
  · simp [narrow, held]

end Interpose.Universe
