/-
Module: Interpose.Value
Purpose: Arguments, results and contents of storage cells.
Main exports: ObjectRef, Value, Value.equals, Value.convert, RuntimeType.defaultValue
-/
import Interpose.Fault
import Interpose.Numeric.Binary64

namespace Interpose

/-- A reference to an object.  It names the object by its place on the heap
and carries the object's type, which never changes. -/
structure ObjectRef where
  id : Nat
  type : TypeId
deriving DecidableEq, Repr, Inhabited

/-- A method argument, a return value or the contents of a storage cell. -/
inductive Value where
  | void
  | null
  | boolean (b : Bool)
  | char (c : Char)
  | int32 (n : Int32)
  | int64 (n : Int64)
  | float64 (x : Binary64)
  | string (s : String)
  | object (o : ObjectRef)
deriving DecidableEq, Repr, Inhabited

/-- The tags under which values hold a payload. -/
inductive ValueKind where
  | boolean
  | char
  | int32
  | int64
  | float64
  | string
  | object
deriving DecidableEq, Repr, Inhabited

/-- How a mismatch names the payload it wanted. -/
def ValueKind.label : ValueKind → TypeLabel
  | .boolean => .runtime .boolean
  | .char => .runtime .char
  | .int32 => .runtime .int32
  | .int64 => .runtime .int64
  | .float64 => .rawFloat64
  | .string => .runtime .string
  | .object => .runtime .object

namespace Value

def kind? : Value → Option ValueKind
  | void | null => none
  | boolean _ => some .boolean
  | char _ => some .char
  | int32 _ => some .int32
  | int64 _ => some .int64
  | float64 _ => some .float64
  | string _ => some .string
  | object _ => some .object

/-- How a mismatch names the value it found; an object is named by its type. -/
def label : Value → TypeLabel
  | void => .runtime .void
  | null => .null
  | boolean _ => .runtime .boolean
  | char _ => .runtime .char
  | int32 _ => .runtime .int32
  | int64 _ => .runtime .int64
  | float64 _ => .runtime .float64
  | string _ => .runtime .string
  | object o => .runtime (.named o.type)

def isNull : Value → Bool
  | null => true
  | _ => false

def object? : Value → Option ObjectRef
  | object o => some o
  | _ => none

def string? : Value → Option String
  | string s => some s
  | _ => none

/-- The value of an optional payload: null when there is none. -/
def ofOption (value : Option Value) : Value := value.getD null

/-- The value as a payload of the wanted tag.  Nothing is converted: any other
tag is a mismatch. -/
def convert (wanted : ValueKind) (value : Value) : Except Fault Value :=
  if value.kind? = some wanted then .ok value
  else .error (.typeMismatch wanted.label value.label)

/-- The receiver that a value stands for. -/
def toReceiver : Value → Except Fault ObjectRef
  | object o => .ok o
  | other => .error (.typeMismatch ValueKind.object.label other.label)

/-- Equality as the program sees it: floats compare as numbers, objects by
identity, everything else by content. -/
def equals : Value → Value → Bool
  | float64 x, float64 y => x.equals y
  | one, other => one == other

/-- Equality is identity of content for everything but floats. -/
theorem equals_self (value : Value) (notFloat : ∀ x, value ≠ float64 x) :
    value.equals value = true := by
  cases value with
  | float64 x => exact absurd rfl (notFloat x)
  | _ => simp [equals]

end Value

/-- What a storage cell of this type holds before anything is stored. -/
def RuntimeType.defaultValue : RuntimeType → Value
  | .void => .void
  | .boolean => .boolean false
  | .char => .char (Char.ofNat 0)
  | .int32 => .int32 0
  | .int64 => .int64 0
  | .float64 => .float64 .zero
  | .string | .object | .nullable _ | .named _ | .methodParameter _ => .null

end Interpose
