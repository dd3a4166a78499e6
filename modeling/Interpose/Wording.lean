/-
Module: Interpose.Wording
Purpose: The words for types, methods, values and faults.
Main exports: Universe.typeText, Universe.methodText, Universe.valueText, BuildStage.text,
  Fault.message
-/
import Interpose.Types.Universe
import Interpose.Numeric.Shortest
import Interpose.Text.Quoted
import Interpose.Thunk

namespace Interpose

namespace Universe

def typeText (u : Universe) : RuntimeType → String
  | .void => "Void"
  | .boolean => "Boolean"
  | .char => "Char"
  | .int32 => "Int32"
  | .int64 => "Int64"
  | .float64 => "Double"
  | .string => "String"
  | .object => "Object"
  | .nullable inner => u.typeText inner ++ "?"
  | .named id => u.name id
  | .methodParameter index => "!!" ++ toString index

/-- What a mismatch calls a type. -/
def labelText (u : Universe) : TypeLabel → String
  | .runtime type => u.typeText type
  | .null => "null"
  | .rawFloat64 => "Float64"
  | .proxyInstance => "proxy instance"

/-- Type arguments by position. -/
def genericsText (u : Universe) (types : List RuntimeType) : String :=
  let entries := types.zipIdx.map fun (type, index) =>
    "M" ++ toString index ++ ": " ++ u.typeText type
  "\x7b" ++ ", ".intercalate entries ++ "\x7d"

private def directionText : Direction → String
  | .input => ""
  | .out => "out "
  | .byRef => "ref "

/-- A method with its signature, type arguments put in.  A generic definition
shows the names of its type parameters instead. -/
def methodText (u : Universe) (method : Method) : String :=
  let signature := u.signature method.slot
  let generics :=
    if u.isGeneric method.slot then
      let names := if method.isOpen then signature.genericParameters
        else method.generics.map u.typeText
      "<" ++ ", ".intercalate names ++ ">"
    else ""
  let parameters := signature.parameters.map fun parameter =>
    directionText parameter.direction ++ u.typeText (parameterType method parameter) ++ " " ++
      parameter.name
  u.typeText (u.returnType method) ++ " " ++ u.name method.parent ++ "::" ++ signature.name ++
    generics ++ "(" ++ ", ".intercalate parameters ++ ")"

/-- An object by its type.  Which object it is stays hidden. -/
private def objectText (u : Universe) (o : ObjectRef) : String := u.name o.type ++ "@0x*"

/-- A value with its tag. -/
def valueText (u : Universe) : Value → String
  | .void => "Void"
  | .null => "Null"
  | .boolean b => "Boolean(" ++ toString b ++ ")"
  | .char c => "Char(" ++ Quoted.char c ++ ")"
  | .int32 n => "Int32(" ++ toString n.toInt ++ ")"
  | .int64 n => "Int64(" ++ toString n.toInt ++ ")"
  | .float64 x => "Float64(" ++ x.text ++ ")"
  | .string s => "String(" ++ Quoted.string s ++ ")"
  | .object o => "Object(" ++ u.objectText o ++ ")"

/-- An intercepted call with its target and argument slots. -/
private def callText (u : Universe) (method : Method) (target : Option ObjectRef)
    (slots : List Value) : String :=
  let targetText := match target with
    | none => "None"
    | some o => "Some(" ++ u.objectText o ++ ")"
  "InvocationContext \x7b method: " ++ u.methodText method ++ ", target: " ++ targetText ++
    ", arguments: [" ++ ", ".intercalate (slots.map u.valueText) ++ "] \x7d"

/-- The words for anything that a program can ask about. -/
def describe (u : Universe) : Subject → String
  | .typeOf v => u.labelText v.label
  | .value v => u.valueText v
  | .method m => u.methodText m
  | .methodName m => (u.signature m.slot).name
  | .generics types => u.genericsText types
  | .call m target slots => u.callText m target slots

def opText (u : Universe) : ThunkOp → String
  | .cast type => "cast " ++ u.name type
  | .load index type => "load " ++ toString index ++ " " ++ u.typeText type
  | .loadAddress index type cell direction =>
      "address " ++ toString index ++ " " ++ u.typeText type ++ " local " ++ toString cell ++
        (if direction = .out then " Out" else " ByRef")
  | .callVirtual => "call"
  | .storeBack index cell => "store " ++ toString index ++ " local " ++ toString cell
  | .returnValue type => "return " ++ u.typeText type
  | .returnVoid => "return void"

/-- A cache entry with what it holds. -/
def entryText (u : Universe) (method : Method) (compiled : Bool) : String :=
  "ThunkCacheEntry \x7b method: " ++ u.methodText method ++ ", compiled: " ++ toString compiled ++
    " \x7d"

/-- A specialization cache with its size. -/
def specializationCacheText (u : Universe) (slot : Slot) (size : Nat) : String :=
  "SpecializationCache \x7b open_method: " ++ u.methodText slot.toMethod ++
    ", specializations: " ++ toString size ++ " \x7d"

/-- Why a signature is not supported. -/
private def unsupportedText (u : Universe) : Unsupported → String
  | .variableArguments => "variable argument lists are not supported"
  | .voidParameter name => "parameter " ++ name ++ " has type Void"
  | .openParameter name type =>
      "parameter " ++ name ++ " has unresolved type " ++ u.typeText type
  | .openReturn type => "return type " ++ u.typeText type ++ " is unresolved"
  | .genericDefinition => "generic method definitions must be closed first"

end Universe

def BuildStage.text : BuildStage → String
  | .uninitialized => "Uninitialized"
  | .contextBuilt => "ContextBuilt"
  | .contractImplemented => "InterfaceContractImplemented"
  | .methodsImplemented => "MethodsImplemented"
  | .finalized => "Finalized"

/-- The sentence that reports a fault. -/
def Fault.message (u : Universe) : Fault → String
  | .unsupported method reason =>
      "Unsupported signature for " ++ u.methodText method ++ ": " ++ u.unsupportedText reason
  | .typeMismatch expected actual =>
      "Type mismatch: expected " ++ u.labelText expected ++ ", got " ++ u.labelText actual
  | .lazyTarget primary =>
      "Not implemented: lazily created targets for " ++ u.name primary ++ " proxies"
  | .argumentCount expected actual =>
      "Argument count mismatch: expected " ++ toString expected ++ ", got " ++ toString actual
  | .outOfRange index count =>
      "Argument index " ++ toString index ++ " out of bounds (frame only has " ++
        toString count ++ ")"
  | .notByRef index => "Argument " ++ toString index ++ " is not passed by reference"
  | .genericArity method expected actual =>
      "Generic arity mismatch for " ++ u.methodText method ++ ": expected " ++
        toString expected ++ ", got " ++ toString actual
  | .methodNotFound method type =>
      "Method not found: " ++ u.methodText method ++ " on " ++ u.name type
  | .noInterceptor method =>
      "Null reference: no interceptor assigned for " ++ u.methodText method
  | .noForwardTarget method =>
      "Null reference: no target to forward " ++ u.methodText method ++ " to"
  | .noProceedTarget method =>
      "Null reference: no target to proceed to for " ++ u.methodText method
  | .alreadyProxy type =>
      "Invalid proxy type request: " ++ u.name type ++ " is itself a proxy type"
  | .notInterface type =>
      "Invalid proxy type request: " ++ u.name type ++ " is not an interface"
  | .outOfStage primary actual expected =>
      "Invalid proxy type request: proxy build for " ++ u.name primary ++ " is " ++
        actual.text ++ ", expected " ++ expected.text
  | .noDeclaration primary =>
      "Invalid proxy type request: proxy build for " ++ u.name primary ++ " has no type builder"
  | .memberNotFound type name => "Method not found: " ++ u.name type ++ "::" ++ name
  | .interceptor text => "Interceptor failed: " ++ text
  | .unknownName name => "Unknown name: " ++ name

end Interpose
