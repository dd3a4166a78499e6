/-
Module: Interpose.Fault
Purpose: The causes for which an operation on types, calls and proxies fails.
Main exports: Fault, TypeLabel, Unsupported, BuildStage
-/
import Interpose.Types.Method

namespace Interpose

/-- What a mismatch says was wanted or found: a runtime type, the null
reference, the raw representation of a 64-bit float, or any proxy object. -/
inductive TypeLabel where
  | runtime (type : RuntimeType)
  | null
  | rawFloat64
  | proxyInstance
deriving DecidableEq, Repr, Inhabited

/-- Why no thunk and no proxy body can be produced for a method. -/
inductive Unsupported where
  /-- The method takes a variable argument list. -/
  | variableArguments
  /-- A parameter is declared to hold nothing. -/
  | voidParameter (name : String)
  /-- A parameter still mentions a type argument. -/
  | openParameter (name : String) (type : RuntimeType)
  /-- The result still mentions a type argument. -/
  | openReturn (type : RuntimeType)
  /-- The method is a generic definition without type arguments. -/
  | genericDefinition
deriving DecidableEq, Repr, Inhabited

/-- How far the construction of a proxy type has come. -/
inductive BuildStage where
  /-- The request has not been looked at. -/
  | uninitialized
  /-- The request is in order, and there is a declaration without members. -/
  | contextBuilt
  /-- The proxy capability interface is implemented. -/
  | contractImplemented
  /-- Every method that was collected is implemented. -/
  | methodsImplemented
  /-- The type is published. -/
  | finalized
deriving DecidableEq, Repr, Inhabited

/-- Why an operation failed. -/
inductive Fault where
  /-- The signature of a method has no calling sequence. -/
  | unsupported (method : Method) (reason : Unsupported)
  /-- A value or an object is of the wrong type. -/
  | typeMismatch (expected actual : TypeLabel)
  /-- Proxies whose target is made on first use are not available. -/
  | lazyTarget (primary : TypeId)
  /-- A thunk was called with the wrong number of arguments. -/
  | argumentCount (expected actual : Nat)
  /-- An argument or a storage cell does not exist. -/
  | outOfRange (index count : Nat)
  /-- A store went to an argument that is passed by value. -/
  | notByRef (index : Nat)
  /-- The wrong number of type arguments for a method. -/
  | genericArity (method : Method) (expected actual : Nat)
  /-- A type has no body for a method. -/
  | methodNotFound (method : Method) (type : TypeId)
  /-- An intercepted method was called on a proxy without interceptor. -/
  | noInterceptor (method : Method)
  /-- A forwarded method was called on a proxy without target. -/
  | noForwardTarget (method : Method)
  /-- An interceptor proceeded without target. -/
  | noProceedTarget (method : Method)
  /-- A proxy was requested for a proxy type. -/
  | alreadyProxy (type : TypeId)
  /-- A supplementary type of a proxy is no interface. -/
  | notInterface (type : TypeId)
  /-- The construction of a proxy type is at another stage than it should be. -/
  | outOfStage (primary : TypeId) (actual expected : BuildStage)
  /-- The construction of a proxy type has no declaration to work on. -/
  | noDeclaration (primary : TypeId)
  /-- A type declares no member of a name. -/
  | memberNotFound (type : TypeId) (name : String)
  /-- A body or an interceptor gave up by itself. -/
  | interceptor (text : String)
  /-- Nothing goes by a name that was used. -/
  | unknownName (name : String)
deriving DecidableEq, Repr, Inhabited

end Interpose
