/-
Module: Interpose.Program
Purpose: Bodies and interceptors as trees of requests and continuations.
Main exports: Program, Program.run, BodyRequest, HookRequest, BodyProgram, HookProgram
Main statements: programs compose like the computations that run them.
-/
import Interpose.Frame
import Interpose.Reference

namespace Interpose

/-- A computation that asks its surroundings for one thing after another.
What it does next may depend in any way on the replies. -/
inductive Program (Request : Type) (Reply : Request → Type) (α : Type) : Type where
  | done (result : α)
  | ask (request : Request) (resume : Reply request → Program Request Reply α)

namespace Program

variable {Request : Type} {Reply : Request → Type} {α β γ State : Type}

/-- Go on with the result of a program. -/
def bind : Program Request Reply α → (α → Program Request Reply β) → Program Request Reply β
  | done result, next => next result
  | ask request resume, next => ask request fun reply => (resume reply).bind next

instance : Monad (Program Request Reply) where
  pure := done
  bind := bind

/-- Ask for one thing. -/
def request (r : Request) : Program Request Reply (Reply r) := ask r done

/-- Run a program against a handler of its requests.  The run has no result
when the handler has none for some request. -/
def run (handle : (r : Request) → State → Option (Reply r × State)) :
    Program Request Reply α → State → Option (α × State)
  | done result, state => some (result, state)
  | ask request resume, state =>
      match handle request state with
      | none => none
      | some (reply, after) => (resume reply).run handle after

@[simp] theorem run_done (handle : (r : Request) → State → Option (Reply r × State))
    (result : α) (state : State) :
    (done result : Program Request Reply α).run handle state = some (result, state) := rfl

@[simp] theorem done_bind (result : α) (next : α → Program Request Reply β) :
    (done result).bind next = next result := rfl

theorem bind_done (program : Program Request Reply α) : program.bind done = program := by
  induction program with
  | done result => rfl
  | ask request resume inductionHypothesis => simp [bind, inductionHypothesis]

theorem bind_assoc (program : Program Request Reply α) (next : α → Program Request Reply β)
    (last : β → Program Request Reply γ) :
    (program.bind next).bind last = program.bind fun result => (next result).bind last := by
  induction program with
  | done result => rfl
  | ask request resume inductionHypothesis => simp [bind, inductionHypothesis]

/-- Running a composite runs its parts in order, the second from where the
first stopped. -/
theorem run_bind (handle : (r : Request) → State → Option (Reply r × State))
    (program : Program Request Reply α) (next : α → Program Request Reply β) (state : State) :
    (program.bind next).run handle state =
      (program.run handle state).bind fun (result, after) => (next result).run handle after := by
  induction program generalizing state with
  | done result => rfl
  | ask request resume inductionHypothesis =>
      simp only [bind, run]
      cases handle request state with
      | none => rfl
      | some answer => exact inductionHypothesis answer.1 answer.2

end Program

/-- A result together with what a call left in its argument list. -/
structure CallResult where
  result : Except Fault Value
  arguments : List Value

/-- What a program can have put into words. -/
inductive Subject where
  /-- The type of a value. -/
  | typeOf (v : Value)
  /-- A value with its tag. -/
  | value (v : Value)
  /-- A method with its signature. -/
  | method (m : Method)
  /-- The bare name of a method. -/
  | methodName (m : Method)
  /-- A list of type arguments. -/
  | generics (types : List RuntimeType)
  /-- An intercepted call with its target and argument slots. -/
  | call (m : Method) (target : Option ObjectRef) (slots : List Value)

/-- One line of what programs report while they run. -/
inductive JournalEntry where
  | value (v : Value)
  | arguments (vs : List Value)
  | caught (fault : Fault)
  | proceedArguments (vs : List Value)
  | text (s : String)

/-- The values that an entry shows, in order. -/
def JournalEntry.values : JournalEntry → List Value
  | value v => [v]
  | arguments vs | proceedArguments vs => vs
  | caught _ | text _ => []

/-- What any program may ask for.  The model has a limit here: bodies and
interceptors cannot build types, create proxies, make delegates or change the
interceptor of a proxy in the middle of a call.  Only sessions do so, between
calls. -/
inductive WorldRequest where
  /-- A new object with a tag and no cells. -/
  | create (type : TypeId) (tag : String)
  /-- The tag of an object that has one. -/
  | tag (o : ObjectRef)
  /-- A named cell of an object. -/
  | cell (o : ObjectRef) (key : String)
  /-- Write a named cell of an object that has a tag. -/
  | setCell (o : ObjectRef) (key : String) (v : Value)
  /-- Report something. -/
  | report (entry : JournalEntry)
  /-- Call a method through the thunk cache of a factory. -/
  | invoke (factory : FactoryId) (method : Method) (on : ObjectRef) (arguments : List Value)
  /-- Call a method directly, every argument by value. -/
  | callVirtual (method : Method) (on : ObjectRef) (arguments : List Value)
  /-- Check that a value may be stored in a location of a type. -/
  | narrow (v : Value) (type : RuntimeType)
  /-- The words for something. -/
  | describe (subject : Subject)
  /-- What a reference stands for at this moment. -/
  | resolve (reference : Reference)

def WorldRequest.Reply : WorldRequest → Type
  | create _ _ => ObjectRef
  | tag _ => Option String
  | cell _ _ => Option Value
  | setCell _ _ _ => Unit
  | report _ => Unit
  | invoke _ _ _ _ => CallResult
  | callVirtual _ _ _ => Except Fault Value
  | narrow _ _ => Except Fault Value
  | describe _ => String
  | resolve reference => Except Fault reference.Meaning

/-- What a method body may ask for: the world, and anything about its frame. -/
inductive BodyRequest where
  | world (r : WorldRequest)
  | argumentCount
  | argument (index : Nat)
  | isByRef (index : Nat)
  | store (index : Nat) (v : Value)
  | generics
  | push (v : Value)
  | declare (v : Value)
  | pushAddress (cell : Nat)
  | cell (index : Nat)

def BodyRequest.Reply : BodyRequest → Type
  | world r => r.Reply
  | argumentCount => Nat
  | argument _ => Except Fault Value
  | isByRef _ => Bool
  | store _ _ => Except Fault Unit
  | generics => List RuntimeType
  | push _ => Unit
  | declare _ => Nat
  | pushAddress _ => Unit
  | cell _ => Except Fault Value

/-- What an interceptor may ask for: the world, and anything about the call
that it intercepts. -/
inductive HookRequest where
  | world (r : WorldRequest)
  | method
  | target
  | setTarget (target : Option ObjectRef)
  /-- All argument slots. -/
  | slots
  /-- Overwrite one argument slot. -/
  | setSlot (index : Nat) (v : Value)
  /-- Call the target with the current slots. -/
  | proceed
  /-- Call the intercepted method on any object with any arguments. -/
  | proceedWith (on : ObjectRef) (arguments : List Value)

def HookRequest.Reply : HookRequest → Type
  | world r => r.Reply
  | method => Method
  | target => Option ObjectRef
  | setTarget _ => Unit
  | slots => List Value
  | setSlot _ _ => Except Fault Unit
  | proceed => Except Fault Value
  | proceedWith _ _ => CallResult

/-- What runs when a method with a body of its own is called. -/
abbrev BodyProgram (α : Type) := Program BodyRequest BodyRequest.Reply α

/-- What runs when a method of a proxy is intercepted. -/
abbrev HookProgram (α : Type) := Program HookRequest HookRequest.Reply α

/-- A method body: a program for each receiver. -/
abbrev MethodRun := ObjectRef → BodyProgram (Except Fault Value)

/-- Handles every intercepted call on a proxy. -/
abbrev Interceptor := HookProgram (Except Fault Value)

/-- Forwards every call to the target unchanged. -/
def transparent : Interceptor := Program.request HookRequest.proceed

end Interpose
