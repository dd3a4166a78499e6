/-
Module: Interpose.Script.Meaning
Purpose: What scripts do, as programs of bodies and interceptors.
Main exports: Script.body, Script.interceptor
-/
import Interpose.Script.Syntax

namespace Interpose.Script

/-- What a running script can reach, whether it runs as a body or as an
interceptor. -/
structure Surroundings (Request : Type) (Reply : Request → Type) where
  world : (r : WorldRequest) → Program Request Reply r.Reply
  this : Option ObjectRef
  argument : Nat → Program Request Reply (Except Fault Value)
  /-- All argument values. -/
  arguments : Program Request Reply (Except Fault (List Value))
  isByRef : Nat → Program Request Reply Bool
  generics : Program Request Reply (List RuntimeType)
  method : Program Request Reply (Option Method)
  target : Program Request Reply (Option ObjectRef)
  store : Nat → Value → Program Request Reply (Except Fault Unit)
  argumentCount : Program Request Reply Nat
  proceed : Program Request Reply (Except Fault Value)
  proceedWith : ObjectRef → List Value → Program Request Reply CallResult
  setTarget : Option ObjectRef → Program Request Reply Unit

section

variable {Request : Type} {Reply : Request → Type}

/-- A computation that may fail. -/
abbrev Attempt (Request : Type) (Reply : Request → Type) (α : Type) :=
  ExceptT Fault (Program Request Reply) α

/-- A program as a computation that does not fail. -/
private def succeed {α : Type} (program : Program Request Reply α) : Attempt Request Reply α :=
  program.bind fun result => .done (.ok result)

private def words (around : Surroundings Request Reply) (subject : Subject) :
    Attempt Request Reply Value :=
  succeed ((around.world (.describe subject)).bind fun (text : String) => .done (.string text))

private def refer (around : Surroundings Request Reply) (reference : Reference) :
    Attempt Request Reply reference.Meaning :=
  ExceptT.mk (around.world (.resolve reference))

private def sum : Value → Value → Value
  | .int32 a, .int32 b => .int32 (a + b)
  | _, _ => .null

/-- Two strings joined. -/
private def joined : Value → Value → Value
  | .string a, .string b => .string (a ++ b)
  | _, _ => .null

mutual

/-- The value of an expression.  Operands are evaluated from left to right.  Of a
call, the receiver must be an object before the arguments are looked at, and only
then must the type arguments be as many as the method declares. -/
def Expr.eval (around : Surroundings Request Reply) (result : Value) :
    Expr → Attempt Request Reply Value
  | .value v => pure v
  | .object name => do
      let o : ObjectRef ← refer around (.object name)
      pure (.object o)
  | .argument index => ExceptT.mk (around.argument index)
  | .get index kind => do
      let v ← ExceptT.mk (around.argument index)
      ExceptT.mk (.done (v.convert kind))
  | .argumentCount => do
      let count ← succeed around.argumentCount
      pure (.int32 (Int32.ofNat count))
  | .isByRef index => do
      let b ← succeed (around.isByRef index)
      pure (.boolean b)
  | .generics => do
      let types ← succeed around.generics
      words around (.generics types)
  | .this => pure (Value.ofOption (around.this.map .object))
  | .tag =>
      match around.this with
      | none => pure .null
      | some o => do
          let tag : Option String ← succeed (around.world (.tag o))
          pure (Value.ofOption (tag.map .string))
  | .cell key =>
      match around.this with
      | none => pure .null
      | some o => do
          let v : Option Value ← succeed (around.world (.cell o key))
          pure (Value.ofOption v)
  | .target => do
      let o ← succeed around.target
      pure (Value.ofOption (o.map .object))
  | .result => pure result
  | .method => do
      let m ← succeed around.method
      match m with
      | none => pure .null
      | some m => words around (.method m)
  | .methodName => do
      let m ← succeed around.method
      match m with
      | none => pure .null
      | some m => words around (.methodName m)
  | .add left right => do
      let a ← left.eval around result
      let b ← right.eval around result
      pure (sum a b)
  | .concat left right => do
      let a ← left.eval around result
      let b ← right.eval around result
      pure (joined a b)
  | .equal left right => do
      let a ← left.eval around result
      let b ← right.eval around result
      pure (.boolean (a.equals b))
  | .narrow e type => do
      let v ← e.eval around result
      let type : RuntimeType ← refer around (.runtimeType type)
      ExceptT.mk (around.world (.narrow v type))
  | .typeName e => do
      let v ← e.eval around result
      words around (.typeOf v)
  | .default type => do
      let type : RuntimeType ← refer around (.runtimeType type)
      pure type.defaultValue
  | .create type tag => do
      let type : TypeId ← refer around (.definedType type)
      let o : ObjectRef ← succeed (around.world (.create type tag))
      pure (.object o)
  | .invoke factory method on arguments => do
      let receiver ← on.eval around result
      let o ← ExceptT.mk (.done receiver.toReceiver)
      let vs ← evalAll around result arguments
      let factory : FactoryId ← refer around (.factory factory)
      let method : Method ← refer around (.method method)
      let outcome : CallResult ← succeed (around.world (.invoke factory method o vs))
      ExceptT.mk (.done outcome.result)
  | .callVirtual method on arguments => do
      let receiver ← on.eval around result
      let o ← ExceptT.mk (.done receiver.toReceiver)
      let vs ← evalAll around result arguments
      let method : Method ← refer around (.method method)
      ExceptT.mk (around.world (.callVirtual method o vs))

private def evalAll (around : Surroundings Request Reply) (result : Value) :
    List Expr → Attempt Request Reply (List Value)
  | [] => pure []
  | e :: rest => do
      let v ← e.eval around result
      let vs ← evalAll around result rest
      pure (v :: vs)

end

/-- How a run of steps ended: at its end, at a return, or at a fault. -/
inductive Ending where
  | reachedEnd
  | returned (v : Value)
  | failed (fault : Fault)

/-- Go on with a value, or end with the fault that stands in its place. -/
private def onValue {α : Type} (result : Value) (attempt : Attempt Request Reply α)
    (next : α → Program Request Reply (Value × Ending)) :
    Program Request Reply (Value × Ending) :=
  attempt.run.bind fun
    | .ok v => next v
    | .error fault => .done (result, .failed fault)

def report (around : Surroundings Request Reply) (entry : JournalEntry) :
    Program Request Reply Unit := around.world (.report entry)

/-- Overwrite argument slots from the last one down. -/
private def fillSlots (around : Surroundings Request Reply) (v : Value) :
    Nat → Program Request Reply Unit
  | 0 => .done ()
  | count + 1 => (around.store count v).bind fun _ => fillSlots around v count

mutual

/-- Run a step from the current result, giving the result after it and how it
ended.  What a failed attempt did to the result stays. -/
def Step.run (around : Surroundings Request Reply) (result : Value) :
    Step → Program Request Reply (Value × Ending)
  | .return e => onValue result (e.eval around result) fun v => .done (result, .returned v)
  | .fail text => .done (result, .failed (.interceptor text))
  | .log e => onValue result (e.eval around result) fun v =>
      (report around (.value v)).bind fun _ => .done (result, .reachedEnd)
  | .logArguments => onValue result (ExceptT.mk around.arguments) fun vs =>
      (report around (.arguments vs)).bind fun _ => .done (result, .reachedEnd)
  | .store index e => onValue result (e.eval around result) fun v =>
      onValue result (ExceptT.mk (around.store index v)) fun _ => .done (result, .reachedEnd)
  | .setCell key e => onValue result (e.eval around result) fun v =>
      match around.this with
      | none => .done (result, .reachedEnd)
      | some o => (around.world (.setCell o key v)).bind fun _ => .done (result, .reachedEnd)
  | .cond test yes no => onValue result (test.eval around result) fun
      | .boolean true => runAll around result yes
      | _ => runAll around result no
  | .attempt steps => (runAll around result steps).bind fun
      | (after, .failed fault) =>
          (report around (.caught fault)).bind fun _ => .done (after, .reachedEnd)
      | ended => .done ended
  | .fill e => onValue result (e.eval around result) fun v =>
      around.argumentCount.bind fun count =>
        (fillSlots around v count).bind fun _ => .done (result, .reachedEnd)
  | .proceed => onValue result (ExceptT.mk around.proceed) fun v => .done (v, .reachedEnd)
  | .proceedWith on arguments => onValue result (on.eval around result) fun receiver =>
      onValue result (ExceptT.mk (.done receiver.toReceiver)) fun o =>
        onValue result (evalAll around result arguments) fun vs =>
          (around.proceedWith o vs).bind fun outcome =>
            (report around (.proceedArguments outcome.arguments)).bind fun _ =>
              match outcome.result with
              | .ok v => .done (v, .reachedEnd)
              | .error fault => .done (result, .failed fault)
  | .retarget e => onValue result (e.eval around result) fun v =>
      (around.setTarget v.object?).bind fun _ => .done (result, .reachedEnd)
  | .logCall => around.method.bind fun
      | none => .done (result, .reachedEnd)
      | some m => around.target.bind fun target =>
          onValue result (ExceptT.mk around.arguments) fun vs =>
            (around.world (.describe (.call m target vs))).bind fun (text : String) =>
              (report around (.text text)).bind fun _ => .done (result, .reachedEnd)

/-- Run steps in order up to a return or a fault. -/
private def runAll (around : Surroundings Request Reply) (result : Value) :
    List Step → Program Request Reply (Value × Ending)
  | [] => .done (result, .reachedEnd)
  | step :: rest => (step.run around result).bind fun
      | (after, .reachedEnd) => runAll around after rest
      | ended => .done ended

end

/-- The value of a whole script: that of the first return reached, else the
current result at the end. -/
def outcome (around : Surroundings Request Reply) (steps : List Step) :
    Program Request Reply (Except Fault Value) :=
  (runAll around .void steps).bind fun
    | (result, .reachedEnd) => .done (.ok result)
    | (_, .returned v) => .done (.ok v)
    | (_, .failed fault) => .done (.error fault)

end

/-- The arguments of a frame, one after the other. -/
private def frameArguments : (count index : Nat) → BodyProgram (Except Fault (List Value))
  | 0, _ => .done (.ok [])
  | count + 1, index => .ask (.argument index) fun (reply : Except Fault Value) =>
      match reply with
      | .error fault => .done (.error fault)
      | .ok v => (frameArguments count (index + 1)).bind fun
          | .error fault => .done (.error fault)
          | .ok vs => .done (.ok (v :: vs))

/-- What a script reaches as a method body.  It has no target to proceed to. -/
def inBody (this : ObjectRef) : Surroundings BodyRequest BodyRequest.Reply where
  world r := .request (BodyRequest.world r)
  this := some this
  argument index := .request (BodyRequest.argument index)
  arguments := .ask .argumentCount fun (count : Nat) => frameArguments count 0
  isByRef index := .request (BodyRequest.isByRef index)
  generics := .request BodyRequest.generics
  method := .done none
  target := .done none
  store index v := .request (BodyRequest.store index v)
  argumentCount := .request BodyRequest.argumentCount
  proceed := .done (.ok .null)
  proceedWith _ arguments := .done ⟨.ok .null, arguments⟩
  setTarget _ := .done ()

/-- What a script reaches as an interceptor.  An absent argument is null. -/
def inHook : Surroundings HookRequest HookRequest.Reply where
  world r := .request (HookRequest.world r)
  this := none
  argument index := .ask .slots fun (slots : List Value) => .done (.ok (slots.getD index .null))
  arguments := .ask .slots fun (slots : List Value) => .done (.ok slots)
  isByRef _ := .done false
  generics := .ask .method fun (m : Method) => .done m.generics
  method := .ask .method fun (m : Method) => .done (some m)
  target := .request HookRequest.target
  store index v := .request (HookRequest.setSlot index v)
  argumentCount := .ask .slots fun (slots : List Value) => .done slots.length
  proceed := .request HookRequest.proceed
  proceedWith on arguments := .request (HookRequest.proceedWith on arguments)
  setTarget target := .request (HookRequest.setTarget target)

/-- A method body that runs a script. -/
def body (steps : List Step) : MethodRun := fun this => outcome (inBody this) steps

/-- An interceptor that runs a script. -/
def interceptor (steps : List Step) : Interceptor := outcome inHook steps

end Interpose.Script
