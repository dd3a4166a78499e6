/-
Module: Interpose.Call
Purpose: How calls run: thunks, method bodies, interceptors and the calls nested in them.
Main exports: VirtualCall, Thunk.invoke, Universe.invokeThrough, Universe.callVirtual
-/
import Interpose.Types.MethodTable
import Interpose.Types.Narrowing
import Interpose.Wording
import Interpose.World

namespace Interpose

/-- How a nested virtual call runs: it takes the receiver, the method, a frame
and the world, and leaves a result, the frame and the world.  It has no outcome
when calls nest too deeply. -/
abbrev VirtualCall :=
  ObjectRef → Method → Frame → World → Option (Except Fault Value × Frame × World)

/-- The value with which the cell of a by-reference argument starts.  An out
argument that does not fit starts with the default of its type. -/
def Universe.seed (u : Universe) (argument : Value) (type : RuntimeType) (direction : Direction) :
    Except Fault Value :=
  match u.narrow argument type with
  | .ok v => .ok v
  | .error fault => if direction = .out then .ok type.defaultValue else .error fault

namespace Thunk

/-- Run the steps of a thunk on an argument list, a frame and the result so far. -/
def execute (u : Universe) (call : VirtualCall) (on : ObjectRef) (method : Method) :
    List ThunkOp → List Value → Frame → Value → World → Option (CallResult × World)
  | [], arguments, _, result, w => some (⟨.ok result, arguments⟩, w)
  | .cast type :: rest, arguments, frame, result, w =>
      if u.isAssignable on.type type then execute u call on method rest arguments frame result w
      else
        let fault := Fault.typeMismatch (.runtime (.named type)) (.runtime (.named on.type))
        some (⟨.error fault, arguments⟩, w)
  | .load index type :: rest, arguments, frame, result, w =>
      match u.narrow (arguments.getD index .void) type with
      | .error fault => some (⟨.error fault, arguments⟩, w)
      | .ok v => execute u call on method rest arguments (frame.push v) result w
  | .loadAddress index type _ direction :: rest, arguments, frame, result, w =>
      match u.seed (arguments.getD index .void) type direction with
      | .error fault => some (⟨.error fault, arguments⟩, w)
      | .ok v =>
          let extended := (frame.declare v).pushAddress frame.cells.length
          execute u call on method rest arguments extended result w
  | .callVirtual :: rest, arguments, frame, _, w =>
      match call on method frame w with
      | none => none
      | some (.error fault, _, w) => some (⟨.error fault, arguments⟩, w)
      | some (.ok v, frame, w) => execute u call on method rest arguments frame v w
  | .storeBack index cell :: rest, arguments, frame, result, w =>
      match frame.cell cell with
      | .error fault => some (⟨.error fault, arguments⟩, w)
      | .ok v => execute u call on method rest (arguments.set index v) frame result w
  | .returnValue type :: _, arguments, _, result, w =>
      some (⟨u.narrow result type, arguments⟩, w)
  | .returnVoid :: _, arguments, _, _, w => some (⟨.ok .void, arguments⟩, w)

/-- Call the method of a thunk on an object.  By-reference results are written
back into the arguments. -/
def invoke (u : Universe) (call : VirtualCall) (thunk : Thunk) (on : ObjectRef)
    (arguments : List Value) (w : World) : Option (CallResult × World) :=
  if arguments.length = thunk.parameterCount then
    execute u call on thunk.method thunk.ops arguments (.empty thunk.method.generics) .void w
  else
    some (⟨.error (.argumentCount thunk.parameterCount arguments.length), arguments⟩, w)

end Thunk

/-- One intercepted call: the method, the target, one slot for each parameter
and the entry whose thunk reaches the target. -/
structure Interception where
  method : Method
  target : Option ObjectRef
  slots : List Value
  factory : FactoryId
  entry : EntryId

/-- Forward a frame to the target of a proxy. -/
def forward (call : VirtualCall) (this : ObjectRef) (slot : Slot) (factory : FactoryId)
    (frame : Frame) (w : World) :
    Option (Except Fault Value × Frame × World) :=
  match w.proxy? this with
  | none => some (.error (World.notProxy this), frame, w)
  | some proxy =>
  match proxy.target with
  | none => some (.error (.noForwardTarget slot.toMethod), frame, w)
  | some target =>
  let w := (w.onFactory factory fun f => ((), f.countPassThrough)).2
  call target slot.toMethod frame w

namespace Universe

/-- Call through a thunk that a factory operation looks up. -/
def invokeVia (u : Universe) (call : VirtualCall) (factory : FactoryId)
    (lookup : Factory → Except Fault SharedThunk × Factory) (on : ObjectRef)
    (arguments : List Value) (w : World) : Option (CallResult × World) :=
  match w.onFactory factory lookup with
  | (.error fault, w) => some (⟨.error fault, arguments⟩, w)
  | (.ok shared, w) => shared.thunk.invoke u call on arguments w

/-- Call a method through the thunk cache of a factory. -/
def invokeThrough (u : Universe) (call : VirtualCall) (factory : FactoryId) (method : Method) :
    ObjectRef → List Value → World → Option (CallResult × World) :=
  u.invokeVia call factory (·.getOrCompile u method)

def invokeEntry (u : Universe) (call : VirtualCall) (factory : FactoryId) (entry : EntryId) :
    ObjectRef → List Value → World → Option (CallResult × World) :=
  u.invokeVia call factory (·.entryThunk u entry)

/-- Serve a request about the world. -/
def serveWorld (u : Universe) (call : VirtualCall) :
    (r : WorldRequest) → World → Option (r.Reply × World)
  | .create type tag, w => some (w.create type tag)
  | .tag o, w => some (w.tag? o, w)
  | .cell o key, w => some (w.cell? o key, w)
  | .setCell o key v, w => some ((), w.setCell o key v)
  | .report entry, w => some ((), w.report entry)
  | .invoke factory method on arguments, w =>
      u.invokeThrough call factory method on arguments w
  | .callVirtual method on arguments, w =>
      match call on method (.ofValues arguments) w with
      | none => none
      | some (result, _, w) => some (result, w)
  | .narrow v type, w => some (u.narrow v type, w)
  | .describe subject, w => some (u.describe subject, w)
  | .resolve reference, w => some (w.scope.resolve u reference, w)

/-- Serve a request of a method body. -/
def serveBody (u : Universe) (call : VirtualCall) :
    (r : BodyRequest) → Frame × World → Option (r.Reply × Frame × World)
  | .world r, (frame, w) =>
      match u.serveWorld call r w with
      | none => none
      | some (reply, w) => some (reply, frame, w)
  | .argumentCount, (frame, w) => some (frame.argumentCount, frame, w)
  | .argument index, (frame, w) => some (frame.argument index, frame, w)
  | .isByRef index, (frame, w) => some (frame.isByRef index, frame, w)
  | .store index v, (frame, w) =>
      match frame.store index v with
      | .error fault => some (.error fault, frame, w)
      | .ok stored => some (.ok (), stored, w)
  | .generics, (frame, w) => some (frame.generics, frame, w)
  | .push v, (frame, w) => some ((), frame.push v, w)
  | .declare v, (frame, w) => some (frame.cells.length, frame.declare v, w)
  | .pushAddress cell, (frame, w) => some ((), frame.pushAddress cell, w)
  | .cell index, (frame, w) => some (frame.cell index, frame, w)

/-- Serve a request of an interceptor. -/
def serveHook (u : Universe) (call : VirtualCall) :
    (r : HookRequest) → Interception × World → Option (r.Reply × Interception × World)
  | .world r, (interception, w) =>
      match u.serveWorld call r w with
      | none => none
      | some (reply, w) => some (reply, interception, w)
  | .method, (interception, w) => some (interception.method, interception, w)
  | .target, (interception, w) => some (interception.target, interception, w)
  | .setTarget target, (interception, w) =>
      some ((), { interception with target := target }, w)
  | .slots, (interception, w) => some (interception.slots, interception, w)
  | .setSlot index v, (interception, w) =>
      let count := interception.slots.length
      if index < count then
        some (.ok (), { interception with slots := interception.slots.set index v }, w)
      else some (.error (.outOfRange index count), interception, w)
  | .proceed, (interception, w) =>
      match interception.target with
      | none => some (.error (.noProceedTarget interception.method), interception, w)
      | some target =>
          match u.invokeEntry call interception.factory interception.entry target
              interception.slots w with
          | none => none
          | some (outcome, w) =>
              some (outcome.result, { interception with slots := outcome.arguments }, w)
  | .proceedWith on arguments, (interception, w) =>
      match u.invokeEntry call interception.factory interception.entry on arguments w with
      | none => none
      | some (outcome, w) => some (outcome, interception, w)

/-- The method and the entry that an intercepted call proceeds with.  A generic
method is specialized to the type arguments of the call. -/
def selectProceed (u : Universe) (slot : Slot) (dispatch : Dispatch) (factory : FactoryId)
    (generics : List RuntimeType) (w : World) : Except Fault (Method × EntryId) × World :=
  match dispatch with
  | .direct entry => (.ok (slot.toMethod, entry), w)
  | .generic cache =>
      match w.onFactory factory (·.specialize u cache generics) with
      | (.error fault, w) => (.error fault, w)
      | (.ok specialization, w) => (.ok (specialization.method, specialization.entry), w)

/-- Copy the slots of by-reference parameters into the frame of the caller, one
after the other from position `index` on.  The first slot that does not fit
stops the copying; what was copied before stays. -/
def writeBack (u : Universe) (method : Method) (slots : List Value) :
    List Parameter → Nat → Frame → Except Fault Unit × Frame
  | [], _, frame => (.ok (), frame)
  | parameter :: rest, index, frame =>
      if parameter.direction.isByRef && frame.isByRef index then
        match u.narrow (slots.getD index .void) (parameterType method parameter) with
        | .error fault => (.error fault, frame)
        | .ok v =>
            match frame.store index v with
            | .error fault => (.error fault, frame)
            | .ok stored => u.writeBack method slots rest (index + 1) stored
      else u.writeBack method slots rest (index + 1) frame

/-- The result of an intercepted call: nothing for a method that returns
nothing, else a value that fits the return type. -/
def intercepted (u : Universe) (method : Method) (result : Value) : Except Fault Value :=
  if (u.returnType method).isVoid then .ok .void else u.narrow result (u.returnType method)

/-- The interceptor that handles a call on a proxy, and the context that it is
given: the method and entry to proceed with, the target of the proxy, and the
current values of the arguments.  The call is counted once the context is there. -/
def consult (u : Universe) (this : ObjectRef) (slot : Slot) (dispatch : Dispatch)
    (factory : FactoryId) (frame : Frame) (w : World) :
    Except Fault (Interceptor × Interception) × World :=
  match w.proxy? this with
  | none => (.error (World.notProxy this), w)
  | some proxy =>
  match proxy.interceptor with
  | none => (.error (.noInterceptor slot.toMethod), w)
  | some interceptor =>
  match u.selectProceed slot dispatch factory frame.generics w with
  | (.error fault, w) => (.error fault, w)
  | (.ok (method, entry), w) =>
  -- The arguments are read last: a specialization that was made stays when reading fails.
  match frame.readArguments (u.parameters method).length with
  | .error fault => (.error fault, w)
  | .ok slots =>
      (.ok (interceptor, ⟨method, proxy.target, slots, factory, entry⟩),
        (w.onFactory factory fun f => ((), f.countIntercepted)).2)

/-- Hand the slots and the result that an interceptor left to the caller. -/
def conclude (u : Universe) (method : Method) (slots : List Value) (result : Value)
    (frame : Frame) : Except Fault Value × Frame :=
  match u.writeBack method slots (u.parameters method) 0 frame with
  | (.error fault, frame) => (.error fault, frame)
  | (.ok (), frame) => (u.intercepted method result, frame)

/-- Run the interceptor of a proxy in place of a method. -/
def runIntercepted (u : Universe) (call : VirtualCall) (this : ObjectRef) (slot : Slot)
    (dispatch : Dispatch) (factory : FactoryId) (frame : Frame) (w : World) :
    Option (Except Fault Value × Frame × World) :=
  match u.consult this slot dispatch factory frame w with
  | (.error fault, w) => some (.error fault, frame, w)
  | (.ok (interceptor, context), w) =>
  match interceptor.run (u.serveHook call) (context, w) with
  | none => none
  -- Slots that an interceptor set before its fault are lost.
  | some (.error fault, _, w) => some (.error fault, frame, w)
  | some (.ok result, left, w) =>
      let (outcome, frame) := u.conclude context.method left.slots result frame
      some (outcome, frame, w)

/-- Read or write the target of a proxy.  Null clears it; a value that is
neither null nor an object is a mismatch. -/
def runAccessor (u : Universe) (this : ObjectRef) (which : Accessor) (frame : Frame) (w : World) :
    Except Fault Value × World :=
  match w.proxy? this with
  | none => (.error (World.notProxy this), w)
  | some proxy =>
  match which with
  | .get => (.ok (Value.ofOption (proxy.target.map .object)), w)
  | .set =>
  match frame.argument 0 with
  | .error fault => (.error fault, w)
  | .ok argument =>
  let change (target : Option ObjectRef) : Except Fault Value × World :=
    let (outcome, w) := w.setTarget u this target
    (outcome.map fun _ => .void, w)
  match argument with
  | .null => change none
  | .object target => change (some target)
  | other => (.error (.typeMismatch (.runtime (.named proxy.proxyType.primary)) other.label), w)

/-- Run a body on a frame. -/
def runBody (u : Universe) (call : VirtualCall) (this : ObjectRef) (body : MethodBody)
    (frame : Frame) (w : World) : Option (Except Fault Value × Frame × World) :=
  match body with
  | .native run => (run this).run (u.serveBody call) (frame, w)
  | .intercepted slot dispatch factory =>
      u.runIntercepted call this slot dispatch factory frame w
  | .passThrough slot factory => forward call this slot factory frame w
  | .accessor which =>
      let (result, w) := u.runAccessor this which frame w
      some (result, frame, w)

/-- Run the body that the type of the receiver provides for a method. -/
def dispatch (u : Universe) (call : VirtualCall) (on : ObjectRef) (method : Method)
    (frame : Frame) (w : World) : Option (Except Fault Value × Frame × World) :=
  match u.require on.type method with
  | .error fault => some (.error fault, frame, w)
  | .ok body => u.runBody call on body frame w

/-- A virtual call in which further calls nest less than `depth` deep. -/
def callVirtual (u : Universe) : (depth : Nat) → VirtualCall
  | 0 => fun _ _ _ _ => none
  | depth + 1 => u.dispatch (u.callVirtual depth)

end Universe

end Interpose
