/-
Module: Interpose.Session
Purpose: The types defined so far together with the world, and everything that can be done to them.
Main exports: Session and its operations
-/
import Interpose.Call
import Interpose.Proxy.FilterRule
import Interpose.Proxy.Synthesis

namespace Interpose

/-- The types, the world, and how many filters were made. -/
structure Session where
  types : Universe
  world : World
  filters : Nat

/-- How a proxy type is asked for. -/
inductive TypeRequest where
  /-- Reuse a cached type if the factory caches. -/
  | cached
  /-- Always make a new type. -/
  | fresh
  /-- Make the targets of the proxies on first use, which is not available. -/
  | lazyTargets
deriving DecidableEq, Repr, Inhabited

namespace Session

/-- The predefined types, and one factory `F` with the standard configuration. -/
def initial : Session :=
  let (factory, w) := World.empty.addFactory .standard
  ⟨.initial, { w with scope := w.scope.bindFactory "F" factory }, 0⟩

instance : Inhabited Session := ⟨initial⟩

def define (s : Session) (declaration : TypeDeclaration) : TypeId × Session :=
  (s.types.size, { s with types := s.types.define declaration })

def create (s : Session) (type : TypeId) (tag : String) : ObjectRef × Session :=
  let (o, w) := s.world.create type tag
  (o, { s with world := w })

def addFactory (s : Session) (config : Config) : FactoryId × Session :=
  let (id, w) := s.world.addFactory config
  (id, { s with world := w })

def scope (s : Session) : Scope := s.world.scope

/-- Change the names in use. -/
def withScope {α : Type} (s : Session) (change : Scope → α × Scope) : α × Session :=
  let (result, scope) := change s.world.scope
  (result, { s with world := { s.world with scope := scope } })

def resolve (s : Session) (reference : Reference) : Except Fault reference.Meaning :=
  s.scope.resolve s.types reference

/-- Make a filter from a rule.  It differs from every filter made before. -/
def addFilter (s : Session) (rule : FilterRule) : MethodFilter × Session :=
  let identity := s.filters + 1
  (.ofRule identity rule, { s with filters := identity })

def onFactory {α : Type} (s : Session) (id : FactoryId) (operation : Factory → α × Factory) :
    α × Session :=
  let (result, w) := s.world.onFactory id operation
  (result, { s with world := w })

/-- Ask a factory for a proxy type. -/
def requestProxyType (s : Session) (id : FactoryId) (request : TypeRequest)
    (descriptor : Descriptor) : Except Fault ProxyType × Session :=
  let answer (outcome : Except Fault ProxyType × Universe × Factory) :
      Except Fault ProxyType × Session :=
    (outcome.1, { s with types := outcome.2.1, world := s.world.putFactory id outcome.2.2 })
  match request with
  | .cached => answer (s.types.proxyTypeFor id descriptor (s.world.factory id))
  | .fresh => answer (s.types.synthesize id descriptor (s.world.factory id))
  | .lazyTargets => (.error (.lazyTarget descriptor.primary), s)

def instantiate (s : Session) (proxyType : ProxyType) : ObjectRef × Session :=
  let (o, w) := s.world.createProxy ⟨proxyType, none, none⟩
  (o, { s with world := w })

/-- Make a proxy with an interceptor and possibly a target.  The proxy type
stays when the target turns out to be of the wrong type. -/
def createProxy (s : Session) (id : FactoryId) (descriptor : Descriptor)
    (target : Option ObjectRef) (interceptor : Interceptor) : Except Fault ObjectRef × Session :=
  match s.requestProxyType id .cached descriptor with
  | (.error fault, s) => (.error fault, s)
  | (.ok proxyType, s) =>
      -- From here on the session has the proxy type.
      match ProxyState.setTarget s.types ⟨proxyType, none, none⟩ target with
      | .error fault => (.error fault, s)
      | .ok state =>
          let (o, w) := s.world.createProxy { state with interceptor := some interceptor }
          (.ok o, { s with world := w })

/-- Put another target into a proxy. -/
def setTarget (s : Session) (o : ObjectRef) (target : Option ObjectRef) :
    Except Fault Unit × Session :=
  let (outcome, w) := s.world.setTarget s.types o target
  (outcome, { s with world := w })

/-- Put another interceptor into a proxy. -/
def setInterceptor (s : Session) (o : ObjectRef) (interceptor : Option Interceptor) :
    Except Fault Unit × Session :=
  let (outcome, w) := s.world.setInterceptor o interceptor
  (outcome, { s with world := w })

/-- Run something that may call methods. -/
def running {α : Type} (s : Session) (run : World → Option (α × World)) : Option (α × Session) :=
  (run s.world).map fun (result, w) => (result, { s with world := w })

/-- Call a method through the thunk cache of a factory. -/
def invoke (s : Session) (depth : Nat) (id : FactoryId) (method : Method) (on : ObjectRef)
    (arguments : List Value) : Option (CallResult × Session) :=
  s.running (s.types.invokeThrough (s.types.callVirtual depth) id method on arguments)

def invokeEntry (s : Session) (depth : Nat) (id : FactoryId) (entry : EntryId) (on : ObjectRef)
    (arguments : List Value) : Option (CallResult × Session) :=
  s.running (s.types.invokeEntry (s.types.callVirtual depth) id entry on arguments)

def invokeThunk (s : Session) (depth : Nat) (thunk : Thunk) (on : ObjectRef)
    (arguments : List Value) : Option (CallResult × Session) :=
  s.running (thunk.invoke s.types (s.types.callVirtual depth) on arguments)

/-- Call a method on a frame, past every thunk. -/
def callVirtual (s : Session) (depth : Nat) (on : ObjectRef) (method : Method) (frame : Frame) :
    Option ((Except Fault Value × Frame) × Session) :=
  s.running fun w => (s.types.callVirtual depth on method frame w).map
    fun (result, frame, w) => ((result, frame), w)

/-- The journal, which starts anew. -/
def takeJournal (s : Session) : Array JournalEntry × Session :=
  (s.world.journal, { s with world := { s.world with journal := #[] } })

end Session

end Interpose
