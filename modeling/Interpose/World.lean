/-
Module: Interpose.World
Purpose: Everything that changes while programs run: objects, factories, names and the journal.
Main exports: ProxyState, ObjectState, World and its operations
-/
import Interpose.Factory
import Interpose.Scope

namespace Interpose

/-- What a proxy object holds. -/
structure ProxyState where
  proxyType : ProxyType
  target : Option ObjectRef
  interceptor : Option Interceptor
deriving Inhabited

/-- What is stored of an object.  Its type is part of every reference to it. -/
inductive ObjectState where
  /-- A tag and named cells. -/
  | record (tag : String) (cells : Table String Value)
  | proxy (state : ProxyState)
deriving Inhabited

/-- Put another target into a proxy, or none.  A target must be of the type
that the proxy stands in for. -/
def ProxyState.setTarget (u : Universe) (state : ProxyState) (target : Option ObjectRef) :
    Except Fault ProxyState :=
  match target with
  | none => .ok { state with target := none }
  | some o =>
      if u.isAssignable o.type state.proxyType.primary then .ok { state with target := some o }
      else .error (.typeMismatch (.runtime (.named state.proxyType.primary))
        (.runtime (.named o.type)))

/-- Objects by identity, factories by identity, the names in use, and what was
reported so far. -/
structure World where
  objects : Array ObjectState
  factories : Array Factory
  scope : Scope
  journal : Array JournalEntry
deriving Inhabited

namespace World

def empty : World := ⟨#[], #[], .initial, #[]⟩

/-- Place a new object on the heap. -/
def allocate (type : TypeId) (state : ObjectState) (w : World) : ObjectRef × World :=
  (⟨w.objects.size, type⟩, { w with objects := w.objects.push state })

def create (type : TypeId) (tag : String) (w : World) : ObjectRef × World :=
  w.allocate type (.record tag .empty)

def createProxy (state : ProxyState) (w : World) : ObjectRef × World :=
  w.allocate state.proxyType.type (.proxy state)

def state? (w : World) (o : ObjectRef) : Option ObjectState := w.objects[o.id]?

/-- What a proxy holds; nothing for any other object. -/
def proxy? (w : World) (o : ObjectRef) : Option ProxyState :=
  match w.state? o with
  | some (.proxy state) => some state
  | _ => none

def tag? (w : World) (o : ObjectRef) : Option String :=
  match w.state? o with
  | some (.record tag _) => some tag
  | _ => none

def cell? (w : World) (o : ObjectRef) (key : String) : Option Value :=
  match w.state? o with
  | some (.record _ cells) => cells.find? key
  | _ => none

/-- Write a named cell.  Objects without cells are left alone. -/
def setCell (w : World) (o : ObjectRef) (key : String) (v : Value) : World :=
  { w with
    objects := w.objects.modify o.id fun
      | .record tag cells => .record tag (cells.insert key v)
      | other => other }

/-- The fault of using any other object as a proxy. -/
def notProxy (o : ObjectRef) : Fault :=
  .typeMismatch .proxyInstance (.runtime (.named o.type))

def putProxy (w : World) (o : ObjectRef) (state : ProxyState) : World :=
  { w with objects := w.objects.modify o.id fun _ => .proxy state }

/-- Put another target into a proxy, or none; on a fault nothing changes. -/
def setTarget (u : Universe) (w : World) (o : ObjectRef) (target : Option ObjectRef) :
    Except Fault Unit × World :=
  match w.proxy? o with
  | none => (.error (notProxy o), w)
  | some state =>
      match state.setTarget u target with
      | .error fault => (.error fault, w)
      | .ok changed => (.ok (), w.putProxy o changed)

/-- Put another interceptor into a proxy, or none. -/
def setInterceptor (w : World) (o : ObjectRef) (interceptor : Option Interceptor) :
    Except Fault Unit × World :=
  match w.proxy? o with
  | none => (.error (notProxy o), w)
  | some state => (.ok (), w.putProxy o { state with interceptor := interceptor })

def factory (w : World) (id : FactoryId) : Factory := w.factories[id]?.getD default

def putFactory (w : World) (id : FactoryId) (f : Factory) : World :=
  { w with factories := w.factories.modify id fun _ => f }

/-- Run an operation on a factory and store what it leaves. -/
def onFactory {α : Type} (w : World) (id : FactoryId) (operation : Factory → α × Factory) :
    α × World :=
  let (result, after) := operation (w.factory id)
  (result, w.putFactory id after)

def addFactory (config : Config) (w : World) : FactoryId × World :=
  (w.factories.size, { w with factories := w.factories.push (.ofConfig config) })

/-- Add an entry to the journal.  Objects that it shows have names from then on. -/
def report (w : World) (entry : JournalEntry) : World :=
  { w with
    scope := entry.values.foldl Scope.afterShowing w.scope
    journal := w.journal.push entry }

end World

end Interpose
