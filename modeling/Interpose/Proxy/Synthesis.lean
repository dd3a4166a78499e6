/-
Module: Interpose.Proxy.Synthesis
Purpose: Making proxy types from descriptors.
Main exports: NameSupply, Draft, Universe.blueprint, Universe.construct, Universe.synthesize,
  Universe.proxyTypeFor
-/
import Interpose.Factory
import Interpose.Proxy.MethodSet

namespace Interpose

/-- The member names that were asked for so far, each with how often it was
asked for again. -/
abbrev NameSupply := Table String Nat

namespace NameSupply

/-- A name for a member.  The first request for a name gives the name itself;
later ones give it with a number, counting from 0. -/
def fresh (names : NameSupply) (name : String) : String × NameSupply :=
  match names.find? name with
  | none => (name, names.insert name 0)
  | some count => (name ++ toString count, names.insert name (count + 1))

end NameSupply

/-- A proxy type whose request was found to be in order: the declaration so
far and the methods that are to be implemented. -/
structure Blueprint where
  declaration : TypeDeclaration
  targets : List Target

/-- A proxy type under construction: how far it has come, the declaration once
there is one, the names that members asked for, and the factory that the calls
of its members go through. -/
structure Draft where
  stage : BuildStage
  declaration : Option TypeDeclaration
  names : NameSupply
  factory : Factory

namespace Draft

/-- What a step of the construction ends with.  The draft is there also when the
step fails, since the factory may have changed by then. -/
abbrev Outcome := Except Fault Unit × Draft

/-- Take a further step unless there was a fault. -/
def Outcome.andThen (outcome : Outcome) (step : Draft → Outcome) : Outcome :=
  match outcome with
  | (.error fault, draft) => (.error fault, draft)
  | (.ok (), draft) => step draft

def start (f : Factory) : Draft := ⟨.uninitialized, none, .empty, f⟩

/-- Leave a stage, which must be the one that the draft is at, for another. -/
def advance (primary : TypeId) (expected next : BuildStage) : Draft → Outcome
  | ⟨stage, declaration, names, factory⟩ =>
      if stage = expected then (.ok (), ⟨next, declaration, names, factory⟩)
      else (.error (.outOfStage primary stage expected), ⟨stage, declaration, names, factory⟩)

/-- Change the declaration, which must be there. -/
def declare (primary : TypeId) (change : TypeDeclaration → TypeDeclaration) (draft : Draft) :
    Outcome :=
  match draft.declaration with
  | none => (.error (.noDeclaration primary), draft)
  | some declaration => (.ok (), { draft with declaration := some (change declaration) })

@[simp] theorem Outcome.andThen_ok (draft : Draft) (step : Draft → Outcome) :
    Outcome.andThen (.ok (), draft) step = step draft := rfl

theorem advance_of_stage {primary : TypeId} {expected next : BuildStage} {draft : Draft}
    (reached : draft.stage = expected) :
    draft.advance primary expected next = (.ok (), { draft with stage := next }) := by
  unfold advance
  exact if_pos reached

theorem declare_eq_ok {primary : TypeId} {change : TypeDeclaration → TypeDeclaration}
    {draft after : Draft} :
    draft.declare primary change = (.ok (), after) ↔
      ∃ declaration, draft.declaration = some declaration ∧
        after = { draft with declaration := some (change declaration) } := by
  unfold declare
  cases draft.declaration with
  | none => simp
  | some declaration => simp [eq_comm]

/-- A draft that has a declaration can be worked on. -/
theorem declare_of_some {primary : TypeId} {change : TypeDeclaration → TypeDeclaration}
    {draft : Draft} {declaration : TypeDeclaration}
    (held : draft.declaration = some declaration) :
    draft.declare primary change =
      (.ok (), { draft with declaration := some (change declaration) }) := by
  unfold declare
  rw [held]

end Draft

namespace Universe

/-- The type that proxies of a primary type extend. -/
def proxyBase (u : Universe) (primary : TypeId) : TypeId :=
  if u.isInterface primary then objectType else primary

/-- The declaration of a proxy type before any method: its name, the types it
extends and implements, and the fields for target and interceptor. -/
def proxyFrame (u : Universe) (descriptor : Descriptor) : TypeDeclaration :=
  let primary := descriptor.primary
  let bare := TypeDeclaration.proxy (u.name primary ++ "Proxy") (u.proxyBase primary)
  let bare := if u.isInterface primary then bare.implementing primary else bare
  let listed := descriptor.interfaces.foldl TypeDeclaration.implementing bare
  (listed.addField ⟨"target", .named primary, false⟩).addField ⟨"interceptor", .object, false⟩

/-- Check a request.  The primary type must not be a proxy type, supplementary
types must be interfaces, and every method to be implemented must have a
supported signature. -/
def blueprint (u : Universe) (descriptor : Descriptor) : Except Fault Blueprint :=
  if u.kind descriptor.primary = .proxyType then .error (.alreadyProxy descriptor.primary)
  else match descriptor.interfaces.find? (!u.isInterface ·) with
  | some other => .error (.notInterface other)
  | none =>
      let targets := u.methodSet descriptor
      match targets.findSome? fun target =>
          match u.checkSignature target.slot.toMethod with
          | .ok () => none
          | .error fault => some fault with
      | some fault => .error fault
      | none => .ok ⟨u.proxyFrame descriptor, targets⟩

/-- Implement one accessor of the proxy capability interface, found by its name. -/
def implementAccessor (u : Universe) (primary : TypeId) (name : String) (which : Accessor)
    (draft : Draft) : Draft.Outcome :=
  match u.findMethod proxyCapability name with
  | none => (.error (.memberNotFound proxyCapability name), draft)
  | some slot => draft.declare primary (·.implement slot (.accessor which))

/-- Implement the proxy capability interface. -/
def implementCapability (u : Universe) (primary : TypeId) (draft : Draft) : Draft.Outcome :=
  draft.declare primary (·.implementing proxyCapability)
    |>.andThen (u.implementAccessor primary "get_Target" .get)
    |>.andThen (u.implementAccessor primary "set_Target" .set)
    |>.andThen (Draft.advance primary .contextBuilt .contractImplemented)

/-- The name that a member asks for: members of interfaces other than the
primary type carry the name of their interface. -/
def memberName (u : Universe) (primary : TypeId) (slot : Slot) : String :=
  let name := (u.signature slot).name
  if u.isInterface slot.parent && slot.parent != primary then u.name slot.parent ++ "." ++ name
  else name

/-- Where an intercepted method proceeds to, and the suffix of the field that
stands for it.  In an eager factory the thunk is compiled at once. -/
def proceedSlot (u : Universe) (slot : Slot) (f : Factory) :
    Except Fault (String × Dispatch) × Factory :=
  if u.isGeneric slot then
    let (cache, f) := f.addSpecializationCache slot
    (.ok ("SpecializationCache", .generic cache), f)
  else
    let (entry, f) := f.thunkEntry slot.toMethod
    if f.config.eagerThunks then
      match f.entryThunk u entry with
      | (.error fault, f) => (.error fault, f)
      | (.ok _, f) => (.ok ("ThunkEntry", .direct entry), f)
    else (.ok ("ThunkEntry", .direct entry), f)

/-- Declare the member for a target, with its body, as the body of the method
itself and of every declaration that it overrides. -/
def addMember (u : Universe) (target : Target) (name : String) (body : MethodBody)
    (declaration : TypeDeclaration) : TypeDeclaration :=
  let signature := { u.signature target.slot with name := name }
  (target.slot :: target.overridden).foldl (fun extended slot => extended.implement slot body)
    (declaration.addMethod signature (some body))

/-- Implement one target.  A method that the filter accepts is intercepted and
has a static field; any other is passed through. -/
def implementTarget (u : Universe) (factoryId : FactoryId) (descriptor : Descriptor)
    (target : Target) (draft : Draft) : Draft.Outcome :=
  let (name, names) := draft.names.fresh (u.memberName descriptor.primary target.slot)
  if descriptor.filter.accepts u target.slot.toMethod then
    match u.proceedSlot target.slot draft.factory with
    | (.error fault, f) => (.error fault, { draft with names := names, factory := f })
    | (.ok (suffix, dispatch), f) =>
        let body := MethodBody.intercepted target.slot dispatch factoryId
        { draft with names := names, factory := f }.declare descriptor.primary fun declaration =>
          u.addMember target name body (declaration.addField ⟨name ++ suffix, .object, true⟩)
  else
    { draft with names := names }.declare descriptor.primary
      (u.addMember target name (.passThrough target.slot factoryId))

/-- Implement targets in order, up to the first fault. -/
def implementTargets (u : Universe) (factoryId : FactoryId) (descriptor : Descriptor) :
    List Target → Draft → Draft.Outcome
  | [], draft => (.ok (), draft)
  | target :: rest, draft =>
      match u.implementTarget factoryId descriptor target draft with
      | (.error fault, draft) => (.error fault, draft)
      | (.ok (), draft) => u.implementTargets factoryId descriptor rest draft

def implementMethods (u : Universe) (factoryId : FactoryId) (descriptor : Descriptor)
    (targets : List Target) (draft : Draft) : Draft.Outcome :=
  (u.implementTargets factoryId descriptor targets draft).andThen
    (Draft.advance descriptor.primary .contractImplemented .methodsImplemented)

/-- The stages of a construction: look at the request and open the declaration,
implement the proxy capability interface, implement the methods, and finish. -/
def construct (u : Universe) (factoryId : FactoryId) (descriptor : Descriptor) (draft : Draft) :
    Draft.Outcome :=
  match u.blueprint descriptor with
  | .error fault => (.error fault, draft)
  | .ok blueprint =>
      { draft with declaration := some blueprint.declaration }.advance descriptor.primary
          .uninitialized .contextBuilt
        |>.andThen (u.implementCapability descriptor.primary)
        |>.andThen (u.implementMethods factoryId descriptor blueprint.targets)
        |>.andThen (Draft.advance descriptor.primary .methodsImplemented .finalized)

/-- Synthesize a new proxy type, whatever the type cache holds.  It is defined
and counted when its construction is complete. -/
def synthesize (u : Universe) (factoryId : FactoryId) (descriptor : Descriptor) (f : Factory) :
    Except Fault ProxyType × Universe × Factory :=
  match u.construct factoryId descriptor (.start f) with
  -- The factory keeps what was compiled for the draft; the types stay as they were.
  | (.error fault, draft) => (.error fault, u, draft.factory)
  | (.ok (), draft) =>
      match draft.declaration with
      | none => (.error (.noDeclaration descriptor.primary), u, draft.factory)
      | some declaration =>
          (.ok ⟨u.size, descriptor⟩, u.define declaration, draft.factory.countProxyTypeBuilt)

/-- The cached proxy type of an equal descriptor, or a new one that is entered
into the cache if it can be made. -/
def cachedProxyType (u : Universe) (factoryId : FactoryId) (descriptor : Descriptor)
    (f : Factory) : Except Fault ProxyType × Universe × Factory :=
  match f.proxyTypes.find? descriptor.key with
  | some proxyType =>
      (.ok proxyType, u, { f with counters.proxyTypeHits := f.counters.proxyTypeHits + 1 })
  | none =>
      let missed := { f with counters.proxyTypeMisses := f.counters.proxyTypeMisses + 1 }
      match u.synthesize factoryId descriptor missed with
      | (.error fault, u, f) => (.error fault, u, f)
      | (.ok proxyType, u, f) =>
          (.ok proxyType, u,
            { f with proxyTypes := f.proxyTypes.insert descriptor.key proxyType })

/-- The proxy type for a descriptor: an earlier one for an equal descriptor if
the factory caches proxy types, else a new one. -/
def proxyTypeFor (u : Universe) (factoryId : FactoryId) (descriptor : Descriptor) (f : Factory) :
    Except Fault ProxyType × Universe × Factory :=
  if f.config.cacheProxyTypes then u.cachedProxyType factoryId descriptor f
  else u.synthesize factoryId descriptor f

end Universe

end Interpose
