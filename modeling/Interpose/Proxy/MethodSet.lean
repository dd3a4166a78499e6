/-
Module: Interpose.Proxy.MethodSet
Purpose: The methods that a proxy type implements, in order, and what they override.
Main exports: Target, Universe.methodSet
-/
import Interpose.Proxy.Descriptor

namespace Interpose

/-- A method that a proxy implements, and the declarations further up the chain
of its primary class that it overrides. -/
structure Target where
  slot : Slot
  overridden : List Slot
deriving DecidableEq, Repr, Inhabited

namespace Universe

/-- Proxies implement virtual methods that have no special name. -/
def isProxyable (u : Universe) (slot : Slot) : Bool :=
  (u.signature slot).isVirtual && !(u.signature slot).isSpecialName

/-- Add a method unless it is a target already. -/
def addTarget (u : Universe) (targets : List Target) (slot : Slot) : List Target :=
  if u.isProxyable slot && !targets.any (·.slot == slot) then targets ++ [⟨slot, []⟩]
  else targets

def addTargets (u : Universe) (targets : List Target) (slots : List Slot) : List Target :=
  slots.foldl u.addTarget targets

/-- Add a declaration of a class chain, which is walked from the most derived
class up.  The first target of its shape overrides it; without one it becomes a
target itself. -/
def addDeclaration (u : Universe) (targets : List Target) (slot : Slot) : List Target :=
  match targets with
  | [] => [⟨slot, []⟩]
  | target :: rest =>
      if (u.signature target.slot).agrees (u.signature slot) then
        { target with overridden := target.overridden ++ [slot] } :: rest
      else target :: u.addDeclaration rest slot

/-- Targets of the primary type itself: the members of an interface, or those
of a class and of the classes it extends. -/
def primaryTargets (u : Universe) (primary : TypeId) : List Target :=
  if u.isInterface primary then u.addTargets [] (u.slots primary)
  else
    (((u.chain primary).flatMap u.slots).filter u.isProxyable).foldl u.addDeclaration []

/-- An interface followed by the interfaces it implements. -/
def withInterfaces (u : Universe) (id : TypeId) : List TypeId := id :: u.allInterfaces id

/-- The methods of a proxy in order: those of the primary type, of the
interfaces it implements, of the supplementary interfaces with theirs, and the
members of the universal base type that nothing overrides. -/
def methodSet (u : Universe) (descriptor : Descriptor) : List Target :=
  let interfaces := u.allInterfaces descriptor.primary ++
    descriptor.interfaces.flatMap u.withInterfaces
  let targets := u.addTargets (u.primaryTargets descriptor.primary) (interfaces.flatMap u.slots)
  let absorbed := targets.flatMap (·.overridden)
  u.addTargets targets ((u.slots objectType).filter fun slot => !absorbed.contains slot)

end Universe

end Interpose
