/-
Module: Interpose.Proxy.Descriptor
Purpose: What a proxy type is built from.
Main exports: MethodFilter, Descriptor, ProxyType
-/
import Interpose.Types.Universe

namespace Interpose

/-- Decides which methods of a proxy are intercepted; the others forward to
the target.  Two filters are the same when they have one identity, whatever
they accept. -/
structure MethodFilter where
  identity : Nat
  accepts : Universe → Method → Bool

namespace MethodFilter

/-- Intercepts everything but the members of the universal base type. -/
def standard : MethodFilter :=
  ⟨0, fun _ method => method.parent != objectType⟩

instance : Inhabited MethodFilter := ⟨standard⟩

private def isStandard (filter : MethodFilter) : Bool := filter.identity == 0

def same (one other : MethodFilter) : Bool := one.identity == other.identity

/-- How a filter is shown: only the standard one can be told. -/
def text (filter : MethodFilter) : String :=
  if filter.isStandard then "MethodFilter(default)" else "MethodFilter(0x*)"

end MethodFilter

/-- The request for a proxy type: the type to stand in for, supplementary
interfaces in order, and the filter. -/
structure Descriptor where
  primary : TypeId
  interfaces : List TypeId
  filter : MethodFilter
deriving Inhabited

/-- What two equal descriptors have in common. -/
structure DescriptorKey where
  primary : TypeId
  interfaces : List TypeId
  filter : Nat
deriving DecidableEq, Repr, Inhabited

/-- A descriptor up to equality: filters count by identity. -/
def Descriptor.key (descriptor : Descriptor) : DescriptorKey :=
  ⟨descriptor.primary, descriptor.interfaces, descriptor.filter.identity⟩

/-- A synthesized proxy type. -/
structure ProxyType where
  type : TypeId
  descriptor : Descriptor
deriving Inhabited

namespace ProxyType

def primary (proxyType : ProxyType) : TypeId := proxyType.descriptor.primary

end ProxyType

end Interpose
