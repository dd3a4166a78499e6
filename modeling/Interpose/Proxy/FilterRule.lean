/-
Module: Interpose.Proxy.FilterRule
Purpose: Filters written down as rules.
Main exports: FilterRule, FilterRule.accepts
-/
import Interpose.Proxy.Descriptor
import Interpose.Wording

namespace Interpose

/-- What a filter looks at. -/
inductive FilterRule where
  | constant (accepted : Bool)
  /-- The method has one of the names. -/
  | named (names : List String)
  /-- The declaring type has the name. -/
  | declaredBy (name : String)
  /-- The return type has the name. -/
  | returns (name : String)
  /-- The method takes type arguments, or takes none. -/
  | generic (wanted : Bool)
  /-- The method has at least so many parameters. -/
  | minParameters (count : Nat)
deriving DecidableEq, Repr, Inhabited

/-- Whether a rule accepts a method. -/
def FilterRule.accepts (u : Universe) (method : Method) : FilterRule → Bool
  | constant accepted => accepted
  | named names => names.contains (u.signature method.slot).name
  | declaredBy name => u.name method.parent == name
  | returns name => u.typeText (u.returnType method) == name
  | generic wanted => u.isGeneric method.slot == wanted
  | minParameters count => decide (count ≤ (u.parameters method).length)

/-- The filter of a rule under a given identity. -/
def MethodFilter.ofRule (identity : Nat) (rule : FilterRule) : MethodFilter :=
  ⟨identity, fun u method => rule.accepts u method⟩

end Interpose
