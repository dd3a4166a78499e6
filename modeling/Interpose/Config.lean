/-
Module: Interpose.Config
Purpose: Behaviour switches of a factory and where their values come from.
Main exports: Config, Config.ofSettings, Config.ofJson?
-/
import Interpose.Text.Blank
import Interpose.Text.Json

namespace Interpose

/-- Behaviour switches of a factory. -/
structure Config where
  /-- Reuse a synthesized proxy type for equal descriptors. -/
  cacheProxyTypes : Bool := true
  /-- Compile proceed thunks while a type is synthesized, not on first call. -/
  eagerThunks : Bool := false
deriving DecidableEq, Repr, Inhabited

namespace Config

def standard : Config := {}

/-- A switch as an environment setting writes it: blanks around it and the case
of letters do not count.  No character beyond ASCII has a lower case form that
occurs in the accepted words, so lowering ASCII letters is enough. -/
private def flag? (text : String) : Option Bool :=
  match String.ofList ((Blank.trim text.toList).map Char.toLower) with
  | "1" | "true" => some true
  | "0" | "false" => some false
  | _ => none

/-- The switches that two environment settings give.  An absent setting or one
that is no switch leaves the standard value. -/
def ofSettings (cacheTypes eagerThunks : Option String) : Config where
  cacheProxyTypes := (cacheTypes.bind flag?).getD standard.cacheProxyTypes
  eagerThunks := (eagerThunks.bind flag?).getD standard.eagerThunks

/-- The switches read so far, and the two that the members of an object name.
A switch may be named once and must be a truth value; other names are ignored. -/
private def ofMembers : List (Option String × Json) → Option Bool → Option Bool → Option Config
  | [], cacheTypes, eager =>
      some ⟨cacheTypes.getD standard.cacheProxyTypes, eager.getD standard.eagerThunks⟩
  | (none, _) :: _, _, _ => none
  | (some "cache_proxy_types", .bool b) :: rest, none, eager => ofMembers rest (some b) eager
  | (some "eager_thunks", .bool b) :: rest, cacheTypes, none => ofMembers rest cacheTypes (some b)
  | (some name, _) :: rest, cacheTypes, eager =>
      if name = "cache_proxy_types" ∨ name = "eager_thunks" then none
      else ofMembers rest cacheTypes eager

/-- The switches that a JSON text gives: an object by name or an array by
position.  What is missing keeps its standard value. -/
def ofJson? (text : String) : Option Config :=
  match Json.parse? text with
  | some (.object members) => ofMembers members none none
  | some (.array []) => some standard
  | some (.array [.bool cacheTypes]) => some { standard with cacheProxyTypes := cacheTypes }
  | some (.array [.bool cacheTypes, .bool eager]) => some ⟨cacheTypes, eager⟩
  | _ => none

end Config

end Interpose
