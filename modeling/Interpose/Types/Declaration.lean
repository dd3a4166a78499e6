/-
Module: Interpose.Types.Declaration
Purpose: Types as they are declared, member by member, and the bodies of their methods.
Main exports: MethodBody, TypeKind, TypeDeclaration, and the calls that build one up
-/
import Interpose.Program

namespace Interpose

abbrev EntryId := Nat

abbrev CacheId := Nat

/-- Where an intercepted call proceeds to. -/
inductive Dispatch where
  /-- The thunk of one method. -/
  | direct (entry : EntryId)
  /-- The specialization that the type arguments of the call pick. -/
  | generic (cache : CacheId)
deriving DecidableEq, Repr, Inhabited

/-- The two members of the proxy capability interface. -/
inductive Accessor where
  | get
  | set
deriving DecidableEq, Repr, Inhabited

/-- What runs when a method is called. -/
inductive MethodBody where
  /-- A body of the method's own. -/
  | native (run : MethodRun)
  /-- Routes the call through the interceptor of the proxy. -/
  | intercepted (slot : Slot) (dispatch : Dispatch) (factory : FactoryId)
  /-- Forwards the frame to the target of the proxy. -/
  | passThrough (slot : Slot) (factory : FactoryId)
  /-- Reads or writes the target of the proxy. -/
  | accessor (which : Accessor)
deriving Inhabited

/-- The three kinds of types.  Only the synthesizer makes proxy types. -/
inductive TypeKind where
  | interfaceType
  | classType
  | proxyType
deriving DecidableEq, Repr, Inhabited

/-- A method in its declaring type, with its own body if it has one. -/
structure MethodDeclaration where
  signature : Signature
  body : Option MethodBody
deriving Inhabited

/-- A type as it is declared.  `implementations` lists the bodies that the type
gives to members of other types, in the order in which they were given. -/
structure TypeDeclaration where
  name : String
  kind : TypeKind
  base : Option TypeId
  interfaces : List TypeId
  methods : List MethodDeclaration
  fields : List Field
  implementations : List (Slot × MethodBody)
deriving Inhabited

namespace TypeDeclaration

def bare (name : String) (kind : TypeKind) (base : Option TypeId) : TypeDeclaration :=
  ⟨name, kind, base, [], [], [], []⟩

def interface (name : String) : TypeDeclaration := bare name .interfaceType none

/-- A class without members, which extends the universal base type. -/
def ofClass (name : String) : TypeDeclaration := bare name .classType (some objectType)

def proxy (name : String) (base : TypeId) : TypeDeclaration := bare name .proxyType (some base)

/-- Extend another type instead. -/
def extending (declaration : TypeDeclaration) (base : TypeId) : TypeDeclaration :=
  { declaration with base := some base }

/-- Implement one more type; a type that is listed already is not listed again. -/
def implementing (declaration : TypeDeclaration) (interface : TypeId) : TypeDeclaration :=
  if declaration.interfaces.contains interface then declaration
  else { declaration with interfaces := declaration.interfaces ++ [interface] }

/-- Declare one more method, with or without a body. -/
def addMethod (declaration : TypeDeclaration) (signature : Signature)
    (body : Option MethodBody) : TypeDeclaration :=
  { declaration with methods := declaration.methods ++ [⟨signature, body⟩] }

/-- Give a body to a member of this or another type. -/
def implement (declaration : TypeDeclaration) (slot : Slot) (body : MethodBody) :
    TypeDeclaration :=
  { declaration with implementations := declaration.implementations ++ [(slot, body)] }

def addField (declaration : TypeDeclaration) (field : Field) : TypeDeclaration :=
  { declaration with fields := declaration.fields ++ [field] }

/-- The types that a declaration mentions as base or as interfaces. -/
def parents (declaration : TypeDeclaration) : List TypeId :=
  declaration.base.toList ++ declaration.interfaces

/-- The bodies that a declaration holds, those of its own methods first. -/
def bodies (declaration : TypeDeclaration) : List MethodBody :=
  declaration.methods.filterMap (·.body) ++ declaration.implementations.map (·.2)

/-- The declaration as far as it mentions the first `limit` types only: other
parents, and bodies given to members of other types, are dropped. -/
def within (declaration : TypeDeclaration) (limit : Nat) : TypeDeclaration :=
  { declaration with
    base := declaration.base.filter fun parent => decide (parent < limit)
    interfaces := declaration.interfaces.filter fun parent => decide (parent < limit)
    implementations := declaration.implementations.filter fun implementation =>
      decide (implementation.1.parent < limit) }

/-- Every parent that is left is one of the first `limit` types. -/
theorem lt_of_mem_parents_within {declaration : TypeDeclaration} {limit parent : Nat}
    (member : parent ∈ (declaration.within limit).parents) : parent < limit := by
  rcases List.mem_append.mp member with base | interface
  · exact of_decide_eq_true (Option.filter_eq_some_iff.mp (Option.mem_toList.mp base)).2
  · exact of_decide_eq_true (List.mem_filter.mp interface).2

/-- Every body that is left is given to a member of one of the first `limit` types. -/
theorem lt_of_mem_implementations_within {declaration : TypeDeclaration} {limit : Nat}
    {implementation : Slot × MethodBody}
    (member : implementation ∈ (declaration.within limit).implementations) :
    implementation.1.parent < limit :=
  of_decide_eq_true (List.mem_filter.mp member).2

/-- Nothing is dropped when only the first `limit` types are mentioned. -/
theorem within_eq_self {declaration : TypeDeclaration} {limit : Nat}
    (parentsKnown : ∀ parent ∈ declaration.parents, parent < limit)
    (membersKnown : ∀ implementation ∈ declaration.implementations,
      implementation.1.parent < limit) :
    declaration.within limit = declaration := by
  have baseKept : declaration.base.filter (fun parent => decide (parent < limit)) =
      declaration.base := by
    cases base : declaration.base with
    | none => rfl
    | some parent =>
        have below : parent < limit := parentsKnown parent (by simp [parents, base])
        simp [Option.filter, below]
  have interfacesKept :
      declaration.interfaces.filter (fun parent => decide (parent < limit)) =
        declaration.interfaces :=
    List.filter_eq_self.mpr fun parent member =>
      decide_eq_true (parentsKnown parent (by simp [parents, member]))
  have implementationsKept :
      declaration.implementations.filter
          (fun implementation => decide (implementation.1.parent < limit)) =
        declaration.implementations :=
    List.filter_eq_self.mpr fun implementation member =>
      decide_eq_true (membersKnown implementation member)
  simp [within, baseKept, interfacesKept, implementationsKept]

end TypeDeclaration

/-- A number that tells objects apart: the identity scrambled by an odd
factor, so that different objects of one heap have different hashes. -/
def ObjectRef.identityHash (o : ObjectRef) : Int32 :=
  (UInt32.ofNat (o.id + 1) * 0x9E3779B1).toInt32

namespace Universal

/-- Whether the argument is the receiver itself. -/
def equalsBody : MethodBody :=
  .native fun this => .ask (.argument 0) fun (reply : Except Fault Value) =>
    .done (reply.map fun argument => .boolean (argument.object? == some this))

/-- The identity hash of the receiver. -/
def hashBody : MethodBody :=
  .native fun this => .done (.ok (.int32 this.identityHash))

/-- The name of the receiver's type. -/
def textBody : MethodBody :=
  .native fun this => .ask (.world (.describe (.typeOf (.object this)))) fun (name : String) =>
    .done (.ok (.string name))

/-- The universal base type with its three members. -/
def objectDeclaration : TypeDeclaration where
  name := "System.Object"
  kind := .classType
  base := none
  interfaces := []
  methods :=
    [ ⟨{ name := "Equals", parameters := [⟨"obj", .object, .input⟩], returns := .boolean },
        some equalsBody⟩,
      ⟨{ name := "GetHashCode", returns := .int32 }, some hashBody⟩,
      ⟨{ name := "ToString", returns := .string }, some textBody⟩ ]
  fields := []
  implementations := []

/-- The proxy capability interface with its two accessors. -/
def capabilityDeclaration : TypeDeclaration where
  name := "IProxy"
  kind := .interfaceType
  base := none
  interfaces := []
  methods :=
    [ ⟨{ name := "get_Target", returns := .object, isSpecialName := true }, none⟩,
      ⟨{ name := "set_Target", parameters := [⟨"value", .object, .input⟩],
         isSpecialName := true }, none⟩ ]
  fields := []
  implementations := []

def accessorSlot : Accessor → Slot
  | .get => ⟨proxyCapability, 0⟩
  | .set => ⟨proxyCapability, 1⟩

end Universal

end Interpose
