/-
Module: Interpose.Types.Universe
Purpose: All types that are defined, and the questions that their declarations answer.
Main exports: Universe, Universe.define, Universe.chain, Universe.allInterfaces,
  Universe.isAssignable, Universe.signature, Universe.makeGeneric
Main statements: definitions stay as they were; a type mentions earlier types only.
-/
import Interpose.Types.Declaration

namespace Interpose

/-- The types defined so far, in order of definition.  A declaration mentions
earlier types only, as parents and as declaring types of the members that it
gives bodies to.  The universal base type and the proxy capability interface
come first. -/
structure Universe where
  declarations : Array TypeDeclaration
  parent_lt : ∀ (id : TypeId) (declaration : TypeDeclaration),
    declarations[id]? = some declaration → ∀ parent ∈ declaration.parents, parent < id
  implementation_lt : ∀ (id : TypeId) (declaration : TypeDeclaration),
    declarations[id]? = some declaration →
      ∀ implementation ∈ declaration.implementations, implementation.1.parent < id
  objectType_declared : declarations[objectType]? = some Universal.objectDeclaration
  proxyCapability_declared : declarations[proxyCapability]? = some Universal.capabilityDeclaration

namespace Universe

/-- The universe that holds the two predefined types only. -/
def initial : Universe where
  declarations := #[Universal.objectDeclaration, Universal.capabilityDeclaration]
  parent_lt := by
    intro id declaration found parent member
    match id with
    | 0 =>
        obtain rfl : Universal.objectDeclaration = declaration := by simpa using found
        simp [TypeDeclaration.parents, Universal.objectDeclaration] at member
    | 1 =>
        obtain rfl : Universal.capabilityDeclaration = declaration := by simpa using found
        simp [TypeDeclaration.parents, Universal.capabilityDeclaration] at member
    | later + 2 => simp at found
  implementation_lt := by
    intro id declaration found implementation member
    match id with
    | 0 =>
        obtain rfl : Universal.objectDeclaration = declaration := by simpa using found
        simp [Universal.objectDeclaration] at member
    | 1 =>
        obtain rfl : Universal.capabilityDeclaration = declaration := by simpa using found
        simp [Universal.capabilityDeclaration] at member
    | later + 2 => simp at found
  objectType_declared := rfl
  proxyCapability_declared := rfl

instance : Inhabited Universe := ⟨initial⟩

def size (u : Universe) : Nat := u.declarations.size

/-- Add a type.  What it mentions of types that are not defined is dropped. -/
def define (u : Universe) (declaration : TypeDeclaration) : Universe where
  declarations := u.declarations.push (declaration.within u.size)
  parent_lt := by
    intro id found lookup parent member
    rw [Array.getElem?_push] at lookup
    split at lookup
    · obtain rfl : declaration.within u.size = found := by simpa using lookup
      rename_i last
      subst last
      exact TypeDeclaration.lt_of_mem_parents_within member
    · exact u.parent_lt id found lookup parent member
  implementation_lt := by
    intro id found lookup implementation member
    rw [Array.getElem?_push] at lookup
    split at lookup
    · obtain rfl : declaration.within u.size = found := by simpa using lookup
      rename_i last
      subst last
      exact TypeDeclaration.lt_of_mem_implementations_within member
    · exact u.implementation_lt id found lookup implementation member
  objectType_declared := by
    have bound := (Array.getElem?_eq_some_iff.mp u.objectType_declared).1
    rw [Array.getElem?_push, if_neg (Nat.ne_of_lt bound)]
    exact u.objectType_declared
  proxyCapability_declared := by
    have bound := (Array.getElem?_eq_some_iff.mp u.proxyCapability_declared).1
    rw [Array.getElem?_push, if_neg (Nat.ne_of_lt bound)]
    exact u.proxyCapability_declared

/-- What an identity stands for that no definition has: a nameless type that
nothing can be made of. -/
def undefined : TypeDeclaration := .bare "" .proxyType none

def declaration (u : Universe) (id : TypeId) : TypeDeclaration :=
  u.declarations[id]?.getD undefined

def name (u : Universe) (id : TypeId) : String := (u.declaration id).name

def kind (u : Universe) (id : TypeId) : TypeKind := (u.declaration id).kind

def isInterface (u : Universe) (id : TypeId) : Bool := u.kind id == .interfaceType

def base (u : Universe) (id : TypeId) : Option TypeId := (u.declaration id).base

def interfaces (u : Universe) (id : TypeId) : List TypeId := (u.declaration id).interfaces

def slots (u : Universe) (id : TypeId) : List Slot :=
  (List.range (u.declaration id).methods.length).map (Slot.mk id)

/-- A type mentions earlier types only. -/
theorem lt_of_mem_parents (u : Universe) {id parent : TypeId}
    (member : parent ∈ (u.declaration id).parents) : parent < id := by
  unfold declaration at member
  cases lookup : u.declarations[id]? with
  | none => simp [lookup, undefined, TypeDeclaration.bare, TypeDeclaration.parents] at member
  | some found =>
      rw [lookup] at member
      exact u.parent_lt id found lookup parent member

theorem base_lt (u : Universe) {id parent : TypeId} (extended : u.base id = some parent) :
    parent < id :=
  u.lt_of_mem_parents (by
    have stored : (u.declaration id).base = some parent := extended
    simp [TypeDeclaration.parents, stored])

theorem interface_lt (u : Universe) {id listed : TypeId} (member : listed ∈ u.interfaces id) :
    listed < id :=
  u.lt_of_mem_parents (by
    have stored : listed ∈ (u.declaration id).interfaces := member
    simp [TypeDeclaration.parents, stored])

/-- A type gives bodies to members of earlier types only. -/
theorem lt_of_mem_implementations (u : Universe) {id : TypeId}
    {implementation : Slot × MethodBody}
    (member : implementation ∈ (u.declaration id).implementations) :
    implementation.1.parent < id := by
  unfold declaration at member
  cases lookup : u.declarations[id]? with
  | none => simp [lookup, undefined, TypeDeclaration.bare] at member
  | some found =>
      rw [lookup] at member
      exact u.implementation_lt id found lookup implementation member

/-- The type, the type it extends, and so on. -/
def chain (u : Universe) (id : TypeId) : List TypeId :=
  match _extended : u.base id with
  | none => [id]
  | some parent => id :: u.chain parent
termination_by id
decreasing_by exact u.base_lt _extended

/-- Depth-first walk from a type along the types it lists, adding what was not
found before. -/
def collect (u : Universe) (id : TypeId) (found : List TypeId) : List TypeId :=
  if id ∈ found then found
  else
    (u.interfaces id).attach.foldl (fun reached listed => u.collect listed.1 reached)
      (found ++ [id])
termination_by id
decreasing_by exact u.interface_lt listed.2

/-- Walk from several types in order. -/
def collectAll (u : Universe) (ids found : List TypeId) : List TypeId :=
  ids.foldl (fun reached id => u.collect id reached) found

theorem collect_eq (u : Universe) (id : TypeId) (found : List TypeId) :
    u.collect id found =
      if id ∈ found then found else u.collectAll (u.interfaces id) (found ++ [id]) := by
  rw [collect, collectAll]
  simp

/-- Every type that a type implements, directly, through the types it extends
or through other implemented types, each once, in order of discovery. -/
def allInterfaces (u : Universe) (id : TypeId) : List TypeId :=
  (u.chain id).foldl (fun found ancestor => u.collectAll (u.interfaces ancestor) found) []

/-- Whether a location of type `target` may refer to an object of type `id`. -/
def isAssignable (u : Universe) (id target : TypeId) : Bool :=
  target == objectType || (u.chain id).contains target ||
    (u.isInterface target && (u.allInterfaces id).contains target)

/-- The signature of a member that no type declares.  Nothing can be compiled
or synthesized for it. -/
def undeclared : Signature :=
  { name := "", convention := .variableArguments, isVirtual := false }

def methodDeclaration? (u : Universe) (slot : Slot) : Option MethodDeclaration :=
  (u.declaration slot.parent).methods[slot.index]?

def signature (u : Universe) (slot : Slot) : Signature :=
  ((u.methodDeclaration? slot).map (·.signature)).getD undeclared

def findMethod (u : Universe) (id : TypeId) (name : String) : Option Slot :=
  ((u.declaration id).methods.findIdx? (·.signature.name == name)).map (Slot.mk id)

def findField (u : Universe) (id : TypeId) (name : String) : Option Field :=
  (u.declaration id).fields.find? (·.name == name)

def parameters (u : Universe) (method : Method) : List Parameter :=
  (u.signature method.slot).parameters

/-- The type of a parameter with the type arguments put in. -/
def parameterType (method : Method) (parameter : Parameter) : RuntimeType :=
  parameter.type.concrete method.generics

/-- The type of the result with the type arguments put in. -/
def returnType (u : Universe) (method : Method) : RuntimeType :=
  (u.signature method.slot).returns.concrete method.generics

/-- Whether a method takes type arguments. -/
def isGeneric (u : Universe) (slot : Slot) : Bool := decide (0 < (u.signature slot).arity)

/-- A generic method whose type arguments have not been supplied. -/
def isGenericDefinition (u : Universe) (method : Method) : Bool :=
  u.isGeneric method.slot && method.isOpen

/-- Supply type arguments.  Only generic methods take them, and exactly as many
as they declare; arguments supplied before are replaced. -/
def makeGeneric (u : Universe) (method : Method) (arguments : List RuntimeType) :
    Except Fault Method :=
  let expected := (u.signature method.slot).arity
  if expected = 0 ∨ arguments.length ≠ expected then
    .error (.genericArity method expected arguments.length)
  else .ok { method with generics := arguments }

/-- Defining a type leaves the earlier ones as they were. -/
theorem declaration_define_of_lt (u : Universe) (added : TypeDeclaration) {id : TypeId}
    (defined : id < u.size) : (u.define added).declaration id = u.declaration id := by
  simp only [declaration, define, Array.getElem?_push]
  rw [if_neg (show id ≠ u.declarations.size from Nat.ne_of_lt defined)]

theorem declaration_define_self (u : Universe) (added : TypeDeclaration) :
    (u.define added).declaration u.size = added.within u.size := by
  simp [declaration, define, size]

end Universe

end Interpose
