/-
Module: Interpose.Proofs.MemberNames
Purpose: The names of the members and fields that a proxy type declares, and when they are distinct.
Main exports: FieldKey, Universe.memberRequests, Universe.namedTargets, Universe.Labels,
  Universe.labels_synthesize, Universe.generated_names_distinct
-/
import Interpose.Proofs.NameSupplies
import Interpose.Proofs.ProxyTypes

namespace Interpose

/-! ### The names of fields -/

/-- What tells the static field of an intercepted method: the name of its member, and whether the
method is generic. -/
structure FieldKey where
  member : String
  generic : Bool
deriving DecidableEq, Repr, Inhabited

namespace FieldKey

/-- What the name of the field says after the name of the member. -/
def suffix (key : FieldKey) : String :=
  if key.generic then "SpecializationCache" else "ThunkEntry"

def name (key : FieldKey) : String := key.member ++ key.suffix

def field (key : FieldKey) : Field := ⟨key.name, .object, true⟩

/-- The last letter tells the fields of generic methods from those of others. -/
private theorem getLast?_name (key : FieldKey) :
    key.name.toList.getLast? = some (if key.generic then 'e' else 'y') := by
  unfold name suffix
  cases key.generic <;> simp

/-- The name of a field tells the member and whether it is generic: the two suffixes end in
different letters. -/
theorem name_injective {one other : FieldKey} (same : one.name = other.name) : one = other := by
  have ends : one.name.toList.getLast? = other.name.toList.getLast? := by rw [same]
  rw [getLast?_name, getLast?_name] at ends
  obtain ⟨member, generic⟩ := one
  obtain ⟨otherMember, otherGeneric⟩ := other
  have sameKind : generic = otherGeneric := by
    cases generic <;> cases otherGeneric <;> simp at ends ⊢
  subst sameKind
  have sameMember : member = otherMember := (String.append_left_inj _).mp same
  rw [sameMember]

/-- A name that ends in another letter is the name of no such field. -/
private theorem notMem_names (keys : List FieldKey) {other : String}
    (ends : ∀ generic : Bool, other.toList.getLast? ≠ some (if generic then 'e' else 'y')) :
    other ∉ keys.map (·.name) := by
  intro listed
  obtain ⟨key, _, same⟩ := List.mem_map.mp listed
  apply ends key.generic
  rw [← same]
  exact key.getLast?_name

end FieldKey

namespace Universe

/-- The names that the members of a proxy type ask for, in order. -/
def memberRequests (u : Universe) (descriptor : Descriptor) (targets : List Target) : List String :=
  targets.map fun target => u.memberName descriptor.primary target.slot

/-- The targets of a proxy type, each with the name that its member gets. -/
def namedTargets (u : Universe) (descriptor : Descriptor) : List (Target × String) :=
  (u.methodSet descriptor).zip
    (NameSupply.grants .empty (u.memberRequests descriptor (u.methodSet descriptor)))

theorem map_snd_namedTargets (u : Universe) (descriptor : Descriptor) :
    (u.namedTargets descriptor).map (·.2) =
      NameSupply.grants .empty (u.memberRequests descriptor (u.methodSet descriptor)) := by
  apply List.map_snd_zip
  rw [NameSupply.length_grants, memberRequests, List.length_map]

/-- What tells the fields of the intercepted ones among named targets. -/
def fieldKeys (u : Universe) (filter : MethodFilter) (named : List (Target × String)) :
    List FieldKey :=
  (named.filter fun pair => filter.accepts u pair.1.slot.toMethod).map fun pair =>
    ⟨pair.2, u.isGeneric pair.1.slot⟩

/-- As far as names go, one declaration is another with a member for each of some named targets,
and with a field for each of them that is intercepted. -/
structure Labels (u : Universe) (filter : MethodFilter) (named : List (Target × String))
    (declaration later : TypeDeclaration) : Prop where
  methods : later.methods.map (·.signature.name) =
    declaration.methods.map (·.signature.name) ++ named.map (·.2)
  fields : later.fields = declaration.fields ++ (u.fieldKeys filter named).map (·.field)

namespace Labels

variable {u : Universe} {filter : MethodFilter}

theorem refl (declaration : TypeDeclaration) : u.Labels filter [] declaration declaration :=
  ⟨(List.append_nil _).symm, (List.append_nil _).symm⟩

/-- Members that are added one after the other add up. -/
theorem trans {named others : List (Target × String)} {declaration later further : TypeDeclaration}
    (first : u.Labels filter named declaration later)
    (second : u.Labels filter others later further) :
    u.Labels filter (named ++ others) declaration further where
  methods := by
    rw [second.methods, first.methods, List.map_append, List.append_assoc]
  fields := by
    rw [second.fields, first.fields, fieldKeys, fieldKeys, fieldKeys, List.filter_append,
      List.map_append, List.map_append, List.append_assoc]

end Labels

/-! ### Implementing targets -/

private theorem fields_addMember (u : Universe) (target : Target) (name : String)
    (body : MethodBody) (declaration : TypeDeclaration) :
    (u.addMember target name body declaration).fields = declaration.fields := by
  unfold addMember
  simp only [foldl_implement]
  rfl

private theorem names_addMember (u : Universe) (target : Target) (name : String) (body : MethodBody)
    (declaration : TypeDeclaration) :
    (u.addMember target name body declaration).methods.map (·.signature.name) =
      declaration.methods.map (·.signature.name) ++ [name] := by
  rw [(u.gains_addMember target name body declaration).methods]
  simp [Member.method]

/-- The field of an intercepted method is named for whether the method is generic. -/
private theorem suffix_of_proceedSlot (u : Universe) (name : String) {slot : Slot}
    {f after : Factory} {suffix : String} {dispatch : Dispatch}
    (found : u.proceedSlot slot f = (.ok (suffix, dispatch), after)) :
    suffix = FieldKey.suffix ⟨name, u.isGeneric slot⟩ := by
  unfold proceedSlot at found
  unfold FieldKey.suffix
  cases generic : u.isGeneric slot with
  | true =>
      simp only [generic, if_true] at found
      cases found
      rfl
  | false =>
      simp only [generic, Bool.false_eq_true, if_false] at found
      split at found
      · split at found
        · cases found
        · cases found
          rfl
      · cases found
        rfl

/-- One target is labelled with the name that the supply has for it, and uses it up. -/
private theorem labels_implementTarget (u : Universe) {factoryId : FactoryId}
    {descriptor : Descriptor} {target : Target} {draft after : Draft}
    {declaration : TypeDeclaration}
    (held : draft.declaration = some declaration)
    (done : u.implementTarget factoryId descriptor target draft = (.ok (), after)) :
    ∃ extended, after.declaration = some extended ∧
      after.names = (draft.names.fresh (u.memberName descriptor.primary target.slot)).2 ∧
      u.Labels descriptor.filter
        [(target, (draft.names.fresh (u.memberName descriptor.primary target.slot)).1)]
        declaration extended := by
  obtain ⟨⟨name, names⟩, given⟩ : ∃ supply,
      draft.names.fresh (u.memberName descriptor.primary target.slot) = supply := ⟨_, rfl⟩
  obtain ⟨own, same, way⟩ := u.implementTarget_eq_ok given done
  obtain rfl := Option.some.inj (held.symm.trans same)
  rw [given]
  cases way with
  | inl intercepted =>
      obtain ⟨accepted, suffix, dispatch, f, found, rfl⟩ := intercepted
      refine ⟨_, rfl, rfl, ⟨u.names_addMember _ _ _ _, ?_⟩⟩
      have suffixed := u.suffix_of_proceedSlot name found
      rw [fields_addMember, suffixed]
      simp [fieldKeys, accepted, TypeDeclaration.addField, FieldKey.field, FieldKey.name]
  | inr passed =>
      obtain ⟨rejected, rfl⟩ := passed
      refine ⟨_, rfl, rfl, ⟨u.names_addMember _ _ _ _, ?_⟩⟩
      rw [fields_addMember]
      simp [fieldKeys, rejected]

/-- Implementing targets labels them with what the supply hands out for their names in order. -/
private theorem labels_implementTargets (u : Universe) {factoryId : FactoryId}
    {descriptor : Descriptor} {targets : List Target} {draft after : Draft}
    {declaration : TypeDeclaration}
    (held : draft.declaration = some declaration)
    (done : u.implementTargets factoryId descriptor targets draft = (.ok (), after)) :
    ∃ extended, after.declaration = some extended ∧
      u.Labels descriptor.filter
        (targets.zip (draft.names.grants (u.memberRequests descriptor targets)))
        declaration extended := by
  induction targets generalizing draft declaration with
  | nil =>
      obtain ⟨_, rfl⟩ := Prod.mk.inj done
      exact ⟨declaration, held, .refl declaration⟩
  | cons target rest inductionHypothesis =>
      unfold implementTargets at done
      cases step : u.implementTarget factoryId descriptor target draft with
      | mk result between =>
          rw [step] at done
          cases result with
          | error fault => cases done
          | ok _ =>
              obtain ⟨extended, heldBetween, names, first⟩ := u.labels_implementTarget held step
              obtain ⟨last, heldLast, others⟩ := inductionHypothesis heldBetween done
              rw [names] at others
              exact ⟨last, heldLast, first.trans others⟩

/-! ### The whole declaration -/

private theorem fields_implementing (declaration : TypeDeclaration) (added : TypeId) :
    (declaration.implementing added).fields = declaration.fields := by
  unfold TypeDeclaration.implementing
  split <;> rfl

private theorem fields_foldl_implementing (interfaces : List TypeId)
    (declaration : TypeDeclaration) :
    (interfaces.foldl TypeDeclaration.implementing declaration).fields = declaration.fields := by
  induction interfaces generalizing declaration with
  | nil => rfl
  | cons added rest inductionHypothesis =>
      rw [List.foldl_cons, inductionHypothesis, fields_implementing]

/-- The fields that every proxy type has. -/
def frameFields (primary : TypeId) : List Field :=
  [⟨"target", .named primary, false⟩, ⟨"interceptor", .object, false⟩]

/-- Before any member is added a proxy type has the fields for target and interceptor. -/
private theorem fields_proxyFrame (u : Universe) (descriptor : Descriptor) :
    (u.proxyFrame descriptor).fields = frameFields descriptor.primary := by
  unfold proxyFrame
  simp only [TypeDeclaration.addField, fields_foldl_implementing]
  split
  · rw [fields_implementing]
    rfl
  · rfl

/-- A proxy type declares a member for each target by the name that it gets, and a field for each
target that is intercepted. -/
theorem labels_synthesize (u : Universe) {factoryId : FactoryId} {descriptor : Descriptor}
    {f after : Factory} {proxyType : ProxyType} {later : Universe}
    (made : u.synthesize factoryId descriptor f = (.ok proxyType, later, after)) :
    (later.declaration proxyType.type).methods.map (·.signature.name) =
        NameSupply.grants .empty (u.memberRequests descriptor (u.methodSet descriptor)) ∧
      (later.declaration proxyType.type).fields =
        frameFields descriptor.primary ++
          (u.fieldKeys descriptor.filter (u.namedTargets descriptor)).map (·.field) := by
  obtain ⟨draft, declaration, _, implemented, held, rfl, rfl, rfl⟩ := u.synthesize_eq_ok made
  obtain ⟨extended, same, labels⟩ := u.labels_implementTargets rfl implemented
  obtain rfl := Option.some.inj (held.symm.trans same)
  -- Before the targets the declaration has no member of its own: the accessors of the proxy
  -- capability interface are bodies without one.
  have unnamed : (addCapability (u.proxyFrame descriptor)).methods = [] :=
    (same_implementing _ proxyCapability).2.2.1.trans (u.proxyFrame_spec descriptor).2.2.1
  have framed : (addCapability (u.proxyFrame descriptor)).fields =
      frameFields descriptor.primary :=
    (fields_implementing _ proxyCapability).trans (u.fields_proxyFrame descriptor)
  rw [declaration_define_self]
  constructor
  · apply labels.methods.trans
    rw [unnamed]
    exact u.map_snd_namedTargets descriptor
  · apply labels.fields.trans
    rw [framed]
    rfl

/-! ### When the names are distinct -/

/-- The fields are named apart exactly if no two of them are for one member name and kind. -/
private theorem nodup_fields_iff (primary : TypeId) (keys : List FieldKey) :
    ((frameFields primary ++ keys.map (·.field)).map (·.name)).Nodup ↔ keys.Nodup := by
  have names : (frameFields primary ++ keys.map (·.field)).map (·.name) =
      "target" :: "interceptor" :: keys.map (·.name) := by
    simp [frameFields, FieldKey.field, Function.comp_def]
  have target : "target" ∉ "interceptor" :: keys.map (·.name) := by
    apply List.not_mem_cons_of_ne_of_not_mem (by decide)
    exact FieldKey.notMem_names keys (by decide)
  have interceptor : "interceptor" ∉ keys.map (·.name) :=
    FieldKey.notMem_names keys (by decide)
  rw [names, List.nodup_cons, List.nodup_cons,
    List.nodup_map_iff fun _ _ same => FieldKey.name_injective same]
  simp only [target, interceptor, not_false_eq_true, true_and]

/-- Where the members have distinct names, no two fields are for one member name. -/
private theorem nodup_fieldKeys (u : Universe) (filter : MethodFilter)
    {named : List (Target × String)} (distinct : (named.map (·.2)).Nodup) :
    (u.fieldKeys filter named).Nodup := by
  have kept : ((named.filter fun pair => filter.accepts u pair.1.slot.toMethod).map (·.2)).Nodup :=
    distinct.sublist (List.filter_sublist.map _)
  have members : (u.fieldKeys filter named).map (·.member) =
      (named.filter fun pair => filter.accepts u pair.1.slot.toMethod).map (·.2) := by
    simp [fieldKeys, Function.comp_def]
  apply List.Nodup.of_map (·.member)
  rwa [members]

/-- The names that are generated are distinct exactly if those that are asked for are apart: a name
that is asked for more than once is handed out in numbered forms, and none of the forms of one name
may be a form of another.  Names are apart when none of them followed by digits is another one.

The members of a proxy type are named by what its targets ask for, in order.  Its fields are those
for target and interceptor, and a static one for each target that is intercepted, named after the
member and for whether the method is generic.  So the members have distinct names exactly if what
the targets ask for is apart, and then the fields have distinct names as well; on their own the
fields have distinct names exactly if no two of them are for one member name and one kind of
method. -/
theorem generated_names_distinct (u : Universe) :
    (∀ requests, (NameSupply.grants .empty requests).Nodup ↔ NameSupply.Apart requests) ∧
    (∀ requests, (∀ one ∈ requests, ∀ other ∈ requests, ¬ NameSupply.Continues one other) →
      NameSupply.Apart requests) ∧
    ∀ (factoryId : FactoryId) (descriptor : Descriptor) (f after : Factory)
      (proxyType : ProxyType) (later : Universe),
      u.synthesize factoryId descriptor f = (.ok proxyType, later, after) →
      let requests := u.memberRequests descriptor (u.methodSet descriptor)
      let keys := u.fieldKeys descriptor.filter (u.namedTargets descriptor)
      let members := (later.declaration proxyType.type).methods.map (·.signature.name)
      let fields := (later.declaration proxyType.type).fields
      members = NameSupply.grants .empty requests ∧
      fields = frameFields descriptor.primary ++ keys.map (·.field) ∧
      (members.Nodup ↔ NameSupply.Apart requests) ∧
      ((fields.map (·.name)).Nodup ↔ keys.Nodup) ∧
      (NameSupply.Apart requests → (fields.map (·.name)).Nodup) := by
  refine ⟨NameSupply.nodup_grants_iff, fun _ => NameSupply.apart_of_not_continues, ?_⟩
  intro factoryId descriptor f after proxyType later made requests keys members fields
  obtain ⟨named, declared⟩ := u.labels_synthesize made
  have distinctMembers : members.Nodup ↔ NameSupply.Apart requests := by
    rw [← NameSupply.nodup_grants_iff, ← named]
  have distinctFields : (fields.map (·.name)).Nodup ↔ keys.Nodup := by
    rw [← nodup_fields_iff descriptor.primary, ← declared]
  refine ⟨named, declared, distinctMembers, distinctFields, ?_⟩
  intro apart
  apply distinctFields.mpr
  apply u.nodup_fieldKeys
  rw [u.map_snd_namedTargets]
  exact (NameSupply.nodup_grants_iff requests).mpr apart

/-- An interface with methods of given names, each with as many arguments as methods come before
it. -/
def jobs (names : List String) : Universe :=
  initial.define (names.foldl (fun declaration name => declaration.addMethod
    { name, parameters := declaration.methods.map fun _ => ⟨"item", .int32, .input⟩ } none)
    (.interface "IJobs"))

def jobsRequest : Descriptor := ⟨2, [], .standard⟩

/-- Overloads get distinct names. -/
theorem generated_names_distinct_overloads :
    let made := (jobs ["Execute", "Execute"]).synthesize 0 jobsRequest default
    made.1 = .ok ⟨3, jobsRequest⟩ ∧
      ((made.2.1.declaration 3).methods.map (·.signature.name)).Nodup ∧
      ((made.2.1.declaration 3).fields.map (·.name)).Nodup := by
  intro made
  have succeeds : made = (.ok ⟨3, jobsRequest⟩, made.2.1, made.2.2) := by with_unfolding_all rfl
  obtain ⟨_, apart, told⟩ := generated_names_distinct (jobs ["Execute", "Execute"])
  obtain ⟨_, _, members, _, fields⟩ := told 0 jobsRequest default _ _ _ succeeds
  have asked : (jobs ["Execute", "Execute"]).memberRequests jobsRequest
      ((jobs ["Execute", "Execute"]).methodSet jobsRequest) =
      ["Execute", "Execute", "Equals", "GetHashCode", "ToString"] := by
    with_unfolding_all rfl
  rw [asked] at members fields
  have plain : NameSupply.Apart ["Execute", "Execute", "Equals", "GetHashCode", "ToString"] := by
    have letters : ∀ name ∈ ["Execute", "Execute", "Equals", "GetHashCode", "ToString"],
        name.toList.getLast?.any Char.isDigit = false := by decide +kernel
    apply apart
    intro one _ other listed continues
    have ends := continues.any_isDigit_getLast?
    rw [letters other listed] at ends
    cases ends
  exact ⟨congrArg Prod.fst succeeds, members.mpr plain, fields plain⟩

/-- A name that ends in a digit can be the one that an overload of another name gets.  The supply
does not look at the names that it handed out. -/
theorem generated_names_repeat :
    ¬ (NameSupply.grants .empty ["Execute0", "Execute", "Execute"]).Nodup ∧
      let made := (jobs ["Execute0", "Execute", "Execute"]).synthesize 0 jobsRequest default
      made.1 = .ok ⟨3, jobsRequest⟩ ∧
        ¬ ((made.2.1.declaration 3).methods.map (·.signature.name)).Nodup ∧
        ¬ ((made.2.1.declaration 3).fields.map (·.name)).Nodup := by
  exact ⟨by decide, by with_unfolding_all rfl, by decide +kernel, by decide +kernel⟩

end Universe

end Interpose
