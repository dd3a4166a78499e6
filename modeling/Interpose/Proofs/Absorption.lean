/-
Module: Interpose.Proofs.Absorption
Purpose: Calls of a declaration that a more derived one of its shape stands for on a proxy.
Main exports: Universe.Absorbs, Universe.Absorbs.resolve_eq_iff, Universe.Absorbs.standsIn,
  Universe.Built.exists_absorbing, Session.absorption_unobservable
-/
import Interpose.Proofs.Assignability
import Interpose.Proofs.Transparency

namespace Interpose

namespace Universe

/-- A method that proxies implement can stand for another one of its shape that is
declared no lower on its chain.  Each stands for itself. -/
structure Absorbs (u : Universe) (carried slot : Slot) : Prop where
  declaredCarried : carried ∈ u.slots carried.parent
  virtualCarried : (u.signature carried).isVirtual = true
  declared : slot ∈ u.slots slot.parent
  isVirtual : (u.signature slot).isVirtual = true
  shape : (u.signature carried).agrees (u.signature slot) = true
  above : slot.parent ∈ u.chain carried.parent

/-- The virtual methods of an ancestor are inherited. -/
private theorem mem_inheritedSlots_of_mem_chain (u : Universe) {type ancestor : TypeId}
    {slot : Slot} (declared : slot ∈ u.slots slot.parent)
    (isVirtual : (u.signature slot).isVirtual = true)
    (reaches : ancestor ∈ u.chain type) (different : type ≠ ancestor)
    (above : slot.parent ∈ u.chain ancestor) : slot ∈ u.inheritedSlots type := by
  refine u.mem_inheritedSlots.mpr (.inl ⟨declared, isVirtual, ?_, ?_⟩)
  · exact u.mem_chain_trans reaches above
  · intro same
    apply different
    have younger := u.le_of_mem_chain above
    rw [same] at younger
    exact Nat.le_antisymm younger (u.le_of_mem_chain reaches)

/-- What a class can be used as, every type of its chain can be used as. -/
theorem isAssignable_of_mem_chain (u : Universe) {primary ancestor id : TypeId}
    (isClass : u.isInterface primary = false) (onChain : ancestor ∈ u.chain primary)
    (assignable : u.isAssignable id primary = true) : u.isAssignable id ancestor = true := by
  have above : u.isAssignable primary ancestor = true :=
    u.isAssignable_iff.mpr (.inr (.inl onChain))
  refine isAssignable_trans assignable above fun detour => ?_
  cases isClass.symm.trans detour.isInterface

namespace Absorbs

variable {u : Universe} {carried slot : Slot} (absorbs : u.Absorbs carried slot)

include absorbs

/-- Below the absorbing method a table tells the two apart by bodies that are given
to one of them by name only. -/
private theorem find?_eq {type : TypeId} (reaches : carried.parent ∈ u.chain type)
    (different : type ≠ carried.parent)
    (explicitly : u.explicitBody type slot = u.explicitBody type carried) :
    (u.methodTable type).find? slot = (u.methodTable type).find? carried := by
  have inherited := u.mem_inheritedSlots_of_mem_chain absorbs.declared absorbs.isVirtual reaches
    different absorbs.above
  have inheritedCarried := u.mem_inheritedSlots_of_mem_chain absorbs.declaredCarried
    absorbs.virtualCarried reaches different (u.mem_chain_self carried.parent)
  have implicitly : u.implicitBody type slot = u.implicitBody type carried := by
    unfold implicitBody
    rw [if_pos inherited, if_pos inheritedCarried]
    simp only [Signature.agrees_congr absorbs.shape]
  rw [u.find?_methodTable_inherited (u.parent_ne_of_mem_inheritedSlots inherited),
    u.find?_methodTable_inherited (u.parent_ne_of_mem_inheritedSlots inheritedCarried),
    explicitly, implicitly]

/-- A type that extends the class of the absorbing method finds the same body for
both exactly if a type in between decides, or the class itself finds the same. -/
private theorem resolve_eq_iff {id : TypeId} (onChain : carried.parent ∈ u.chain id)
    (explicitly : ∀ type ∈ u.chain id, carried.parent ∈ u.chain type → type ≠ carried.parent →
      u.explicitBody type slot = u.explicitBody type carried) :
    u.resolve id slot = u.resolve id carried ↔
      (∃ type ∈ u.chain id, carried.parent ∈ u.chain type ∧ type ≠ carried.parent ∧
        ((u.methodTable type).find? carried).isSome = true) ∨
      u.resolve carried.parent slot = u.resolve carried.parent carried :=
  u.resolve_eq_iff_of_alike onChain fun type member reaches different =>
    absorbs.find?_eq reaches different (explicitly type member reaches different)

/-- The members of the universal base type have different names. -/
private theorem eq_of_objectType (home : carried.parent = objectType) : carried = slot := by
  have declaration : u.declaration objectType = Universal.objectDeclaration := by
    unfold declaration
    rw [u.objectType_declared]
    rfl
  have homeSlot : slot.parent = objectType := by
    have above := absorbs.above
    rw [home, u.chain_objectType] at above
    exact List.mem_singleton.mp above
  have named : ∀ {member : Slot}, member.parent = objectType → member ∈ u.slots member.parent →
      (Universal.objectDeclaration.methods.map (·.signature.name))[member.index]? =
        some (u.signature member).name := by
    intro member home declared
    have bound := (u.mem_slots.mp declared).2
    rw [home, declaration] at bound
    rw [signature, methodDeclaration?, home, declaration, List.getElem?_map,
      List.getElem?_eq_getElem bound]
    rfl
  have distinct : (Universal.objectDeclaration.methods.map (·.signature.name)).Nodup := by decide
  have carriedName := named home absorbs.declaredCarried
  have slotName := named homeSlot absorbs.declared
  rw [(Signature.agrees_iff.mp absorbs.shape).1] at carriedName
  have sameIndex : carried.index = slot.index := by
    have bound := (List.getElem?_eq_some_iff.mp carriedName).1
    exact (List.getElem?_inj bound distinct).mp (carriedName.trans slotName.symm)
  cases carried
  cases slot
  simp_all

/-- Whatever a class is the type of extends the class of the absorbing method. -/
theorem mem_chain_of_isAssignable {primary id : TypeId} (isClass : u.isInterface primary = false)
    (onChain : carried.parent ∈ u.chain primary) (assignable : u.isAssignable id primary = true) :
    carried = slot ∨ carried.parent ∈ u.chain id := by
  rcases u.isAssignable_iff.mp assignable with rfl | extended | ⟨impossible, _⟩
  · rw [u.chain_objectType] at onChain
    exact .inl (absorbs.eq_of_objectType (List.mem_singleton.mp onChain))
  · exact .inr (u.mem_chain_trans extended onChain)
  · rw [isClass] at impossible
    cases impossible

/-- The absorbing method takes and returns what the absorbed one does, under any type arguments. -/
theorem sameTypes (generics : List RuntimeType) :
    u.SameTypes ⟨carried, generics⟩ ⟨slot, generics⟩ := by
  obtain ⟨_, parameters, returns, _⟩ := Signature.agrees_iff.mp absorbs.shape
  refine ⟨parameters, fun _ _ => rfl, ?_⟩
  unfold returnType
  rw [returns]

/-- A supported method has a thunk for type arguments with which a method that it
absorbs has one. -/
private theorem compile_eq_assemble {generics : List RuntimeType} {thunk : Thunk}
    (supported : u.checkSignature carried.toMethod = .ok ())
    (closed : generics.length = (u.signature carried).arity)
    (compiled : u.compile ⟨slot, generics⟩ = .ok thunk) :
    u.compile ⟨carried, generics⟩ = .ok (.assemble u ⟨carried, generics⟩) := by
  have same := absorbs.sameTypes generics
  have sameParameters : u.parameters ⟨carried, generics⟩ = u.parameters ⟨slot, generics⟩ :=
    same.parameters
  have notDefinition : u.isGenericDefinition ⟨carried, generics⟩ = false := by
    have counted : generics = [] → (u.signature carried).arity = 0 := by
      rintro rfl
      exact closed.symm
    simp only [isGenericDefinition, isGeneric, Method.isOpen, Bool.and_eq_false_iff]
    by_cases none : generics = []
    · exact .inl (by simp [counted none])
    · exact .inr (by simpa using none)
  obtain ⟨convention, valued, _⟩ := (u.checkSignature_eq_ok_iff _).mp supported
  have supportedSlot := u.checkSignature_of_compile compiled
  obtain ⟨_, _, types⟩ := (u.checkSignature_eq_ok_iff _).mp supportedSlot
  have closes : u.openParameter? ⟨slot, generics⟩ = none ∧
      (u.returnType ⟨slot, generics⟩).isOpen = false := by
    rcases types with definition | closes
    · simp [compile, supportedSlot, definition] at compiled
    · exact closes
  have passes : u.checkSignature ⟨carried, generics⟩ = .ok () := by
    refine (u.checkSignature_eq_ok_iff _).mpr ⟨convention, valued, .inr ⟨?_, ?_⟩⟩
    · unfold openParameter?
      rw [sameParameters]
      exact closes.1
    · rw [same.returns]
      exact closes.2
  simp [compile, passes, notDefinition]

/-- On an object that has one body for both, the absorbing method can be called for
the absorbed one. -/
private theorem standsIn {on : ObjectRef} {generics : List RuntimeType} {thunk : Thunk}
    (supported : u.checkSignature carried.toMethod = .ok ())
    (closed : generics.length = (u.signature slot).arity)
    (reached : u.isAssignable on.type carried.parent = true)
    (body : u.require on.type ⟨carried, generics⟩ = u.require on.type ⟨slot, generics⟩)
    (compiled : u.compile ⟨slot, generics⟩ = .ok thunk) :
    u.StandsIn on ⟨carried, generics⟩ ⟨slot, generics⟩ := by
  obtain ⟨_, _, _, arity⟩ := Signature.agrees_iff.mp absorbs.shape
  exact ⟨absorbs.sameTypes generics, rfl,
    absorbs.compile_eq_assemble supported (closed.trans arity.symm) compiled, reached, body⟩

end Absorbs

/-! ### Absorbing methods of a proxy type -/

namespace Built

variable {u : Universe} {proxyType : ProxyType} (built : u.Built proxyType)

include built

/-- A proxy type of a class extends that class. -/
theorem chain_eq (isClass : u.isInterface proxyType.primary = false) :
    u.chain proxyType.type = proxyType.type :: u.chain proxyType.primary := by
  obtain ⟨before, factoryId, descriptor, members, declaration, assembly, rfl, extended, defined⟩ :=
    built.exists_assembly
  have whole := (before.extends_define declaration).trans extended
  have primary : before.isInterface descriptor.primary = false :=
    (whole.isInterface_eq assembly.primary_lt).symm.trans isClass
  apply u.chain_of_base
  rw [extended.base_eq defined, assembly.base_eq, proxyBase, primary]
  rfl

/-- Every method that proxies implement and that is declared on the chain of a class
is intercepted or forwarded by its proxy types, as a method that absorbs it. -/
theorem exists_absorbing (isClass : u.isInterface proxyType.primary = false) {slot : Slot}
    (declared : slot ∈ u.slots slot.parent) (proxyable : u.isProxyable slot = true)
    (onChain : slot.parent ∈ u.chain proxyType.primary) :
    ∃ carried, u.Absorbs carried slot ∧ carried.parent ∈ u.chain proxyType.primary ∧
      ∃ factory, (∃ dispatch, (u.methodTable proxyType.type).find? slot =
          some (.intercepted carried dispatch factory)) ∨
        (u.methodTable proxyType.type).find? slot = some (.passThrough carried factory) := by
  have chain := built.chain_eq isClass
  obtain ⟨before, factoryId, descriptor, members, declaration, assembly, rfl, extended, defined⟩ :=
    built.exists_assembly
  have whole := (before.extends_define declaration).trans extended
  -- The slot is older than the proxy type, so both universes tell the same about it.
  have older : slot.parent < before.size :=
    Nat.lt_of_le_of_lt (u.le_of_mem_chain onChain) assembly.primary_lt
  have olderLater : slot.parent < (before.define declaration).size := Nat.lt_trans older defined
  have assignable : (before.define declaration).isAssignable before.size slot.parent = true := by
    rw [← extended.isAssignable_eq defined, isAssignable_iff]
    right
    left
    exact chain ▸ List.mem_cons_of_mem _ onChain
  have proxyableLater := (extended.isProxyable_eq olderLater).symm.trans proxyable
  have isVirtual : (u.signature slot).isVirtual = true := (Bool.and_eq_true_iff.mp proxyable).1
  have declaredLater := declared
  rw [extended.slots_eq olderLater] at declaredLater
  obtain ⟨member, listed, handles, held⟩ := assembly.exists_member_of_isAssignable assignable
    (Nat.ne_of_lt older) declaredLater proxyableLater
  obtain ⟨declaredCarried, proxyableCarried, shape⟩ :=
    assembly.handled_later whole listed handles
  have virtualCarried : (u.signature member.target.slot).isVirtual = true :=
    (Bool.and_eq_true_iff.mp proxyableCarried).1
  have stands : (u.signature member.target.slot).agrees (u.signature slot) = true ∧
      member.target.slot.parent ∈ u.chain descriptor.primary ∧
      slot.parent ∈ u.chain member.target.slot.parent := by
    rcases shape with rfl | shape
    · exact ⟨Signature.agrees_refl _, onChain, u.mem_chain_self _⟩
    · exact shape
  obtain ⟨agrees, below, above⟩ := stands
  refine ⟨member.target.slot, ⟨declaredCarried, virtualCarried, declared, isVirtual, agrees, above⟩,
    below, factoryId, ?_⟩
  rw [extended.find?_methodTable slot defined, held]
  rcases assembly.routed member listed with ⟨_, dispatch, body⟩ | ⟨_, body⟩
  · exact .inl ⟨dispatch, congrArg some body⟩
  · exact .inr (congrArg some body)

end Built

end Universe

namespace Session

variable {s : Session} {state : ProxyState} {o target : ObjectRef} {method : Method}

/-! ### A method that is declared anew -/

/-- A class whose method answers one. -/
def answering : TypeDeclaration :=
  (TypeDeclaration.ofClass "Base").addMethod Universe.answer
    (some (.native fun _ => .done (.ok (.int32 1))))

/-- A class that extends the first one and declares the method anew. -/
def declaringAnew (run : Option MethodRun) : TypeDeclaration :=
  ((TypeDeclaration.ofClass "Derived").extending 2).addMethod Universe.answer (run.map .native)

/-- One object of the second class, and a transparent proxy that stands in for it. -/
def redeclared (run : Option MethodRun) : Session :=
  let defined := ((initial.define answering).2.define (declaringAnew run)).2
  let (target, created) := defined.create 3 "derived"
  (created.createProxy 0 ⟨3, [], Universe.everything⟩ (some target) transparent).2

private theorem reachable_redeclared (run : Option MethodRun) : Reachable (redeclared run) := by
  have first : Reachable (initial.define answering).2 := by
    exact .step .initial
      (.define answering (by decide) fun _ held => MethodBody.alike_of_mem_native held)
  have second : Reachable ((initial.define answering).2.define (declaringAnew run)).2 := by
    refine first.step (.define (declaringAnew run) ?_ ?_)
    · exact fun impossible => by cases impossible
    · intro body held
      cases run with
      | none => cases held
      | some run => exact MethodBody.alike_of_mem_native held
  have created := second.step (.create 3 "derived")
  exact created.step (.createProxy 0 _ _ transparent Nat.one_pos)

/-- An absorbed declaration is called on a proxy as it is called on the target.  The
proxy type of a class intercepts or forwards every method that is declared on the
chain of the class, as a method that absorbs it.  Where no type that the target's
type extends below the absorbing method gives a body by name to one of the two
only, the target finds the same for both exactly if one of these types has a body
for them or the class of the absorbing method finds the same.  If the target finds
one body for both, the calls on it and on the proxy come to an end alike: forwarded
ones with the same outcome, and those that a transparent interceptor handles with
the outcome as it is screened. -/
theorem absorption_unobservable (reachable : Reachable s)
    (stored : s.world.proxy? o = some state) (ofType : o.type = state.proxyType.type)
    (targeted : state.target = some target)
    (isClass : s.types.isInterface state.proxyType.primary = false)
    (reached : s.types.isAssignable target.type state.proxyType.primary = true)
    (declared : method.slot ∈ s.types.slots method.parent)
    (proxyable : s.types.isProxyable method.slot = true)
    (onChain : method.parent ∈ s.types.chain state.proxyType.primary)
    (closed : method.generics.length = (s.types.signature method.slot).arity) :
    ∃ carried factory, s.types.Absorbs carried method.slot ∧
      carried.parent ∈ s.types.chain state.proxyType.primary ∧
      ((∀ type ∈ s.types.chain target.type, carried.parent ∈ s.types.chain type →
          type ≠ carried.parent →
          s.types.explicitBody type method.slot = s.types.explicitBody type carried) →
        (s.types.resolve target.type method.slot = s.types.resolve target.type carried ↔
          (∃ type ∈ s.types.chain target.type, carried.parent ∈ s.types.chain type ∧
            type ≠ carried.parent ∧
            ((s.types.methodTable type).find? carried).isSome = true) ∨
          s.types.resolve carried.parent method.slot =
            s.types.resolve carried.parent carried)) ∧
      ((∃ dispatch, s.types.resolve o.type method.slot =
            some (.intercepted carried dispatch factory)) ∧
          (state.interceptor = some transparent → ∀ body,
            s.types.resolve target.type method.slot = some body →
            s.types.resolve target.type carried = some body →
            s.Mirrors method target o (s.types.Screened method)) ∨
        s.types.resolve o.type method.slot = some (.passThrough carried factory) ∧
          ∀ body, s.types.resolve target.type method.slot = some body →
            s.types.resolve target.type carried = some body →
            s.Mirrors method target o fun _ direct proxied => direct = proxied) := by
  have sound := sound_of_reachable reachable
  have built := sound.proxies o _ stored
  have assignable : s.types.isAssignable o.type method.parent = true := by
    rw [ofType, s.types.isAssignable_iff, built.chain_eq isClass]
    exact .inr (.inl (List.mem_cons_of_mem _ onChain))
  have reachedMethod := s.types.isAssignable_of_mem_chain isClass onChain reached
  obtain ⟨carried, absorbs, below, factory, held⟩ :=
    built.exists_absorbing isClass declared proxyable onChain
  have required : ∀ {body}, s.types.resolve target.type method.slot = some body →
      s.types.resolve target.type carried = some body → ∀ generics,
      s.types.require target.type ⟨carried, generics⟩ = s.types.require target.type method := by
    intro body found foundCarried generics
    unfold Universe.require
    rw [found, foundCarried]
  refine ⟨carried, factory, absorbs, below, ?_, ?_⟩
  · intro explicitly
    rcases absorbs.mem_chain_of_isAssignable isClass below reached with rfl | extended
    · exact ⟨fun _ => .inr rfl, fun _ => rfl⟩
    · exact absorbs.resolve_eq_iff extended explicitly
  -- An intercepted declaration is screened by the method that absorbs it, a forwarded one is called
  -- as it is.
  · rw [ofType]
    rcases held with ⟨dispatch, held⟩ | held
    · left
      refine ⟨⟨dispatch, s.types.resolve_of_find? held⟩, ?_⟩
      intro isTransparent body found foundCarried depth id arguments
      obtain ⟨supported, linked, _⟩ := sound.carrier built held
      have reachedCarried := s.types.isAssignable_of_mem_chain isClass below reached
      have sameBody := required found foundCarried method.generics
      obtain ⟨_, _, _, arity⟩ := Signature.agrees_iff.mp absorbs.shape
      have serves :
          s.types.require o.type method = .ok (.intercepted carried dispatch factory) := by
        rw [ofType]
        exact s.types.require_of_find? held
      obtain ⟨proxyType, held?, interceptor⟩ := state
      obtain rfl : held? = some target := targeted
      obtain rfl : interceptor = some transparent := isTransparent
      exact rel_running (Universe.screened_invokeThrough sound.alike stored serves linked
        (closed.trans arity.symm) (absorbs.standsIn supported closed reachedCarried sameBody)
        assignable reachedMethod depth id arguments)
    · right
      refine ⟨s.types.resolve_of_find? held, ?_⟩
      intro body found foundCarried depth id arguments
      have serves : s.types.require o.type method = .ok (.passThrough carried factory) := by
        rw [ofType]
        exact s.types.require_of_find? held
      exact rel_running (Universe.sameOutcome_invokeThrough sound.alike stored targeted serves
        (required found foundCarried []) assignable reachedMethod depth id arguments)

/-- The class of the target declares the method anew and gives it no body.  What the
base class answers is then found on the target, but not through the proxy, which
asks for the new declaration. -/
theorem absorption_observable :
    Reachable (redeclared none) ∧
      (redeclared none).world.proxy? ⟨1, 4⟩ =
        some ⟨⟨4, 3, [], Universe.everything⟩, some ⟨0, 3⟩, some transparent⟩ ∧
      (redeclared none).types.isInterface 3 = false ∧
      (redeclared none).types.isAssignable 3 3 = true ∧
      (redeclared none).types.isProxyable ⟨2, 0⟩ = true ∧
      (redeclared none).types.Absorbs ⟨3, 0⟩ ⟨2, 0⟩ ∧
      (redeclared none).types.resolve 4 ⟨2, 0⟩ = some (.intercepted ⟨3, 0⟩ (.direct 0) 0) ∧
      ((redeclared none).types.resolve 3 ⟨2, 0⟩).isSome = true ∧
      (redeclared none).types.resolve 3 ⟨3, 0⟩ = none ∧
      ((redeclared none).invoke 2 0 ⟨⟨2, 0⟩, []⟩ ⟨0, 3⟩ []).map (·.1) =
        some ⟨.ok (.int32 1), []⟩ ∧
      ((redeclared none).invoke 3 0 ⟨⟨2, 0⟩, []⟩ ⟨1, 4⟩ []).map (·.1) =
        some ⟨.error (.methodNotFound ⟨⟨3, 0⟩, []⟩ 3), []⟩ := by
  refine ⟨reachable_redeclared none, ?_, ?_, ?_, ?_, ?_, ?_, ?_, ?_, ?_, ?_⟩
  case refine_5 => constructor <;> decide +kernel
  all_goals with_unfolding_all rfl

/-- The class of the target declares the method anew, and answers two. -/
def overridden : Session := redeclared (some fun _ => .done (.ok (.int32 2)))

/-- With a body the new declaration is an override, and the answer to the old one
comes through the proxy. -/
theorem absorption_unobservable_override :
    ∃ direct proxied,
      overridden.invoke 2 0 ⟨⟨2, 0⟩, []⟩ ⟨0, 3⟩ [] = some direct ∧
      overridden.invoke 3 0 ⟨⟨2, 0⟩, []⟩ ⟨1, 4⟩ [] = some proxied ∧
      proxied.1 = ⟨.ok (.int32 2), []⟩ ∧ direct.2.SameEffect proxied.2 := by
  have stored : overridden.world.proxy? ⟨1, 4⟩ =
      some ⟨⟨4, 3, [], Universe.everything⟩, some ⟨0, 3⟩, some transparent⟩ := by
    with_unfolding_all rfl
  have isClass : overridden.types.isInterface 3 = false := by with_unfolding_all rfl
  have reached : overridden.types.isAssignable 3 3 = true := by with_unfolding_all rfl
  have declared : (Method.mk ⟨2, 0⟩ []).slot ∈
      overridden.types.slots (Method.mk ⟨2, 0⟩ []).parent := by
    decide +kernel
  have proxyable : overridden.types.isProxyable ⟨2, 0⟩ = true := by with_unfolding_all rfl
  have onChain : 2 ∈ overridden.types.chain 3 := by decide +kernel
  have closed : (Method.mk ⟨2, 0⟩ []).generics.length =
      (overridden.types.signature (Method.mk ⟨2, 0⟩ []).slot).arity := by
    with_unfolding_all rfl
  have intercepts : overridden.types.resolve 4 ⟨2, 0⟩ =
      some (.intercepted ⟨3, 0⟩ (.direct 0) 0) := by
    with_unfolding_all rfl
  have found : overridden.types.resolve 3 ⟨2, 0⟩ =
      some (.native fun _ => .done (.ok (.int32 2))) := by
    with_unfolding_all rfl
  have foundAnew : overridden.types.resolve 3 ⟨3, 0⟩ =
      some (.native fun _ => .done (.ok (.int32 2))) := by
    with_unfolding_all rfl
  have ends : (overridden.invoke 2 0 ⟨⟨2, 0⟩, []⟩ ⟨0, 3⟩ []).map (·.1) =
      some ⟨.ok (.int32 2), []⟩ := by
    with_unfolding_all rfl
  have fits : overridden.types.misfit? ⟨⟨2, 0⟩, []⟩
      (overridden.types.parameters ⟨⟨2, 0⟩, []⟩) [] = none := by
    with_unfolding_all rfl
  obtain ⟨carried, factory, _, _, _, ⟨⟨dispatch, handles⟩, mirrors⟩ | ⟨forwards, _⟩⟩ :=
    absorption_unobservable (reachable_redeclared _) stored rfl rfl isClass reached declared
      proxyable onChain closed
  · have same := Option.some.inj (intercepts.symm.trans handles)
    injection same with sameSlot
    subst sameSlot
    exact (mirrors rfl _ found foundAnew).delivered ends fits
  · cases intercepts.symm.trans forwards

end Session

end Interpose
