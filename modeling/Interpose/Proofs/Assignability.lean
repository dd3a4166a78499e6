/-
Module: Interpose.Proofs.Assignability
Purpose: Assignability as an order with the universal base type on top, and the one place where
  two of its steps do not make one.
Main exports: Universe.Detours, Universe.isAssignable_trans, Universe.isAssignable_trans_of_plain,
  Universe.fits_object_named, Universe.assignability_preorder
-/
import Interpose.Call
import Interpose.Proofs.ProxyTypes
import Interpose.Proofs.ThunkRuns

namespace Interpose.Universe

/-- The way from `a` to `c` comes by an interface `b` that extends a type, and goes on by
that type.  Walks along implemented types do not follow what an interface extends, so such
a way is open to the interface and to the types that extend it only. -/
structure Detours (u : Universe) (a b c : TypeId) : Prop where
  isInterface : u.isInterface b = true
  offChain : b ∉ u.chain a
  belowTop : c ≠ objectType
  extended : ∃ base, u.base b = some base ∧ u.isAssignable base c = true

section Order

variable {u : Universe} {a b c : TypeId}

theorem isAssignable_self (u : Universe) (id : TypeId) : u.isAssignable id id = true :=
  u.isAssignable_iff.mpr (.inr (.inl (u.mem_chain_self id)))

private theorem isAssignable_objectType (u : Universe) (id : TypeId) :
    u.isAssignable id objectType = true :=
  u.isAssignable_iff.mpr (.inl rfl)

/-- There is nothing above the universal base type. -/
private theorem eq_objectType_of_isAssignable (above : u.isAssignable objectType c = true) :
    c = objectType := by
  rcases u.isAssignable_iff.mp above with top | onChain | ⟨_, found⟩
  · exact top
  · rw [chain_objectType] at onChain
    exact List.mem_singleton.mp onChain
  · rw [allInterfaces_objectType] at found
    cases found

private theorem mem_allInterfaces_of_mem_chain (onChain : b ∈ u.chain a)
    (found : c ∈ u.allInterfaces b) :
    c ∈ u.allInterfaces a := by
  obtain ⟨ancestor, above, listed, isListed, reaches⟩ := u.mem_allInterfaces.mp found
  exact u.mem_allInterfaces.mpr
    ⟨ancestor, u.mem_chain_trans onChain above, listed, isListed, reaches⟩

/-- Where a type can go, every type that extends it can go. -/
theorem isAssignable_of_extends (onChain : b ∈ u.chain a) (further : u.isAssignable b c = true) :
    u.isAssignable a c = true := by
  rcases u.isAssignable_iff.mp further with rfl | above | ⟨isInterface, found⟩
  · exact u.isAssignable_objectType a
  · exact u.isAssignable_iff.mpr (.inr (.inl (u.mem_chain_trans onChain above)))
  · exact u.isAssignable_iff.mpr
      (.inr (.inr ⟨isInterface, mem_allInterfaces_of_mem_chain onChain found⟩))

/-- What is assignable stays so when types are added, also for what is not defined. -/
theorem Extends.isAssignable_of {later : Universe} (extended : u.Extends later)
    (assignable : u.isAssignable a b = true) : later.isAssignable a b = true := by
  by_cases defined : a < u.size
  · rw [extended.isAssignable_eq defined]
    exact assignable
  · have undefined := u.declaration_of_size_le (Nat.le_of_not_lt defined)
    have noBase : u.base a = none := congrArg (·.base) undefined
    have alone : u.chain a = [a] := by
      rw [u.chain_eq, noBase]
      rfl
    rcases u.isAssignable_iff.mp assignable with rfl | onChain | ⟨_, found⟩
    · exact later.isAssignable_objectType a
    · rw [alone] at onChain
      rw [List.mem_singleton.mp onChain]
      exact later.isAssignable_self a
    · obtain ⟨ancestor, above, listed, isListed, _⟩ := u.mem_allInterfaces.mp found
      rw [alone] at above
      rw [List.mem_singleton.mp above, interfaces, undefined] at isListed
      cases isListed

/-- What a type leads to goes on from itself or from the type that it extends. -/
private theorem isAssignable_split (further : u.isAssignable b c = true) :
    c = objectType ∨ c = b ∨
      (u.isInterface c = true ∧ ∃ listed ∈ u.interfaces b, u.Reaches listed c) ∨
      ∃ base, u.base b = some base ∧ u.isAssignable base c = true := by
  rcases u.isAssignable_iff.mp further with top | onChain | ⟨isInterface, found⟩
  · exact .inl top
  · rw [chain_eq] at onChain
    rcases List.mem_cons.mp onChain with same | above
    · exact .inr (.inl same)
    · cases extended : u.base b with
      | none =>
          rw [extended] at above
          cases above
      | some base =>
          rw [extended] at above
          exact .inr (.inr (.inr ⟨base, rfl, u.isAssignable_iff.mpr (.inr (.inl above))⟩))
  · obtain ⟨ancestor, onChain, listed, isListed, reaches⟩ := u.mem_allInterfaces.mp found
    rw [chain_eq] at onChain
    rcases List.mem_cons.mp onChain with rfl | above
    · exact .inr (.inr (.inl ⟨isInterface, listed, isListed, reaches⟩))
    · cases extended : u.base b with
      | none =>
          rw [extended] at above
          cases above
      | some base =>
          rw [extended] at above
          have inherited : c ∈ u.allInterfaces base :=
            u.mem_allInterfaces.mpr ⟨ancestor, above, listed, isListed, reaches⟩
          exact .inr (.inr (.inr
            ⟨base, rfl, u.isAssignable_iff.mpr (.inr (.inr ⟨isInterface, inherited⟩))⟩))

/-- Two steps make one unless they detour. -/
theorem isAssignable_trans (first : u.isAssignable a b = true) (second : u.isAssignable b c = true)
    (direct : ¬ u.Detours a b c) : u.isAssignable a c = true := by
  by_cases onChain : b ∈ u.chain a
  · exact isAssignable_of_extends onChain second
  by_cases top : c = objectType
  · rw [top]
    exact u.isAssignable_objectType a
  -- Off the chain `b` is the top itself or an implemented interface.
  rcases u.isAssignable_iff.mp first with rfl | impossible | ⟨isInterface, found⟩
  · exact absurd (eq_objectType_of_isAssignable second) top
  · exact absurd impossible onChain
  · rcases isAssignable_split second with impossible | rfl | ⟨interfaceAbove, step⟩ | extended
    · exact absurd impossible top
    · exact first
    · obtain ⟨listed, isListed, reaches⟩ := step
      obtain ⟨ancestor, above, implemented, isImplemented, reached⟩ := u.mem_allInterfaces.mp found
      have further : u.Reaches implemented c := reached.trans (.head isListed reaches)
      have inherited : c ∈ u.allInterfaces a :=
        u.mem_allInterfaces.mpr ⟨ancestor, above, implemented, isImplemented, further⟩
      exact u.isAssignable_iff.mpr (.inr (.inr ⟨interfaceAbove, inherited⟩))
    · exact absurd ⟨isInterface, onChain, top, extended⟩ direct

/-- Where interfaces extend nothing below the top there are no detours at all. -/
theorem isAssignable_trans_of_plain
    (plain : ∀ id base, u.isInterface id = true → u.base id = some base → base = objectType)
    (first : u.isAssignable a b = true) (second : u.isAssignable b c = true) :
    u.isAssignable a c = true := by
  refine isAssignable_trans first second ?_
  rintro ⟨isInterface, _, belowTop, base, extended, further⟩
  obtain rfl := plain b base isInterface extended
  exact belowTop (eq_objectType_of_isAssignable further)

end Order

/-! ### Values and receivers -/

section Uses

variable {u : Universe}

/-- A location of a defined type holds the objects whose type is assignable to it. -/
private theorem fits_object_named (u : Universe) (o : ObjectRef) (id : TypeId) :
    u.fits (.object o) (.named id) = u.isAssignable o.type id := by
  by_cases top : id = objectType
  · subst top
    rw [u.isAssignable_objectType]
    rfl
  · simp [fits, top, Value.isNull, Value.object?]

private theorem narrow_object_eq_ok_iff {o : ObjectRef} {id : TypeId} {v : Value} :
    u.narrow (.object o) (.named id) = .ok v ↔
      u.isAssignable o.type id = true ∧ v = .object o := by
  rw [narrow_eq_ok_iff, fits_object_named]

/-- A proxy takes the targets that are assignable to the type that it stands in for. -/
theorem isAssignable_of_setTarget {state changed : ProxyState} {target : ObjectRef}
    (placed : state.setTarget u (some target) = .ok changed) :
    u.isAssignable target.type state.proxyType.primary = true := by
  simp only [ProxyState.setTarget] at placed
  split at placed
  · assumption
  · cases placed

/-- A thunk begins with the cast of the receiver, which is passed by the objects whose type
is assignable to the declaring type. -/
private theorem exists_ops_after_cast {method : Method} {thunk : Thunk}
    (compiled : u.compile method = .ok thunk) {on : ObjectRef}
    (assignable : u.isAssignable on.type method.parent = true) :
    ∃ rest, thunk.ops = .cast method.parent :: rest ∧
      ∀ call arguments frame result w,
        Thunk.execute u call on thunk.method thunk.ops arguments frame result w =
          Thunk.execute u call on thunk.method rest arguments frame result w := by
  obtain rfl := u.eq_assemble_of_compile compiled
  refine ⟨_, rfl, ?_⟩
  intro call arguments frame result w
  exact if_pos assignable

end Uses

/-- Assignability is a preorder with the universal base type on top, but for detours by
what an interface extends.  So an object that a location of a type may hold is held by
locations of every type above, and a target that a proxy takes passes the receiver cast of
every method that is declared on a type above the primary one. -/
theorem assignability_preorder (u : Universe) :
    (∀ a, u.isAssignable a a = true ∧ u.isAssignable a objectType = true) ∧
    (∀ a b c, u.isAssignable a b = true → u.isAssignable b c = true → ¬ u.Detours a b c →
      u.isAssignable a c = true) ∧
    (∀ o b c v, u.narrow (.object o) (.named b) = .ok v → u.isAssignable b c = true →
      ¬ u.Detours o.type b c → u.narrow (.object o) (.named c) = .ok v) ∧
    ∀ (state changed : ProxyState) (target : ObjectRef) (method : Method) (thunk : Thunk),
      state.setTarget u (some target) = .ok changed →
      u.isAssignable state.proxyType.primary method.parent = true →
      ¬ u.Detours target.type state.proxyType.primary method.parent →
      u.compile method = .ok thunk →
      ∃ rest, thunk.ops = .cast method.parent :: rest ∧
        ∀ call arguments frame result w,
          Thunk.execute u call target thunk.method thunk.ops arguments frame result w =
            Thunk.execute u call target thunk.method rest arguments frame result w := by
  refine ⟨fun a => ⟨u.isAssignable_self a, u.isAssignable_objectType a⟩,
    fun a b c => isAssignable_trans, ?_, ?_⟩
  · intro o b c v narrowed above direct
    obtain ⟨held, same⟩ := narrow_object_eq_ok_iff.mp narrowed
    exact narrow_object_eq_ok_iff.mpr ⟨isAssignable_trans held above direct, same⟩
  · intro state changed target method thunk placed above direct compiled
    have accepted := isAssignable_of_setTarget placed
    exact exists_ops_after_cast compiled (isAssignable_trans accepted above direct)

/-- An interface that extends another one, a class that implements it, and a class that
extends that class. -/
def bridged : Universe :=
  let base := initial.define (TypeDeclaration.interface "IBase")
  let derived := base.define
    (((TypeDeclaration.interface "IDerived").extending 2).addMethod answer none)
  let sample := derived.define ((TypeDeclaration.ofClass "Sample").implementing 3)
  sample.define ((TypeDeclaration.ofClass "Further").extending 4)

/-- An object of the last class is held where the interface is wanted, and as the target of
a proxy of the first class it takes calls of the interface. -/
theorem assignability_preorder_bridged :
    bridged.isAssignable 5 3 = true ∧
      bridged.narrow (.object ⟨0, 5⟩) (.named 3) = .ok (.object ⟨0, 5⟩) ∧
      ∃ rest, (Thunk.assemble bridged ⟨⟨3, 0⟩, []⟩).ops = .cast 3 :: rest := by
  obtain ⟨_, transitive, monotone, castable⟩ := assignability_preorder bridged
  have direct : ¬ bridged.Detours 5 4 3 := by
    intro detour
    have isClass : bridged.isInterface 4 = false := by with_unfolding_all rfl
    exact Bool.false_ne_true (isClass.symm.trans detour.isInterface)
  have first : bridged.isAssignable 5 4 = true := by with_unfolding_all rfl
  have second : bridged.isAssignable 4 3 = true := by with_unfolding_all rfl
  have narrowed : bridged.narrow (.object ⟨0, 5⟩) (.named 4) = .ok (.object ⟨0, 5⟩) := by
    with_unfolding_all rfl
  have placed : ProxyState.setTarget bridged ⟨⟨6, 4, [], everything⟩, none, none⟩ (some ⟨0, 5⟩) =
      .ok ⟨⟨6, 4, [], everything⟩, some ⟨0, 5⟩, none⟩ := by with_unfolding_all rfl
  have compiled : bridged.compile ⟨⟨3, 0⟩, []⟩ = .ok (.assemble bridged ⟨⟨3, 0⟩, []⟩) := by
    with_unfolding_all rfl
  obtain ⟨rest, ops, _⟩ := castable _ _ ⟨0, 5⟩ ⟨⟨3, 0⟩, []⟩ _ placed second direct compiled
  exact ⟨transitive 5 4 3 first second direct,
    monotone ⟨0, 5⟩ 4 3 _ narrowed second direct, rest, ops⟩

/-- The class is assignable to the interface that it implements, and that to the interface
that it extends, but the class is not. -/
theorem assignability_not_transitive :
    bridged.isAssignable 4 3 = true ∧ bridged.isAssignable 3 2 = true ∧
      bridged.isAssignable 4 2 = false :=
  ⟨by with_unfolding_all rfl, by with_unfolding_all rfl, by with_unfolding_all rfl⟩

end Interpose.Universe
