/-
Module: Interpose.Proofs.ParallelWorlds
Purpose: Worlds that differ in what their factories have cached only, and the steps that keep
  them so.
Main exports: World.Grows, World.Alike, World.Parallel, World.parallel_of_factories,
  World.parallel_onFactory
-/
import Mathlib.Tactic.ByContra
import Interpose.Call
import Interpose.Proofs.Members

namespace Interpose

/-! ### Worlds that grow -/

/-- What calls do to a world: factories only add to what they hold and make no
proxy types, and no object becomes a proxy or one of another type. -/
structure World.Grows (w later : World) : Prop where
  factories : ∀ id, (w.factory id).Grows (later.factory id)
  proxyTypes : ∀ id, (later.factory id).proxyTypes = (w.factory id).proxyTypes
  proxies : ∀ o after, later.proxy? o = some after →
    ∃ before, w.proxy? o = some before ∧ before.proxyType = after.proxyType

namespace World.Grows

theorem refl (w : World) : w.Grows w :=
  ⟨fun _ => .refl _, fun _ => rfl, fun _ after held => ⟨after, held, rfl⟩⟩

theorem trans {w later further : World} (first : w.Grows later) (second : later.Grows further) :
    w.Grows further where
  factories := fun id => (first.factories id).trans (second.factories id)
  proxyTypes := fun id => (second.proxyTypes id).trans (first.proxyTypes id)
  proxies := by
    intro o after held
    obtain ⟨between, found, same⟩ := second.proxies o after held
    obtain ⟨before, first, sameBefore⟩ := first.proxies o between found
    exact ⟨before, first, sameBefore.trans same⟩

/-- A change that leaves the factories alone. -/
theorem of_factories {w later : World} (factories : later.factories = w.factories)
    (proxies : ∀ o after, later.proxy? o = some after →
      ∃ before, w.proxy? o = some before ∧ before.proxyType = after.proxyType) :
    w.Grows later where
  factories := by
    intro id
    unfold World.factory
    rw [factories]
    exact .refl _
  proxyTypes := by
    intro id
    unfold World.factory
    rw [factories]
  proxies := proxies

end World.Grows

/-! ### Worlds that are alike -/

/-- A dispatch proceeds to the same method in two factories. -/
def Dispatch.Alike (f other : Factory) : Dispatch → Prop
  | .direct entry => entry < f.entries.size ∧ entry < other.entries.size ∧
      (f.entry entry).method = (other.entry entry).method
  | .generic cache => cache < f.specializationCaches.size ∧
      cache < other.specializationCaches.size ∧
      (f.specializationCache cache).slot = (other.specializationCache cache).slot

/-- What an intercepted body proceeds to is the same in two worlds. -/
def MethodBody.Alike (w other : World) : MethodBody → Prop
  | .intercepted _ dispatch factory => dispatch.Alike (w.factory factory) (other.factory factory)
  | _ => True

/-- A native body proceeds to nothing that a world holds. -/
theorem MethodBody.alike_of_mem_native {run : MethodRun} {body : MethodBody} {w other : World}
    (held : body ∈ [MethodBody.native run]) : body.Alike w other := by
  obtain rfl := List.mem_singleton.mp held
  trivial

/-- Two worlds that differ in their factories only, and there in nothing that a
call can tell: the caches are right, and the bodies of the types proceed to the
same methods. -/
structure World.Alike (u : Universe) (w other : World) : Prop where
  objects : w.objects = other.objects
  scope : w.scope = other.scope
  journal : w.journal = other.journal
  coherent : ∀ id, (w.factory id).Coherent u
  coherentOther : ∀ id, (other.factory id).Coherent u
  bodies : ∀ type, ∀ body ∈ (u.declaration type).bodies, body.Alike w other

/-- Two worlds after the same steps from two others. -/
structure World.Parallel (u : Universe) (start startOther w other : World) : Prop where
  alike : w.Alike u other
  grows : start.Grows w
  growsOther : startOther.Grows other

/-- Two intercepted calls that differ in the entries that they proceed with only. -/
structure Interception.Alike (w other : World) (one two : Interception) : Prop where
  method : one.method = two.method
  target : one.target = two.target
  slots : one.slots = two.slots
  factory : one.factory = two.factory
  dispatch : one.entry < (w.factory one.factory).entries.size ∧
    two.entry < (other.factory two.factory).entries.size ∧
    ((w.factory one.factory).entry one.entry).method =
      ((other.factory two.factory).entry two.entry).method

/-- Two outcomes of the same step from two worlds. -/
def World.SameOutcome {α : Type} (u : Universe) (w other : World) (one two : α × World) : Prop :=
  one.1 = two.1 ∧ World.Parallel u w other one.2 two.2

/-- Factories that only add go on proceeding to the same method. -/
theorem Dispatch.Alike.grow {f other later laterOther : Factory} {dispatch : Dispatch}
    (alike : dispatch.Alike f other) (grows : f.Grows later)
    (growsOther : other.Grows laterOther) : dispatch.Alike later laterOther := by
  cases dispatch with
  | direct entry =>
      obtain ⟨known, knownOther, same⟩ := alike
      refine ⟨Nat.lt_of_lt_of_le known grows.entries,
        Nat.lt_of_lt_of_le knownOther growsOther.entries, ?_⟩
      rw [grows.methods entry known, growsOther.methods entry knownOther, same]
  | generic cache =>
      obtain ⟨known, knownOther, same⟩ := alike
      refine ⟨Nat.lt_of_lt_of_le known grows.caches,
        Nat.lt_of_lt_of_le knownOther growsOther.caches, ?_⟩
      rw [grows.slots cache known, growsOther.slots cache knownOther, same]

theorem MethodBody.Alike.grow {w other later laterOther : World} {body : MethodBody}
    (alike : body.Alike w other) (grow : ∀ id, (w.factory id).Grows (later.factory id))
    (growOther : ∀ id, (other.factory id).Grows (laterOther.factory id)) :
    body.Alike later laterOther := by
  cases body with
  | intercepted slot dispatch factory =>
      exact Dispatch.Alike.grow alike (grow factory) (growOther factory)
  | _ => trivial

/-- An intercepted call that is under way goes on proceeding to the same method while factories add
to what they hold. -/
theorem Interception.Alike.grow {w other later laterOther : World} {one two : Interception}
    (alike : Interception.Alike w other one two) (grows : w.Grows later)
    (growsOther : other.Grows laterOther) : Interception.Alike later laterOther one two := by
  obtain ⟨known, knownOther, same⟩ := alike.dispatch
  have growsFactory := grows.factories one.factory
  have growsFactoryOther := growsOther.factories two.factory
  refine ⟨alike.method, alike.target, alike.slots, alike.factory,
    Nat.lt_of_lt_of_le known growsFactory.entries,
    Nat.lt_of_lt_of_le knownOther growsFactoryOther.entries, ?_⟩
  rw [growsFactory.methods _ known, growsFactoryOther.methods _ knownOther, same]

namespace World

variable {u : Universe} {w other later laterOther start startOther : World}

theorem Parallel.refl (alike : w.Alike u other) : Parallel u w other w other :=
  ⟨alike, .refl w, .refl other⟩

theorem Parallel.trans (first : Parallel u start startOther w other)
    (second : Parallel u w other later laterOther) :
    Parallel u start startOther later laterOther :=
  ⟨second.alike, first.grows.trans second.grows, first.growsOther.trans second.growsOther⟩

/-- Outcomes of a later step are outcomes of all the steps. -/
theorem rel_outcome_trans {α : Type} {one two : Option (α × World)}
    (first : Parallel u start startOther w other)
    (second : Option.Rel (SameOutcome u w other) one two) :
    Option.Rel (SameOutcome u start startOther) one two := by
  cases second with
  | none => exact .none
  | some same => exact .some ⟨same.1, first.trans same.2⟩

theorem proxy?_eq (objects : w.objects = other.objects) (o : ObjectRef) :
    w.proxy? o = other.proxy? o := by
  unfold proxy? state?
  rw [objects]

theorem tag?_eq (objects : w.objects = other.objects) (o : ObjectRef) :
    w.tag? o = other.tag? o := by
  unfold tag? state?
  rw [objects]

theorem cell?_eq (objects : w.objects = other.objects) (o : ObjectRef) (key : String) :
    w.cell? o key = other.cell? o key := by
  unfold cell? state?
  rw [objects]

/-- The same change to everything but the factories keeps worlds alike. -/
theorem parallel_of_factories (alike : w.Alike u other)
    (factories : later.factories = w.factories)
    (factoriesOther : laterOther.factories = other.factories)
    (objects : later.objects = laterOther.objects) (scope : later.scope = laterOther.scope)
    (journal : later.journal = laterOther.journal)
    (proxies : ∀ o after, later.proxy? o = some after →
      ∃ before, w.proxy? o = some before ∧ before.proxyType = after.proxyType) :
    Parallel u w other later laterOther := by
  have proxiesOther : ∀ o after, laterOther.proxy? o = some after →
      ∃ before, other.proxy? o = some before ∧ before.proxyType = after.proxyType := by
    intro o after held
    rw [← proxy?_eq objects] at held
    rw [← proxy?_eq alike.objects]
    exact proxies o after held
  have grows : w.Grows later := .of_factories factories proxies
  have growsOther : other.Grows laterOther := .of_factories factoriesOther proxiesOther
  refine ⟨⟨objects, scope, journal, ?_, ?_, ?_⟩, grows, growsOther⟩
  · unfold World.factory
    rw [factories]
    exact alike.coherent
  · unfold World.factory
    rw [factoriesOther]
    exact alike.coherentOther
  · intro type body member
    exact (alike.bodies type body member).grow grows.factories growsOther.factories

/-! ### Operations of a factory -/

/-- Putting a factory in place changes that factory, if it is there, and no other. -/
theorem factory_putFactory (w : World) (id other : FactoryId) (f : Factory) :
    (w.putFactory id f).factory other =
      if id = other ∧ id < w.factories.size then f else w.factory other := by
  unfold World.factory putFactory
  rw [Array.getElem?_modify]
  by_cases same : id = other
  · subst same
    by_cases known : id < w.factories.size <;> simp [known]
  · simp [same]

theorem factories_putFactory {id : FactoryId} {f : Factory} (grows : (w.factory id).Grows f) :
    ∀ other, (w.factory other).Grows ((w.putFactory id f).factory other) := by
  intro other
  rw [factory_putFactory]
  split
  · rename_i hit
    rw [← hit.1]
    exact grows
  · exact .refl _

/-- A world grows when one of its factories is put back after an operation. -/
theorem grows_putFactory {id : FactoryId} {f : Factory} (evolved : (w.factory id).Evolves u f) :
    w.Grows (w.putFactory id f) where
  factories := factories_putFactory evolved.grows
  proxyTypes := by
    intro other
    rw [factory_putFactory]
    split
    · rename_i hit
      rw [← hit.1]
      exact evolved.proxyTypes
    · rfl
  proxies := fun _ after held => ⟨after, held, rfl⟩

theorem coherent_putFactory {id : FactoryId} {f : Factory} (coherent : f.Coherent u)
    (others : ∀ id, (w.factory id).Coherent u) :
    ∀ other, ((w.putFactory id f).factory other).Coherent u := by
  intro other
  rw [factory_putFactory]
  split
  · exact coherent
  · exact others other

theorem lt_of_lt_caches {id : FactoryId} {cache : CacheId}
    (known : cache < (w.factory id).specializationCaches.size) : id < w.factories.size := by
  by_contra absent
  unfold World.factory at known
  rw [Array.getElem?_eq_none (Nat.le_of_not_lt absent)] at known
  exact Nat.not_lt_zero _ known

theorem factory_of_size_le {id : FactoryId} (absent : w.factories.size ≤ id) :
    w.factory id = default := by
  unfold World.factory
  rw [Array.getElem?_eq_none absent]
  rfl

theorem factory_addFactory (w : World) (config : Config) (id : FactoryId) :
    (w.addFactory config).2.factory id =
      if id = w.factories.size then .ofConfig config else w.factory id := by
  unfold World.factory addFactory
  rw [Array.getElem?_push]
  split <;> rfl

theorem factory_onFactory {α : Type} {id : FactoryId} (operation : Factory → α × Factory)
    (known : id < w.factories.size) :
    (w.onFactory id operation).2.factory id = (operation (w.factory id)).2 := by
  have stored := factory_putFactory w id id (operation (w.factory id)).2
  rw [if_pos ⟨rfl, known⟩] at stored
  exact stored

/-- Operations that keep factories coherent keep worlds alike, whatever the
factories of the two worlds have cached. -/
theorem parallel_onFactory {α β : Type} (alike : w.Alike u other) (id : FactoryId)
    {operation : Factory → α × Factory} {operationOther : Factory → β × Factory}
    (evolved : (w.factory id).Evolves u (operation (w.factory id)).2)
    (evolvedOther : (other.factory id).Evolves u (operationOther (other.factory id)).2) :
    Parallel u w other (w.onFactory id operation).2 (other.onFactory id operationOther).2 := by
  have grows := grows_putFactory evolved
  have growsOther := grows_putFactory evolvedOther
  refine ⟨⟨alike.objects, alike.scope, alike.journal, ?_, ?_, ?_⟩, grows, growsOther⟩
  · exact coherent_putFactory evolved.coherent alike.coherent
  · exact coherent_putFactory evolvedOther.coherent alike.coherentOther
  · intro type body member
    exact (alike.bodies type body member).grow grows.factories growsOther.factories

/-- An operation on a factory of one world alone keeps worlds alike too. -/
theorem parallel_onFactory_alone {α : Type} (alike : w.Alike u other) (id : FactoryId)
    {operation : Factory → α × Factory}
    (evolved : (other.factory id).Evolves u (operation (other.factory id)).2) :
    Parallel u w other w (other.onFactory id operation).2 := by
  have grows := grows_putFactory evolved
  refine ⟨⟨alike.objects, alike.scope, alike.journal, alike.coherent, ?_, ?_⟩, .refl w, grows⟩
  · exact coherent_putFactory evolved.coherent alike.coherentOther
  · intro type body member
    exact (alike.bodies type body member).grow (fun _ => .refl _) grows.factories

/-- Counting something changes nothing that a call can tell. -/
theorem parallel_count (alike : w.Alike u other) (id : FactoryId) {count : Factory → Factory}
    (counts : ∀ f : Factory, f.Coherent u → f.Evolves u (count f)) :
    Parallel u w other (w.onFactory id fun f => ((), count f)).2
      (other.onFactory id fun f => ((), count f)).2 :=
  parallel_onFactory alike id (counts _ (alike.coherent id)) (counts _ (alike.coherentOther id))

/-! ### Changes to objects -/

theorem proxy?_create_eq (w : World) (type : TypeId) (tag : String) (o : ObjectRef) :
    (w.create type tag).2.proxy? o = w.proxy? o := by
  unfold proxy? state? create allocate
  rw [Array.getElem?_push]
  by_cases last : o.id = w.objects.size
  · simp [last]
  · simp [last]

/-- A new proxy has the next identity, and every other object is what it was. -/
theorem proxy?_createProxy_eq (w : World) (state : ProxyState) (o : ObjectRef) :
    (w.createProxy state).2.proxy? o =
      if o.id = w.objects.size then some state else w.proxy? o := by
  unfold proxy? state? createProxy allocate
  rw [Array.getElem?_push]
  by_cases last : o.id = w.objects.size
  · rw [if_pos last, if_pos last]
  · rw [if_neg last, if_neg last]

theorem proxy?_setCell_eq (w : World) (on o : ObjectRef) (key : String) (v : Value) :
    (w.setCell on key v).proxy? o = w.proxy? o := by
  unfold proxy? state? setCell
  rw [Array.getElem?_modify]
  by_cases same : on.id = o.id
  · rw [if_pos same]
    rcases w.objects[o.id]? with _ | ⟨tag, cells⟩ | state <;> rfl
  · rw [if_neg same]

/-- Putting the state of a proxy changes that object, if it is there, and no other. -/
theorem proxy?_putProxy_eq (w : World) (on o : ObjectRef) (state : ProxyState) :
    (w.putProxy on state).proxy? o =
      if on.id = o.id ∧ o.id < w.objects.size then some state else w.proxy? o := by
  unfold proxy? state? putProxy
  rw [Array.getElem?_modify]
  by_cases same : on.id = o.id
  · by_cases known : o.id < w.objects.size <;> simp [same, known]
  · simp [same]

theorem proxy?_create {type : TypeId} {tag : String} {o : ObjectRef} {after : ProxyState}
    (held : (w.create type tag).2.proxy? o = some after) : w.proxy? o = some after := by
  rwa [proxy?_create_eq] at held

theorem proxy?_createProxy {state after : ProxyState} {o : ObjectRef}
    (held : (w.createProxy state).2.proxy? o = some after) :
    w.proxy? o = some after ∨ after = state := by
  rw [proxy?_createProxy_eq] at held
  split at held
  · exact .inr (Option.some.inj held).symm
  · exact .inl held

theorem proxy?_setCell {on o : ObjectRef} {key : String} {v : Value} {after : ProxyState}
    (held : (w.setCell on key v).proxy? o = some after) : w.proxy? o = some after := by
  rwa [proxy?_setCell_eq] at held

/-- A state that is found after one was put is that one, or was there before. -/
theorem proxy?_putProxy {on o : ObjectRef} {state after : ProxyState}
    (held : (w.putProxy on state).proxy? o = some after) :
    w.proxy? o = some after ∨ (on.id = o.id ∧ after = state) := by
  rw [proxy?_putProxy_eq] at held
  split at held
  · rename_i hit
    exact .inr ⟨hit.1, (Option.some.inj held).symm⟩
  · exact .inl held

/-- A proxy keeps its type when its target is changed. -/
theorem proxyType_setTarget {state changed : ProxyState} {target : Option ObjectRef}
    (placed : state.setTarget u target = .ok changed) : changed.proxyType = state.proxyType := by
  unfold ProxyState.setTarget at placed
  split at placed
  · obtain rfl := Except.ok.inj placed
    rfl
  · split at placed
    · obtain rfl := Except.ok.inj placed
      rfl
    · cases placed

/-- Another target leaves a proxy one of its type. -/
theorem proxy?_setTarget {on o : ObjectRef} {target : Option ObjectRef} {after : ProxyState}
    (held : (w.setTarget u on target).2.proxy? o = some after) :
    ∃ before, w.proxy? o = some before ∧ before.proxyType = after.proxyType := by
  unfold setTarget at held
  split at held
  · exact ⟨after, held, rfl⟩
  · rename_i state found
    split at held
    · exact ⟨after, held, rfl⟩
    · rename_i changed succeeds
      rcases proxy?_putProxy held with same | ⟨sameId, rfl⟩
      · exact ⟨after, same, rfl⟩
      · refine ⟨state, ?_, ?_⟩
        · unfold proxy? state? at found ⊢
          rw [← sameId]
          exact found
        · exact (proxyType_setTarget succeeds).symm

end World

end Interpose
