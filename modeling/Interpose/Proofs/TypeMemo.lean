/-
Module: Interpose.Proofs.TypeMemo
Purpose: The type cache of a factory remembers what was built, under what it was built for.
Main exports: Inquiry, Inquiry.Builds, Inquiry.Memoizes, Session.Recalls, Session.Remembers,
  Session.proxy_types_memoized
-/
import Interpose.Proofs.Accounting

namespace Interpose

/-! ### Requests and what comes of them -/

/-- A factory that has counted so many misses of its type cache. -/
def Factory.withMisses (f : Factory) (misses : Nat) : Factory :=
  { f with counters.proxyTypeMisses := misses }

/-- A request for a proxy type, with the session that it was made to. -/
structure Inquiry where
  session : Session
  factory : FactoryId
  request : TypeRequest
  descriptor : Descriptor

namespace Inquiry

/-- What the request was answered. -/
def answer (i : Inquiry) : Except Fault ProxyType :=
  (i.session.requestProxyType i.factory i.request i.descriptor).1

/-- The session that the request left. -/
def after (i : Inquiry) : Session :=
  (i.session.requestProxyType i.factory i.request i.descriptor).2

def memo (i : Inquiry) : Table DescriptorKey ProxyType :=
  (i.session.world.factory i.factory).proxyTypes

def memoAfter (i : Inquiry) : Table DescriptorKey ProxyType :=
  (i.after.world.factory i.factory).proxyTypes

/-- The request went through the type cache of the factory. -/
def Cached (i : Inquiry) : Prop := i.session.asksCache i.factory i.request = true

/-- The builder ran for the request: the answer, and the types that there are afterwards,
are what it makes of the descriptor in the factory, which may have counted a miss before. -/
def Builds (i : Inquiry) : Prop :=
  ∃ misses after, i.session.types.synthesize i.factory i.descriptor
    ((i.session.world.factory i.factory).withMisses misses) = (i.answer, i.after.types, after)

/-- Two requests went through the type cache of one factory, with equal descriptors. -/
structure Repeats (i j : Inquiry) : Prop where
  cached : i.Cached
  cachedOther : j.Cached
  factory : i.factory = j.factory
  key : i.descriptor.key = j.descriptor.key

/-- How a request ends: with a type that the cache holds, with a fault, or with a new type,
which enters the cache if the request went through it. -/
inductive Ends (i : Inquiry) : Prop where
  | found (proxyType : ProxyType) (cached : i.Cached)
      (held : i.memo.find? i.descriptor.key = some proxyType)
      (answer : i.answer = .ok proxyType) (types : i.after.types = i.session.types)
      (memo : i.memoAfter = i.memo)
  | failed (fault : Fault) (absent : i.Cached → i.memo.find? i.descriptor.key = none)
      (answer : i.answer = .error fault) (types : i.after.types = i.session.types)
      (memo : i.memoAfter = i.memo) (builds : i.Cached → i.Builds)
  | built (absent : i.Cached → i.memo.find? i.descriptor.key = none)
      (answer : i.answer = .ok ⟨i.session.types.size, i.descriptor⟩)
      (types : i.after.types.size = i.session.types.size + 1) (builds : i.Builds)
      (stored : i.Cached → i.memoAfter =
        i.memo.insert i.descriptor.key ⟨i.session.types.size, i.descriptor⟩)
      (unstored : ¬ i.Cached → i.memoAfter = i.memo)

end Inquiry

/-! ### The builder -/

/-- The builder fails and leaves the types, or defines the next type; the types that the
factory holds it leaves. -/
private theorem Universe.synthesize_cases {u : Universe} (id : FactoryId) (descriptor : Descriptor)
    {f : Factory} (coherent : f.Coherent u) :
    (∃ fault after, u.synthesize id descriptor f = (.error fault, u, after) ∧
        after.proxyTypes = f.proxyTypes) ∨
      ∃ types after, u.synthesize id descriptor f = (.ok ⟨u.size, descriptor⟩, types, after) ∧
        types.size = u.size + 1 ∧ after.proxyTypes = f.proxyTypes := by
  have kept := (u.evolves_synthesize id descriptor coherent).proxyTypes
  cases made : u.synthesize id descriptor f with
  | mk result rest =>
      obtain ⟨types, after⟩ := rest
      rw [made] at kept
      cases result with
      | error fault =>
          obtain rfl := u.types_of_synthesize_error made
          exact .inl ⟨fault, after, rfl, kept⟩
      | ok proxyType =>
          obtain ⟨_, declaration, _, rfl, rfl, _⟩ := u.assembly_of_synthesize made
          exact .inr ⟨_, after, rfl, by simp [Universe.size, Universe.define], kept⟩

/-! ### The builder and the cache -/

/-- A type that the cache holds is the answer. -/
private theorem Universe.cachedProxyType_of_held {u : Universe} {id : FactoryId}
    {descriptor : Descriptor} {f : Factory} {proxyType : ProxyType}
    (held : f.proxyTypes.find? descriptor.key = some proxyType) :
    u.cachedProxyType id descriptor f =
      (.ok proxyType, u, { f with counters.proxyTypeHits := f.counters.proxyTypeHits + 1 }) := by
  unfold cachedProxyType
  rw [held]

/-- What the cache does not hold is built, and stored if that succeeds. -/
private theorem Universe.cachedProxyType_of_absent {u : Universe} {id : FactoryId}
    {descriptor : Descriptor} {f : Factory} (absent : f.proxyTypes.find? descriptor.key = none) :
    u.cachedProxyType id descriptor f =
      match u.synthesize id descriptor (f.withMisses (f.counters.proxyTypeMisses + 1)) with
      | (.error fault, later, after) => (.error fault, later, after)
      | (.ok proxyType, later, after) =>
          (.ok proxyType, later,
            { after with proxyTypes := after.proxyTypes.insert descriptor.key proxyType }) := by
  unfold cachedProxyType
  rw [absent]
  rfl

namespace Inquiry

variable {i : Inquiry}

/-- What a factory makes of a request is answered and stored. -/
theorem of_outcome (known : i.factory < i.session.world.factories.size)
    {outcome : Except Fault ProxyType × Universe × Factory}
    (asked : i.session.requestProxyType i.factory i.request i.descriptor =
      (outcome.1, { i.session with
        types := outcome.2.1, world := i.session.world.putFactory i.factory outcome.2.2 })) :
    i.answer = outcome.1 ∧ i.after.types = outcome.2.1 ∧
      i.memoAfter = outcome.2.2.proxyTypes := by
  unfold answer memoAfter after
  rw [asked, World.factory_putFactory, if_pos ⟨rfl, known⟩]
  exact ⟨rfl, rfl, rfl⟩

/-- Past the cache the builder answers. -/
private theorem ends_of_synthesize (known : i.factory < i.session.world.factories.size)
    (coherent : (i.session.world.factory i.factory).Coherent i.session.types)
    (uncached : ¬ i.Cached)
    (asked : i.session.requestProxyType i.factory i.request i.descriptor =
      let outcome := i.session.types.synthesize i.factory i.descriptor
        (i.session.world.factory i.factory)
      (outcome.1, { i.session with
        types := outcome.2.1, world := i.session.world.putFactory i.factory outcome.2.2 })) :
    i.Ends := by
  obtain ⟨answer, types, memo⟩ := of_outcome known asked
  rcases Universe.synthesize_cases i.factory i.descriptor coherent with
    ⟨fault, after, made, kept⟩ | ⟨later, after, made, next, kept⟩
  · rw [made] at answer types memo
    exact .failed fault (fun cached => absurd cached uncached) answer types (memo.trans kept)
      fun cached => absurd cached uncached
  · rw [made] at answer types memo
    have builds : i.Builds :=
      ⟨(i.session.world.factory i.factory).counters.proxyTypeMisses, after, by
        rw [answer, types]
        exact made⟩
    exact .built (fun cached => absurd cached uncached) answer ((congrArg _ types).trans next)
      builds (fun cached => absurd cached uncached) fun _ => memo.trans kept

/-- Through the cache the builder answers if the cache does not. -/
private theorem ends_of_cachedProxyType (known : i.factory < i.session.world.factories.size)
    (coherent : (i.session.world.factory i.factory).Coherent i.session.types)
    (cached : i.Cached)
    (asked : i.session.requestProxyType i.factory i.request i.descriptor =
      let outcome := i.session.types.cachedProxyType i.factory i.descriptor
        (i.session.world.factory i.factory)
      (outcome.1, { i.session with
        types := outcome.2.1, world := i.session.world.putFactory i.factory outcome.2.2 })) :
    i.Ends := by
  obtain ⟨answer, types, memo⟩ := of_outcome known asked
  cases held : i.memo.find? i.descriptor.key with
  | some proxyType =>
      rw [Universe.cachedProxyType_of_held held] at answer types memo
      exact .found proxyType cached held answer types memo
  | none =>
      have missed : Factory.Coherent i.session.types
          ((i.session.world.factory i.factory).withMisses
            ((i.session.world.factory i.factory).counters.proxyTypeMisses + 1)) :=
        coherent.of_same rfl rfl rfl
      rw [Universe.cachedProxyType_of_absent held] at answer types memo
      rcases Universe.synthesize_cases i.factory i.descriptor missed with
        ⟨fault, after, made, kept⟩ | ⟨later, after, made, next, kept⟩
      · simp only [made] at answer types memo
        have builds : i.Builds := ⟨_, after, by
          rw [answer, types]
          exact made⟩
        exact .failed fault (fun _ => held) answer types (memo.trans kept) fun _ => builds
      · simp only [made] at answer types memo
        have builds : i.Builds := ⟨_, after, by
          rw [answer, types]
          exact made⟩
        have stored : i.memoAfter =
            i.memo.insert i.descriptor.key ⟨i.session.types.size, i.descriptor⟩ := by
          rw [memo, kept]
          rfl
        exact .built (fun _ => held) answer ((congrArg _ types).trans next) builds
          (fun _ => stored) fun uncached => absurd cached uncached

/-- Every request ends in one of these ways. -/
theorem ends (sound : i.session.Sound) (known : i.factory < i.session.world.factories.size) :
    i.Ends := by
  have coherent := sound.coherent i.factory
  obtain ⟨s, id, request, descriptor⟩ := i
  cases request with
  | lazyTargets =>
      have uncached : ¬ Cached ⟨s, id, .lazyTargets, descriptor⟩ := by
        simp [Cached, Session.asksCache]
      exact .failed (.lazyTarget descriptor.primary) (fun cached => absurd cached uncached) rfl rfl
        rfl fun cached => absurd cached uncached
  | fresh =>
      have uncached : ¬ Cached ⟨s, id, .fresh, descriptor⟩ := by simp [Cached, Session.asksCache]
      exact ends_of_synthesize known coherent uncached rfl
  | cached =>
      cases caches : (s.world.factory id).config.cacheProxyTypes with
      | true =>
          have cached : Cached ⟨s, id, .cached, descriptor⟩ := by
            simp [Cached, Session.asksCache, caches]
          refine ends_of_cachedProxyType known coherent cached ?_
          simp only [Session.requestProxyType, Universe.proxyTypeFor, caches, if_true]
      | false =>
          have uncached : ¬ Cached ⟨s, id, .cached, descriptor⟩ := by
            simp [Cached, Session.asksCache, caches]
          refine ends_of_synthesize known coherent uncached ?_
          simp [Session.requestProxyType, Universe.proxyTypeFor, caches]

/-- What the builder makes for a request is the next type, for the descriptor asked for. -/
theorem Builds.eq {proxyType : ProxyType} (builds : i.Builds)
    (answer : i.answer = .ok proxyType) :
    proxyType = ⟨i.session.types.size, i.descriptor⟩ := by
  obtain ⟨misses, after, made⟩ := builds
  rw [answer] at made
  obtain ⟨_, _, _, same, _⟩ := i.session.types.assembly_of_synthesize made
  exact same

namespace Ends

variable (ends : i.Ends)

include ends

/-- A request that goes through the cache and finds its key is answered by what is held, and no type
is defined. -/
private theorem of_held {proxyType : ProxyType} (cached : i.Cached)
    (held : i.memo.find? i.descriptor.key = some proxyType) :
    i.answer = .ok proxyType ∧ i.after.types = i.session.types := by
  cases ends with
  | found other _ found answer types _ =>
      obtain rfl := Option.some.inj (found.symm.trans held)
      exact ⟨answer, types⟩
  | failed _ absent => cases (absent cached).symm.trans held
  | built absent => cases (absent cached).symm.trans held

/-- A request that goes through the cache and does not find its key has the builder run; a fault is
not stored. -/
private theorem of_absent (cached : i.Cached) (absent : i.memo.find? i.descriptor.key = none) :
    i.Builds ∧ ∀ fault, i.answer = .error fault → i.memoAfter = i.memo := by
  cases ends with
  | found _ _ held => cases absent.symm.trans held
  | failed _ _ _ _ memo builds => exact ⟨builds cached, fun _ _ => memo⟩
  | built _ answer _ builds =>
      exact ⟨builds, fun _ failed => by cases answer.symm.trans failed⟩

private theorem of_uncached {proxyType : ProxyType} (uncached : ¬ i.Cached)
    (answer : i.answer = .ok proxyType) : i.Builds := by
  cases ends with
  | found _ cached => exact absurd cached uncached
  | failed _ _ failed => cases failed.symm.trans answer
  | built _ _ _ builds => exact builds

end Ends

/-- How a request is answered in view of the earlier ones. -/
structure Memoizes (i : Inquiry) (earlier : List Inquiry) : Prop where
  /-- Two requests of one cache get one type exactly if their descriptors are equal. -/
  same : ∀ j ∈ earlier, i.Cached → j.Cached → i.factory = j.factory →
    ∀ p q, i.answer = .ok p → j.answer = .ok q →
      (p = q ↔ i.descriptor.key = j.descriptor.key) ∧ (p.type = q.type → p = q)
  /-- The type was built for an equal descriptor. -/
  origin : i.Cached → ∀ p, i.answer = .ok p →
    ∃ j ∈ i :: earlier, i.Repeats j ∧ j.Builds ∧ j.answer = .ok p ∧ p.descriptor = j.descriptor
  /-- What was built is not built again. -/
  once : ∀ j ∈ earlier, i.Repeats j → ∀ p, j.answer = .ok p →
    i.answer = .ok p ∧ ¬ i.Builds ∧ i.after.types = i.session.types
  /-- What was not built is built. -/
  builds : i.Cached → (∀ j ∈ earlier, i.Repeats j → ∀ p, j.answer ≠ .ok p) → i.Builds
  /-- A request that fails leaves no type in the cache. -/
  failed : i.Cached → ∀ fault, i.answer = .error fault →
    i.memoAfter.find? i.descriptor.key = none
  /-- Past the cache a new type is built, whatever was asked for before. -/
  apart : ¬ i.Cached → ∀ p, i.answer = .ok p →
    i.Builds ∧ ∀ j ∈ earlier, ∀ q, j.answer = .ok q → p.type ≠ q.type

end Inquiry

namespace Session

/-! ### Runs with the requests that were made -/

/-- The requests for proxy types after an operation, most recent first. -/
def recalled (s : Session) (operation : Operation) (history : List Inquiry) : List Inquiry :=
  match operation with
  | .request id request descriptor => ⟨s, id, request, descriptor⟩ :: history
  | .createProxy id descriptor _ _ => ⟨s, id, .cached, descriptor⟩ :: history
  | _ => history

/-- A session that came about by operations, or that is in the middle of a call after
operations, with the requests for proxy types among them. -/
inductive Recalls : Session → List Inquiry → Prop where
  | initial : Recalls initial []
  | performed {s after : Session} {history : List Inquiry} (recalls : Recalls s history)
      (operation : Operation) {reply : operation.Reply} (permits : s.Permits operation)
      (performed : s.perform operation = some (reply, after)) :
      Recalls after (s.recalled operation history)
  | within {s nested : Session} {history : List Inquiry} (recalls : Recalls s history)
      (entered : s.Enters nested) : Recalls nested history

/-- A session with its requests comes about. -/
private theorem occurs_of_recalls {s : Session} {history : List Inquiry}
    (recalls : s.Recalls history) :
    s.Occurs := by
  induction recalls with
  | initial => exact .refl
  | performed _ _ permits performed inductionHypothesis =>
      exact inductionHypothesis.tail (.step (step_of_perform permits performed))
  | within _ entered inductionHypothesis => exact inductionHypothesis.tail (.enters entered)

/-- What the caches of a session have to do with the requests that were made: they hold what
was answered through them, each type under what it was built for, and no type twice. -/
structure Remembers (s : Session) (history : List Inquiry) : Prop where
  stored : ∀ i ∈ history, i.Cached → ∀ p, i.answer = .ok p →
    (s.world.factory i.factory).proxyTypes.find? i.descriptor.key = some p
  made : ∀ id key p, (s.world.factory id).proxyTypes.find? key = some p →
    ∃ i ∈ history, i.Cached ∧ i.factory = id ∧ i.descriptor.key = key ∧ i.Builds ∧
      i.answer = .ok p
  older : ∀ i ∈ history, ∀ p, i.answer = .ok p → p.type < s.types.size
  distinct : ∀ id key other p q, (s.world.factory id).proxyTypes.find? key = some p →
    (s.world.factory id).proxyTypes.find? other = some q → p.type = q.type → key = other

namespace Remembers

variable {s after : Session} {history : List Inquiry}

/-- Where no proxy type is asked for, nothing is forgotten. -/
theorem of_same (remembers : s.Remembers history) (grown : s.types.size ≤ after.types.size)
    (same : ∀ id, (after.world.factory id).proxyTypes = (s.world.factory id).proxyTypes) :
    after.Remembers history where
  stored := by
    intro i member cached p answer
    rw [same]
    exact remembers.stored i member cached p answer
  made := by
    intro id key p found
    rw [same] at found
    exact remembers.made id key p found
  older := fun i member p answer => Nat.lt_of_lt_of_le (remembers.older i member p answer) grown
  distinct := by
    intro id key other p q found foundOther
    rw [same] at found foundOther
    exact remembers.distinct id key other p q found foundOther

variable {i : Inquiry} (remembers : i.session.Remembers history)

include remembers

/-- Types that a cache holds are older than what is built next. -/
theorem lt_of_held {id : FactoryId} {key : DescriptorKey} {p : ProxyType}
    (held : (i.session.world.factory id).proxyTypes.find? key = some p) :
    p.type < i.session.types.size := by
  obtain ⟨j, member, _, _, _, _, answer⟩ := remembers.made id key p held
  exact remembers.older j member p answer

omit remembers

/-- A request that changed no cache goes into the history. -/
theorem extend (remembers : after.Remembers history)
    (held : i.Cached → ∀ p, i.answer = .ok p →
      (after.world.factory i.factory).proxyTypes.find? i.descriptor.key = some p)
    (older : ∀ p, i.answer = .ok p → p.type < after.types.size) :
    after.Remembers (i :: history) where
  stored := by
    intro j member
    rcases List.mem_cons.mp member with rfl | member
    · exact held
    · exact remembers.stored j member
  made := by
    intro id key p found
    obtain ⟨j, member, made⟩ := remembers.made id key p found
    exact ⟨j, List.mem_cons_of_mem i member, made⟩
  older := by
    intro j member
    rcases List.mem_cons.mp member with rfl | member
    · exact older
    · exact remembers.older j member
  distinct := remembers.distinct

include remembers

/-- A request by which a type was built and stored goes into the history. -/
theorem store (cached : i.Cached) (absent : i.memo.find? i.descriptor.key = none)
    (answer : i.answer = .ok ⟨i.session.types.size, i.descriptor⟩)
    (types : i.after.types.size = i.session.types.size + 1) (builds : i.Builds)
    (tables : ∀ id key, (i.after.world.factory id).proxyTypes.find? key =
      if i.factory = id ∧ i.descriptor.key = key then some ⟨i.session.types.size, i.descriptor⟩
      else (i.session.world.factory id).proxyTypes.find? key) :
    i.after.Remembers (i :: history) where
  stored := by
    intro j member cachedOther p answered
    rw [tables]
    rcases List.mem_cons.mp member with rfl | member
    · rw [if_pos ⟨rfl, rfl⟩]
      exact congrArg some (Except.ok.inj (answer.symm.trans answered))
    · have held := remembers.stored j member cachedOther p answered
      -- An earlier request with this key would have left it in the cache, where it was not found.
      rw [if_neg, held]
      rintro ⟨sameFactory, sameKey⟩
      rw [← sameFactory, ← sameKey] at held
      cases absent.symm.trans held
  made := by
    intro id key p found
    rw [tables] at found
    split at found
    · rename_i hit
      obtain rfl := Option.some.inj found
      exact ⟨i, List.mem_cons_self, cached, hit.1, hit.2, builds, answer⟩
    · obtain ⟨j, member, made⟩ := remembers.made id key p found
      exact ⟨j, List.mem_cons_of_mem i member, made⟩
  older := by
    intro j member p answered
    rw [types]
    rcases List.mem_cons.mp member with rfl | member
    · obtain rfl := Except.ok.inj (answer.symm.trans answered)
      exact Nat.lt_succ_self _
    · exact Nat.lt_succ_of_lt (remembers.older j member p answered)
  distinct := by
    intro id key other p q found foundOther same
    rw [tables] at found foundOther
    -- The new type is none of those that were held before.
    split at found <;> split at foundOther
    · rename_i hit hitOther
      exact hit.2.symm.trans hitOther.2
    · obtain rfl := Option.some.inj found
      exact absurd same (Nat.ne_of_gt (remembers.lt_of_held foundOther))
    · obtain rfl := Option.some.inj foundOther
      exact absurd same (Nat.ne_of_lt (remembers.lt_of_held found))
    · exact remembers.distinct id key other p q found foundOther same

/-- A request goes into the history. -/
theorem request (ends : i.Ends)
    (others : ∀ id, i.factory ≠ id → i.after.world.factory id = i.session.world.factory id) :
    i.after.Remembers (i :: history) := by
  have tables : i.memoAfter = i.memo → ∀ id,
      (i.after.world.factory id).proxyTypes = (i.session.world.factory id).proxyTypes := by
    intro memo id
    by_cases same : i.factory = id
    · rw [← same]
      exact memo
    · rw [others id same]
  cases ends with
  | found proxyType cached held answer types memo =>
      have still := remembers.of_same (Nat.le_of_eq (congrArg _ types.symm)) (tables memo)
      have answered : ∀ p, i.answer = .ok p → proxyType = p :=
        fun p other => Except.ok.inj (answer.symm.trans other)
      refine still.extend ?_ ?_
      · intro _ p other
        rw [tables memo, ← answered p other]
        exact held
      · intro p other
        rw [types, ← answered p other]
        exact remembers.lt_of_held held
  | failed fault absent answer types memo builds =>
      have still := remembers.of_same (Nat.le_of_eq (congrArg _ types.symm)) (tables memo)
      refine still.extend ?_ ?_
      · intro _ p other
        cases answer.symm.trans other
      · intro p other
        cases answer.symm.trans other
  | built absent answer types builds stored unstored =>
      have grown : i.session.types.size ≤ i.after.types.size := by
        rw [types]
        exact Nat.le_succ _
      by_cases cached : i.Cached
      · refine remembers.store cached (absent cached) answer types builds ?_
        intro id key
        by_cases same : i.factory = id
        · have inserted := stored cached
          unfold Inquiry.memoAfter Inquiry.memo at inserted
          rw [← same, inserted, Table.find?_insert]
          simp
        · rw [others id same, if_neg fun hit => same hit.1]
      · refine (remembers.of_same grown (tables (unstored cached))).extend ?_ ?_
        · exact fun through => absurd through cached
        · intro p other
          obtain rfl := Except.ok.inj (answer.symm.trans other)
          rw [types]
          exact Nat.lt_succ_self _

/-- What was answered through the cache is there for an equal descriptor. -/
private theorem held_of_repeats {j : Inquiry} (member : j ∈ history) (repeats : i.Repeats j)
    {p : ProxyType} (answer : j.answer = .ok p) : i.memo.find? i.descriptor.key = some p := by
  unfold Inquiry.memo
  rw [repeats.factory, repeats.key]
  exact remembers.stored j member repeats.cachedOther p answer

/-- Types that two requests of one cache get are the same only for equal descriptors. -/
private theorem key_eq_of_type_eq (ends : i.Ends) {j : Inquiry} (member : j ∈ history)
    (cached : i.Cached) (cachedOther : j.Cached) (factory : i.factory = j.factory)
    {p q : ProxyType} (answer : i.answer = .ok p) (answerOther : j.answer = .ok q)
    (same : p.type = q.type) : i.descriptor.key = j.descriptor.key := by
  have heldOther := remembers.stored j member cachedOther q answerOther
  cases held : i.memo.find? i.descriptor.key with
  | some other =>
      obtain rfl := Except.ok.inj (answer.symm.trans (ends.of_held cached held).1)
      unfold Inquiry.memo at held
      rw [factory] at held
      exact remembers.distinct j.factory _ _ p q held heldOther same
  | none =>
      obtain rfl := (ends.of_absent cached held).1.eq answer
      exact absurd same (Nat.ne_of_gt (remembers.lt_of_held heldOther))

/-- What is remembered decides the answer. -/
theorem memoizes (ends : i.Ends) : i.Memoizes history where
  same := by
    intro j member cached cachedOther factory p q answer answerOther
    have only := remembers.key_eq_of_type_eq ends member cached cachedOther factory answer
      answerOther
    have equal : i.descriptor.key = j.descriptor.key → p = q := by
      intro key
      have held := remembers.held_of_repeats member ⟨cached, cachedOther, factory, key⟩ answerOther
      exact Except.ok.inj (answer.symm.trans (ends.of_held cached held).1)
    exact ⟨⟨fun same => only (congrArg _ same), equal⟩, fun same => equal (only same)⟩
  -- An answer was built by the request itself, or by the earlier one that stored it.
  origin := by
    intro cached p answer
    cases held : i.memo.find? i.descriptor.key with
    | some other =>
        obtain rfl := Except.ok.inj (answer.symm.trans (ends.of_held cached held).1)
        obtain ⟨j, member, cachedOther, factory, key, builds, answerOther⟩ :=
          remembers.made _ _ _ held
        exact ⟨j, List.mem_cons_of_mem i member, ⟨cached, cachedOther, factory.symm, key.symm⟩,
          builds, answerOther, congrArg _ (builds.eq answerOther)⟩
    | none =>
        have builds := (ends.of_absent cached held).1
        exact ⟨i, List.mem_cons_self, ⟨cached, cached, rfl, rfl⟩, builds, answer,
          congrArg _ (builds.eq answer)⟩
  once := by
    intro j member repeats p answerOther
    have held := remembers.held_of_repeats member repeats answerOther
    obtain ⟨answer, types⟩ := ends.of_held repeats.cached held
    refine ⟨answer, ?_, types⟩
    intro builds
    obtain rfl := builds.eq answer
    exact Nat.lt_irrefl _ (remembers.lt_of_held held)
  builds := by
    intro cached unanswered
    cases held : i.memo.find? i.descriptor.key with
    | none => exact (ends.of_absent cached held).1
    | some p =>
        obtain ⟨j, member, cachedOther, factory, key, _, answer⟩ := remembers.made _ _ _ held
        exact absurd answer
          (unanswered j member ⟨cached, cachedOther, factory.symm, key.symm⟩ p)
  failed := by
    intro cached fault failed
    cases held : i.memo.find? i.descriptor.key with
    | none =>
        rw [(ends.of_absent cached held).2 fault failed]
        exact held
    | some p => cases failed.symm.trans (ends.of_held cached held).1
  apart := by
    intro uncached p answer
    have builds := ends.of_uncached uncached answer
    refine ⟨builds, ?_⟩
    intro j member q answerOther same
    obtain rfl := builds.eq answer
    exact Nat.ne_of_gt (remembers.older j member q answerOther) same

end Remembers

/-! ### What runs remember -/

/-- A factory that was asked for no type holds the types that it held. -/
private theorem proxyTypes_of_effect {u : Universe} {f later : Factory} {t tallied : Tally}
    (effect : f.Effect u t later tallied) (requests : tallied.cachedRequests = t.cachedRequests)
    (builds : tallied.builds = t.builds) : later.proxyTypes = f.proxyTypes := by
  cases effect with
  | changed changes => exact changes.types.1
  | delegated => rfl
  | reconfigured config => rfl
  | answered answers =>
      cases answers with
      | found | missedRejected | missedBuilt => simp [Tally.countRequest] at requests
      | rejected => rfl
      | built => simp [Tally.countRequest, Except.isOk, Except.toBool] at builds

/-- Operations that ask for no proxy type leave the types that the caches hold. -/
theorem Sound.proxyTypes_of_perform {s after : Session} (sound : s.Sound) {operation : Operation}
    {reply : operation.Reply} (permits : s.Permits operation)
    (performed : s.perform operation = some (reply, after))
    (silent : s.recalled operation [] = []) (id : FactoryId) :
    (after.world.factory id).proxyTypes = (s.world.factory id).proxyTypes := by
  have effect := sound.effect_of_perform permits performed (fun _ => {}) id
  have uncounted : (s.tallied operation (fun _ => {}) id).cachedRequests = 0 ∧
      (s.tallied operation (fun _ => {}) id).builds = 0 := by
    cases operation with
    | request | createProxy => cases silent
    | serve other request =>
        by_cases same : id = other
        · subst same
          cases request <;> simp [tallied, Factory.Request.tallied, Tally.countDelegate]
        · simp [tallied, same]
    | _ => exact ⟨rfl, rfl⟩
  exact proxyTypes_of_effect effect uncounted.1 uncounted.2

/-- Creating a proxy defines the types that the request for its type does. -/
private theorem types_createProxy (s : Session) (id : FactoryId) (descriptor : Descriptor)
    (target : Option ObjectRef) (interceptor : Interceptor) :
    (s.createProxy id descriptor target interceptor).2.types =
      (s.requestProxyType id .cached descriptor).2.types := by
  unfold createProxy
  generalize s.requestProxyType id .cached descriptor = outcome
  obtain ⟨result, after⟩ := outcome
  cases result with
  | error fault => rfl
  | ok proxyType =>
      simp only []
      split <;> rfl

/-- A request keeps the caches and the history together, with itself as the latest entry. -/
theorem Sound.remembers_request {s : Session} (sound : s.Sound) {id : FactoryId}
    (known : id < s.world.factories.size) (request : TypeRequest) (descriptor : Descriptor)
    {history : List Inquiry} (remembers : s.Remembers history) :
    (s.requestProxyType id request descriptor).2.Remembers
      (⟨s, id, request, descriptor⟩ :: history) := by
  have ends : Inquiry.Ends ⟨s, id, request, descriptor⟩ := Inquiry.ends sound known
  exact remembers.request ends (answers_requestProxyType sound known request descriptor).2

/-- A step of the run: whatever is done to a session, its caches remember the requests. -/
theorem remembers_of_perform {s after : Session} (sound : s.Sound) {operation : Operation}
    {reply : operation.Reply} (permits : s.Permits operation)
    (performed : s.perform operation = some (reply, after)) {history : List Inquiry}
    (remembers : s.Remembers history) : after.Remembers (s.recalled operation history) := by
  have grown : s.types.size ≤ after.types.size :=
    (extends_of_becomes (becomes_of_step (step_of_perform permits performed))).size_le
  have kept := sound.proxyTypes_of_perform permits performed
  cases operation with
  | request id request descriptor =>
      have asked := sound.remembers_request permits request descriptor remembers
      have ran : s.requestProxyType id request descriptor = (reply, after) :=
        Option.some.inj performed
      rw [ran] at asked
      exact asked
  | createProxy id descriptor target interceptor =>
      have asked := sound.remembers_request permits .cached descriptor remembers
      have types := s.types_createProxy id descriptor target interceptor
      have factories := s.factories_createProxy id descriptor target interceptor
      have ran : s.createProxy id descriptor target interceptor = (reply, after) :=
        Option.some.inj performed
      rw [ran] at types factories
      refine asked.of_same (Nat.le_of_eq (congrArg _ types.symm)) ?_
      intro other
      unfold World.factory
      rw [factories]
  | _ => exact remembers.of_same grown (kept rfl)

/-- The requests of a run are those before an operation and one that the operation makes. -/
theorem earlier_or_made {s : Session} {operation : Operation} (permits : s.Permits operation)
    {history earlier : List Inquiry} {i : Inquiry}
    (suffix : i :: earlier <:+ s.recalled operation history) :
    i :: earlier <:+ history ∨
      (i.session = s ∧ i.factory < s.world.factories.size ∧ earlier = history) := by
  cases operation with
  | request | createProxy =>
      rcases List.suffix_cons_iff.mp suffix with first | further
      · obtain ⟨rfl, rfl⟩ := List.cons.inj first
        exact .inr ⟨rfl, permits, rfl⟩
      · exact .inl further
  | _ => exact .inl suffix

/-- In every run the caches remember the requests, and every request was answered as the
requests before it tell. -/
theorem remembers_of_recalls {s : Session} {history : List Inquiry} (recalls : s.Recalls history) :
    s.Remembers history ∧ ∀ i earlier, i :: earlier <:+ history → i.Memoizes earlier := by
  induction recalls with
  | initial =>
      have nothing : ∀ id key, (initial.world.factory id).proxyTypes.find? key = none := by
        intro id key
        have added := World.empty.factory_addFactory .standard id
        have same :
          initial.world.factory id = (World.empty.addFactory .standard).2.factory id := rfl
        rw [same, added]
        split <;> rfl
      constructor
      · refine ⟨?_, ?_, ?_, ?_⟩
        · exact fun i member => by cases member
        · intro id key p found
          cases (nothing id key).symm.trans found
        · exact fun i member => by cases member
        · intro id key other p q found
          cases (nothing id key).symm.trans found
      · intro i earlier suffix
        cases List.suffix_nil.mp suffix
  | performed recalls operation permits performed inductionHypothesis =>
      have sound := sound_of_occurs (occurs_of_recalls recalls)
      obtain ⟨remembers, memoizes⟩ := inductionHypothesis
      refine ⟨remembers_of_perform sound permits performed remembers, ?_⟩
      intro i earlier suffix
      rcases earlier_or_made permits suffix with further | ⟨rfl, known, rfl⟩
      · exact memoizes i earlier further
      · exact remembers.memoizes (i.ends sound known)
  | within recalls entered inductionHypothesis =>
      have sound := sound_of_occurs (occurs_of_recalls recalls)
      obtain ⟨types, progresses⟩ := sound.progresses_of_enters entered
      obtain ⟨remembers, memoizes⟩ := inductionHypothesis
      refine ⟨remembers.of_same (Nat.le_of_eq (congrArg _ types.symm)) ?_, memoizes⟩
      exact fun id => (progresses.changes id).types.1

/-- The type cache is a memo of single builds.  In every run, with calls and other operations
in between, requests that go through the cache of one factory get one type exactly if their
descriptors are equal: the same primary type, the same supplementary ones in order, and the
same filter.  The type was built for an equal descriptor, and it is not built again; a request
that fails leaves nothing in the cache, and the builder runs again for the next one with an
equal descriptor.  What is built past the cache is a type that no request got before. -/
theorem proxy_types_memoized {s : Session} {history : List Inquiry}
    (recalls : s.Recalls history) :
    (∀ i earlier, i :: earlier <:+ history → i.Memoizes earlier) ∧
    ∀ i between j earlier fault, i :: between ++ j :: earlier <:+ history → i.Repeats j →
      (∀ k ∈ between, ¬ i.Repeats k) → j.answer = .error fault → i.Builds := by
  have memoizes := (remembers_of_recalls recalls).2
  refine ⟨memoizes, ?_⟩
  intro i between j earlier fault suffix repeats apart failed
  apply (memoizes i _ suffix).builds repeats.cached
  intro k member further p answer
  rcases List.mem_append.mp member with inside | later
  · exact apart k inside further
  · rcases List.mem_cons.mp later with rfl | before
    · cases failed.symm.trans answer
    · have earlierSuffix : j :: earlier <:+ history :=
        (List.suffix_append (i :: between) (j :: earlier)).trans suffix
      have again : j.Repeats k := ⟨repeats.cachedOther, further.cachedOther,
        repeats.factory.symm.trans further.factory, repeats.key.symm.trans further.key⟩
      have succeeds := ((memoizes j earlier earlierSuffix).once k before again p answer).1
      cases failed.symm.trans succeeds

/-- A class that is asked for as a supplementary interface, twice, and then alone, twice
through the cache and once past it. -/
theorem proxy_types_memoized_cursor :
    ∃ (s : Session) (rejected again built found fresh : Inquiry),
      s.Recalls [fresh, found, built, again, rejected] ∧
      rejected.answer = .error (.notInterface 2) ∧ again.Builds ∧
      built.answer = .ok ⟨3, 2, [], Universe.everything⟩ ∧
      found.answer = .ok ⟨3, 2, [], Universe.everything⟩ ∧ ¬ found.Builds ∧
      fresh.answer = .ok ⟨4, 2, [], Universe.everything⟩ ∧ fresh.Builds := by
  have defined := Recalls.initial.performed (.define cursor)
    ⟨by decide, fun _ held => MethodBody.alike_of_mem_native held⟩ rfl
  have rejected := defined.performed (.request 0 .cached ⟨2, [2], Universe.everything⟩)
    Nat.zero_lt_one rfl
  have again := rejected.performed (.request 0 .cached ⟨2, [2], Universe.everything⟩)
    (by with_unfolding_all exact Nat.zero_lt_one) rfl
  have built := again.performed (.request 0 .cached ⟨2, [], Universe.everything⟩)
    (by with_unfolding_all exact Nat.zero_lt_one) rfl
  have found := built.performed (.request 0 .cached ⟨2, [], Universe.everything⟩)
    (by with_unfolding_all exact Nat.zero_lt_one) rfl
  have fresh := found.performed (.request 0 .fresh ⟨2, [], Universe.everything⟩)
    (by with_unfolding_all exact Nat.zero_lt_one) rfl
  obtain ⟨memoizes, rebuilds⟩ := proxy_types_memoized fresh
  refine ⟨_, _, _, _, _, _, fresh, by with_unfolding_all rfl, ?_, by with_unfolding_all rfl,
    by with_unfolding_all rfl, ?_, by with_unfolding_all rfl, ?_⟩
  · refine rebuilds _ [] _ [] (.notInterface 2) ⟨[_, _, _], rfl⟩ ⟨?_, ?_, rfl, rfl⟩
      (fun _ impossible => by cases impossible) ?_
    all_goals with_unfolding_all rfl
  · refine ((memoizes _ [_, _, _] ⟨[_], rfl⟩).once _ List.mem_cons_self ⟨?_, ?_, rfl, rfl⟩
      ⟨3, 2, [], Universe.everything⟩ ?_).2.1
    all_goals with_unfolding_all rfl
  · have past : ∀ s, ¬ Inquiry.Cached ⟨s, 0, .fresh, ⟨2, [], Universe.everything⟩⟩ := by
      simp [Inquiry.Cached, asksCache]
    refine ((memoizes _ [_, _, _, _] ⟨[], rfl⟩).apart (past _) ⟨4, 2, [], Universe.everything⟩ ?_).1
    with_unfolding_all rfl

end Session

end Interpose
