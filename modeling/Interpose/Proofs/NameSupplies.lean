/-
Module: Interpose.Proofs.NameSupplies
Purpose: Which names a supply hands out for a sequence of requests, and when they are distinct.
Main exports: NameSupply.grants, NameSupply.Apart, NameSupply.Continues,
  NameSupply.mem_grants_iff, NameSupply.nodup_grants_iff, NameSupply.apart_of_not_continues
-/
import Mathlib.Data.List.Induction
import Mathlib.Data.List.Nodup
import Interpose.Proxy.Synthesis

namespace Interpose.NameSupply

/-- The digits that a name gets when it was asked for so often before: none at first, and then a
number, counting from 0. -/
def digits : (earlier : Nat) → List Char
  | 0 => []
  | count + 1 => (toString count).toList

/-- The name that is handed out for a name that was asked for so often before. -/
def numbered (name : String) : (earlier : Nat) → String
  | 0 => name
  | count + 1 => name ++ toString count

/-- How often a name was asked for. -/
def requested (names : NameSupply) (name : String) : Nat := (names.find? name).elim 0 (· + 1)

/-- The names that are handed out for requests in order. -/
def grants (names : NameSupply) : (requests : List String) → List String
  | [] => []
  | name :: rest => (names.fresh name).1 :: grants (names.fresh name).2 rest

/-- The supply that requests leave. -/
def after (names : NameSupply) (requests : List String) : NameSupply :=
  requests.foldl (fun supply name => (supply.fresh name).2) names

/-- No two different names have a form in common, each in the forms in which it is handed out. -/
def Apart (requests : List String) : Prop :=
  ∀ one other, one ≠ other → ∀ k < requests.count one, ∀ l < requests.count other,
    numbered one k ≠ numbered other l

/-- One name followed by digits is the other. -/
def Continues (one other : String) : Prop :=
  ∃ added : List Char, added ≠ [] ∧ (∀ digit ∈ added, digit.isDigit = true) ∧
    other.toList = one.toList ++ added

/-- A name that continues another one ends in a digit. -/
theorem Continues.any_isDigit_getLast? {one other : String} (continues : Continues one other) :
    other.toList.getLast?.any Char.isDigit = true := by
  obtain ⟨added, nonempty, digits, longer⟩ := continues
  rw [longer, List.getLast?_append_of_ne_nil _ nonempty,
    List.getLast?_eq_getLast_of_ne_nil nonempty]
  exact digits _ (List.getLast_mem nonempty)

/-! ### The forms of a name -/

private theorem digits_injective {one other : Nat} (same : digits one = digits other) :
    one = other := by
  have nonempty : ∀ count : Nat, (toString count).toList ≠ [] := by
    intro count
    simp
  cases one with
  | zero =>
      cases other with
      | zero => rfl
      | succ count => exact absurd same.symm (nonempty count)
  | succ first =>
      cases other with
      | zero => exact absurd same (nonempty first)
      | succ second =>
          have sameDigits : Nat.toDigits 10 first = Nat.toDigits 10 second := by
            simpa [digits] using same
          have sameNumber := congrArg (fun number => Nat.ofDigitChars 10 number 0) sameDigits
          simpa using sameNumber

private theorem isDigit_of_mem_digits {earlier : Nat} {digit : Char}
    (member : digit ∈ digits earlier) :
    digit.isDigit = true := by
  cases earlier with
  | zero => cases member
  | succ count =>
      have inNumber : digit ∈ Nat.toDigits 10 count := by simpa [digits] using member
      exact Nat.isDigit_of_mem_toDigits (by decide) (by decide) inNumber

private theorem toList_numbered (name : String) (earlier : Nat) :
    (numbered name earlier).toList = name.toList ++ digits earlier := by
  cases earlier with
  | zero => simp [numbered, digits]
  | succ count => simp [numbered, digits]

/-- A name is never handed out in one form twice. -/
theorem numbered_injective {name : String} {one other : Nat}
    (same : numbered name one = numbered name other) : one = other := by
  have lists := congrArg String.toList same
  rw [toList_numbered, toList_numbered] at lists
  exact digits_injective (List.append_cancel_left lists)

/-! ### What a supply remembers -/

private theorem fst_fresh (names : NameSupply) (name : String) :
    (names.fresh name).1 = numbered name (names.requested name) := by
  unfold fresh requested
  cases names.find? name <;> rfl

/-- Handing out a form counts as one more request for the name. -/
private theorem requested_fresh (names : NameSupply) (name other : String) :
    requested (names.fresh name).2 other =
      names.requested other + if name = other then 1 else 0 := by
  unfold fresh requested
  by_cases same : name = other
  · subst same
    cases names.find? name <;> simp
  · cases names.find? name <;> simp [Table.find?_insert_of_ne, same]

private theorem after_concat (names : NameSupply) (requests : List String) (last : String) :
    names.after (requests ++ [last]) = (fresh (names.after requests) last).2 := by
  rw [after, List.foldl_append]
  rfl

/-- A supply remembers how often each name was asked for. -/
theorem requested_after (requests : List String) (name : String) :
    requested (after .empty requests) name = requests.count name := by
  induction requests using List.reverseRecOn with
  | nil => rfl
  | append_singleton earlier last inductionHypothesis =>
      rw [after_concat, requested_fresh, inductionHypothesis, List.count_append,
        List.count_singleton]
      by_cases same : last = name <;> simp [same]

/-! ### What a supply hands out -/

/-- Requests are answered one after the other. -/
private theorem grants_append (names : NameSupply) (requests others : List String) :
    names.grants (requests ++ others) = names.grants requests ++
      grants (names.after requests) others := by
  induction requests generalizing names with
  | nil => rfl
  | cons name rest inductionHypothesis =>
      exact congrArg ((names.fresh name).1 :: ·) (inductionHypothesis (names.fresh name).2)

/-- One more request is answered with the name, numbered by how often it was asked for before. -/
private theorem grants_concat (requests : List String) (last : String) :
    grants .empty (requests ++ [last]) =
      grants .empty requests ++ [numbered last (requests.count last)] := by
  rw [grants_append, ← requested_after, ← fst_fresh]
  rfl

theorem length_grants (names : NameSupply) (requests : List String) :
    (names.grants requests).length = requests.length := by
  induction requests generalizing names with
  | nil => rfl
  | cons name rest inductionHypothesis =>
      exact congrArg (· + 1) (inductionHypothesis (names.fresh name).2)

/-- What is handed out are the names that are asked for, each in as many forms as it is asked
for. -/
theorem mem_grants_iff (requests : List String) (granted : String) :
    granted ∈ grants .empty requests ↔
      ∃ name, ∃ k < requests.count name, granted = numbered name k := by
  induction requests using List.reverseRecOn with
  | nil => simp [grants]
  | append_singleton earlier last inductionHypothesis =>
      rw [grants_concat, List.mem_append, List.mem_singleton, inductionHypothesis]
      constructor
      · intro found
        cases found with
        | inl before =>
            obtain ⟨name, k, bound, same⟩ := before
            refine ⟨name, k, ?_, same⟩
            rw [List.count_append]
            exact Nat.lt_add_right _ bound
        | inr new => exact ⟨last, earlier.count last, by simp, new⟩
      · rintro ⟨name, k, bound, same⟩
        by_cases known : k < earlier.count name
        · exact .inl ⟨name, k, known, same⟩
        · -- The form is new, so it is the one that was handed out last.
          rw [List.count_append, List.count_singleton] at bound
          by_cases hit : last = name
          · subst hit
            have latest : k = earlier.count last := by
              simp at bound
              omega
            exact .inr (latest ▸ same)
          · simp [hit] at bound
            exact absurd bound known

/-! ### When the names are distinct -/

/-- Names with one more request are apart if they were before, and the new form is no form of
another name. -/
private theorem apart_concat_iff (earlier : List String) (last : String) :
    Apart (earlier ++ [last]) ↔ Apart earlier ∧
      ∀ other, other ≠ last → ∀ k < earlier.count other,
        numbered last (earlier.count last) ≠ numbered other k := by
  have counts : ∀ name, (earlier ++ [last]).count name =
      earlier.count name + if last = name then 1 else 0 := by
    intro name
    rw [List.count_append, List.count_singleton]
    by_cases same : last = name <;> simp [same]
  constructor
  · intro apart
    refine ⟨?_, ?_⟩
    · intro one other different k kBound l lBound
      apply apart one other different k _ l _
      · rw [counts]
        exact Nat.lt_add_right _ kBound
      · rw [counts]
        exact Nat.lt_add_right _ lBound
    · intro other different k bound
      apply apart last other (Ne.symm different) _ _ k
      · rw [counts]
        exact Nat.lt_add_right _ bound
      · simp [counts]
  · rintro ⟨apart, fresh⟩ one other different k kBound l lBound
    rw [counts] at kBound lBound
    by_cases first : last = one
    · subst first
      rw [if_neg different, Nat.add_zero] at lBound
      rw [if_pos rfl] at kBound
      rcases Nat.lt_succ_iff_lt_or_eq.mp kBound with old | rfl
      · exact apart last other different k old l lBound
      · exact fresh other (Ne.symm different) l lBound
    · rw [if_neg first, Nat.add_zero] at kBound
      by_cases second : last = other
      · subst second
        rw [if_pos rfl] at lBound
        rcases Nat.lt_succ_iff_lt_or_eq.mp lBound with old | rfl
        · exact apart one last different k kBound l old
        · exact (fresh one different k kBound).symm
      · rw [if_neg second, Nat.add_zero] at lBound
        exact apart one other different k kBound l lBound

/-- The names handed out are distinct exactly if the names asked for are apart. -/
theorem nodup_grants_iff (requests : List String) :
    (grants .empty requests).Nodup ↔ Apart requests := by
  induction requests using List.reverseRecOn with
  | nil => simp [grants, Apart]
  | append_singleton earlier last inductionHypothesis =>
      rw [grants_concat, ← List.concat_eq_append, List.nodup_concat, inductionHypothesis,
        apart_concat_iff, mem_grants_iff, and_comm]
      apply and_congr_right
      intro _
      constructor
      · intro unused other _ k bound same
        exact unused ⟨other, k, bound, same⟩
      -- The new form differs from other forms of its own name by its number, from those of other
      -- names because the requests are apart.
      · rintro fresh ⟨other, k, bound, same⟩
        by_cases hit : other = last
        · subst hit
          exact absurd (numbered_injective same) (Nat.ne_of_gt bound)
        · exact fresh other hit k bound same

/-- Where the digits of one name reach beyond another name, that name continues the first. -/
private theorem continues_of_digits {one other : String} {added rest : List Char} {earlier : Nat}
    (different : one ≠ other) (longer : other.toList = one.toList ++ added)
    (split : digits earlier = added ++ rest) : Continues one other := by
  refine ⟨added, ?_, ?_, longer⟩
  · intro nothing
    rw [nothing, List.append_nil] at longer
    exact different (String.toList_injective longer.symm)
  · intro digit member
    have inDigits : digit ∈ digits earlier := by
      rw [split]
      exact List.mem_append_left _ member
    exact isDigit_of_mem_digits inDigits

/-- Names are apart when none of them followed by digits is another one. -/
theorem apart_of_not_continues {requests : List String}
    (plain : ∀ one ∈ requests, ∀ other ∈ requests, ¬Continues one other) : Apart requests := by
  intro one other different k kBound l lBound same
  have oneMember : one ∈ requests := List.count_pos_iff.mp (Nat.zero_lt_of_lt kBound)
  have otherMember : other ∈ requests := List.count_pos_iff.mp (Nat.zero_lt_of_lt lBound)
  have lists := congrArg String.toList same
  rw [toList_numbered, toList_numbered] at lists
  -- One of the two names is a prefix of the other.
  cases List.append_eq_append_iff.mp lists with
  | inl beyond =>
      obtain ⟨added, longer, split⟩ := beyond
      exact plain one oneMember other otherMember (continues_of_digits different longer split)
  | inr beyond =>
      obtain ⟨added, longer, split⟩ := beyond
      apply plain other otherMember one oneMember
      exact continues_of_digits (Ne.symm different) longer split

end Interpose.NameSupply
