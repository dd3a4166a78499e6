/-
Module: Interpose.Proofs.Repetitions
Purpose: Lists without their repetitions: each item where it comes up first.
Main exports: nodup_eraseDups, eraseDups_of_nodup, eraseDups_eraseDups_append,
  eraseDups_append_of_subset, eraseDups_concat
-/
import Mathlib.Data.List.Nodup

namespace Interpose

variable {α : Type} [DecidableEq α]

/-- No item is left twice. -/
theorem nodup_eraseDups (items : List α) : items.eraseDups.Nodup := by
  match items with
  | [] => simp
  | first :: rest =>
      rw [List.eraseDups_cons, List.nodup_cons]
      refine ⟨?_, nodup_eraseDups (rest.filter fun item => !item == first)⟩
      simp [List.mem_eraseDups]
termination_by items.length
decreasing_by exact Nat.lt_succ_of_le (List.length_filter_le _ _)

theorem eraseDups_of_nodup {items : List α} (distinct : items.Nodup) : items.eraseDups = items := by
  induction items with
  | nil => rfl
  | cons first rest inductionHypothesis =>
      obtain ⟨fresh, distinctRest⟩ := List.nodup_cons.mp distinct
      have others : (rest.filter fun item => !item == first) = rest := by
        apply List.filter_eq_self.mpr
        intro item member
        have different : item ≠ first := fun same => fresh (same ▸ member)
        simp [different]
      rw [List.eraseDups_cons, others, inductionHypothesis distinctRest]

/-- Repetitions may be left out before more is added. -/
theorem eraseDups_eraseDups_append (items more : List α) :
    (items.eraseDups ++ more).eraseDups = (items ++ more).eraseDups := by
  have absent : more.removeAll items.eraseDups = more.removeAll items := by
    apply List.filter_congr
    intro item _
    simp [List.mem_eraseDups]
  rw [List.eraseDups_append, List.eraseDups_append, absent,
    eraseDups_of_nodup (nodup_eraseDups items)]

/-- What only repeats earlier items adds nothing. -/
theorem eraseDups_append_of_subset {items more : List α} (distinct : items.Nodup)
    (repeats : ∀ item ∈ more, item ∈ items) : (items ++ more).eraseDups = items := by
  have nothing : more.removeAll items = [] := by
    apply List.filter_eq_nil_iff.mpr
    intro item member
    simp [repeats item member]
  rw [List.eraseDups_append, nothing, eraseDups_of_nodup distinct, List.eraseDups_nil,
    List.append_nil]

/-- A last item is left out if it came up before. -/
theorem eraseDups_concat (items : List α) (last : α) :
    (items ++ [last]).eraseDups =
      if last ∈ items then items.eraseDups else items.eraseDups ++ [last] := by
  rw [List.eraseDups_append]
  by_cases earlier : last ∈ items <;> simp [List.removeAll, earlier, List.eraseDups_cons]

end Interpose
