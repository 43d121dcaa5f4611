import Mathlib
import TransitDiagram.Fault

/-!
# Sequences of checks

Requests are checked step by step, and the first step that refuses decides. The lemmas here say
when such a sequence accepts, and what a quantity that is no count is refused with.
-/

namespace TransitDiagram

open Quantity

namespace Fault

variable {ε β γ : Type}

theorem bind_eq_ok_iff {first : Except ε β} {next : β → Except ε γ} {result : γ} :
    (first >>= next) = .ok result ↔ ∃ value, first = .ok value ∧ next value = .ok result := by
  cases first with
  | error fault => simp [bind, Except.bind]
  | ok value => simp [bind, Except.bind]

theorem check_bind_eq_ok_iff {first : Except ε Unit} {next : Unit → Except ε γ} {result : γ} :
    (first >>= next) = .ok result ↔ first = .ok () ∧ next () = .ok result := by
  rw [bind_eq_ok_iff]
  exact ⟨fun ⟨_, first, next⟩ => ⟨first, next⟩, fun ⟨first, next⟩ => ⟨(), first, next⟩⟩

theorem check_bind_eq_error_iff {first : Except ε Unit} {next : Unit → Except ε γ} {fault : ε} :
    (first >>= next) = .error fault ↔
      first = .error fault ∨ first = .ok () ∧ next () = .error fault := by
  cases first with
  | error other => simp [bind, Except.bind]
  | ok value => simp [bind, Except.bind]

/-- Two results of which the same is seen still show the same after a check. -/
theorem map_check_bind_congr {first : Except ε Unit} {next next' : Unit → Except ε γ} {view : γ → β}
    (same : (next ()).map view = (next' ()).map view) :
    (first >>= next).map view = (first >>= next').map view := by
  cases first with
  | error fault => rfl
  | ok => exact same

theorem throw_ne_ok {fault : ε} {result : γ} : (throw fault : Except ε γ) ≠ .ok result := by
  simp [throw, throwThe, MonadExceptOf.throw]

theorem pure_eq_ok_iff {value result : γ} :
    (pure value : Except ε γ) = .ok result ↔ value = result := by
  simp [pure, Except.pure]

theorem forM_eq_ok_iff {xs : List β} {check : β → Except ε Unit} :
    xs.forM check = .ok () ↔ ∀ x ∈ xs, check x = .ok () := by
  induction xs with
  | nil => simp [List.forM, pure, Except.pure]
  | cons x xs ih =>
    change (check x >>= fun _ => xs.forM check) = .ok () ↔ _
    rw [check_bind_eq_ok_iff, ih, List.forall_mem_cons]

/-- The first member that is refused decides. -/
theorem forM_eq_error_iff {xs : List β} {check : β → Except ε Unit} {fault : ε} :
    xs.forM check = .error fault ↔ ∃ before x after, xs = before ++ x :: after ∧
      (∀ y ∈ before, check y = .ok ()) ∧ check x = .error fault := by
  constructor
  · intro refused
    induction xs with
    | nil => cases refused
    | cons x xs ih =>
      change (check x >>= fun _ => xs.forM check) = .error fault at refused
      rcases check_bind_eq_error_iff.mp refused with here | ⟨accepted, below⟩
      · exact ⟨[], x, xs, rfl, by simp, here⟩
      · obtain ⟨before, y, after, rfl, earlier, found⟩ := ih below
        exact ⟨x :: before, y, after, rfl, List.forall_mem_cons.mpr ⟨accepted, earlier⟩, found⟩
  · rintro ⟨before, x, after, rfl, earlier, found⟩
    induction before with
    | nil => exact check_bind_eq_error_iff.mpr (.inl found)
    | cons y before ih =>
      obtain ⟨here, earlier⟩ := List.forall_mem_cons.mp earlier
      exact check_bind_eq_error_iff.mpr (.inr ⟨here, ih earlier⟩)

theorem exists_of_forM_eq_error {xs : List β} {check : β → Except ε Unit} {fault : ε}
    (refused : xs.forM check = .error fault) : ∃ x ∈ xs, check x = .error fault := by
  obtain ⟨before, x, after, rfl, -, found⟩ := forM_eq_error_iff.mp refused
  exact ⟨x, List.mem_append_right before List.mem_cons_self, found⟩

variable {α : Type} [Quantity α]

/-- Why a quantity is not a count. -/
def notCount (measure : Measure) (owner : Owner) (value : α) : Fault α :=
  if isFinite value then negative measure owner value else notFinite measure owner value

theorem checkCount_eq_error {measure : Measure} {owner : Owner} {value : α}
    (refused : ¬ IsCount value) :
    checkCount measure owner value = .error (notCount measure owner value) := by
  rw [IsCount, not_and, not_not] at refused
  rw [checkCount, notCount]
  by_cases finite : isFinite value = true
  · rw [if_pos finite, if_pos finite, if_pos (refused finite)]
    rfl
  · rw [if_neg finite, if_neg finite]
    rfl

theorem checkCount_eq_error_iff {measure : Measure} {owner : Owner} {value : α} {fault : Fault α} :
    checkCount measure owner value = .error fault ↔
      ¬ IsCount value ∧ notCount measure owner value = fault := by
  by_cases count : IsCount value
  · rw [checkCount_eq_ok_iff.mpr count]
    exact iff_of_false (by simp) fun refused => refused.1 count
  · rw [checkCount_eq_error count, Except.error.injEq]
    exact (and_iff_right count).symm

end Fault

end TransitDiagram
