import Mathlib
import TransitDiagram.LoadBar

/-!
# Exact arithmetic

In the rational numbers the operations of a layout are those of an ordered field: `larger` is the
maximum, `positivePart` the maximum with zero, and `total` a sum that does not depend on its order.
The lemmas here say so once, so that statements about drawings speak of `max`, `+` and `/` alone.
-/

namespace TransitDiagram

namespace Quantity

theorem isCount_rat {x : Rat} : IsCount x ↔ 0 ≤ x := by
  rw [IsCount, ← not_lt]
  exact ⟨fun h => h.2, fun h => ⟨rfl, h⟩⟩

theorem isPositive_rat {x : Rat} : IsPositive x ↔ 0 < x :=
  ⟨fun h => h.2, fun h => ⟨rfl, h⟩⟩

theorem isNonNegative_rat {x : Rat} : IsNonNegative x ↔ 0 ≤ x :=
  ⟨fun h => h.2, fun h => ⟨rfl, h⟩⟩

theorem larger_rat (a b : Rat) : larger a b = max a b := by
  unfold larger
  by_cases less : a < b
  · rw [if_pos less]
    exact (max_eq_right (le_of_lt less)).symm
  · rw [if_neg less, if_pos (beq_self_eq_true a)]
    exact (max_eq_left (not_lt.mp less)).symm

theorem positivePart_rat (x : Rat) : positivePart x = max x 0 := by
  unfold positivePart
  by_cases positive : 0 < x
  · rw [if_pos positive]
    exact (max_eq_left (le_of_lt positive)).symm
  · rw [if_neg positive]
    exact (max_eq_right (not_lt.mp positive)).symm

theorem total_rat (xs : List Rat) : total xs = xs.sum :=
  List.sum_eq_foldl.symm

theorem sum_map_nonneg {β : Type} {f : β → Rat} {xs : List β} (nonneg : ∀ x ∈ xs, 0 ≤ f x) :
    0 ≤ (xs.map f).sum := by
  refine List.sum_nonneg fun y member => ?_
  obtain ⟨x, given, rfl⟩ := List.mem_map.mp member
  exact nonneg x given

/-- Members that are worth nothing can be left out of a sum. -/
theorem sum_map_filter {β : Type} {f : β → Rat} {p : β → Bool} {xs : List β}
    (worthless : ∀ x ∈ xs, p x = false → f x = 0) : ((xs.filter p).map f).sum = (xs.map f).sum := by
  induction xs with
  | nil => rfl
  | cons x xs ih =>
    obtain ⟨here, below⟩ := List.forall_mem_cons.mp worthless
    cases kept : p x with
    | true => rw [List.filter_cons_of_pos kept, List.map_cons, List.map_cons, List.sum_cons,
        List.sum_cons, ih below]
    | false =>
      rw [List.filter_cons_of_neg (by simp [kept]), List.map_cons, List.sum_cons, ih below,
        here kept, zero_add]

/-- What is not counted may as well count as nothing. -/
theorem sum_map_ite {β : Type} (f : β → Rat) (p : β → Bool) (xs : List β) :
    (xs.map fun x => if p x then f x else 0).sum = ((xs.filter p).map f).sum := by
  induction xs with
  | nil => rfl
  | cons x xs ih => cases kept : p x <;> simp [kept, ih]

/-- The groups by key are worth together what all members are, if every key is counted once. -/
theorem sum_map_groups {β κ : Type} [DecidableEq κ] {key : β → κ} {keys : List κ} {xs : List β}
    (f : β → Rat) (nodup : keys.Nodup) (covered : ∀ x ∈ xs, key x ∈ keys) :
    (keys.map fun k => ((xs.filter fun x => key x = k).map f).sum).sum = (xs.map f).sum := by
  induction xs with
  | nil => simp
  | cons x xs ih =>
    obtain ⟨here, below⟩ := List.forall_mem_cons.mp covered
    -- The first member counts for its own key alone, which occurs once.
    have alone : (keys.filter fun k => key x = k) = [key x] := by
      simp only [eq_comm (a := key x), List.filter_eq]
      rw [List.count_eq_one_of_mem nodup here, List.replicate_one]
    have first : (keys.map fun k => if key x = k then f x else 0).sum = f x := by
      simpa [alone] using sum_map_ite (fun _ => f x) (fun k => decide (key x = k)) keys
    have split (k : κ) : (((x :: xs).filter fun y => key y = k).map f).sum =
        (if key x = k then f x else 0) + ((xs.filter fun y => key y = k).map f).sum := by
      by_cases own : key x = k <;> simp [own]
    simp only [split, List.sum_map_add, ih below, first, List.map_cons, List.sum_cons]

/-- Among members that are worth something, fewer are worth no more. -/
theorem sum_map_filter_le {β : Type} {f : β → Rat} {p q : β → Bool} {xs : List β}
    (fewer : ∀ x ∈ xs, p x = true → q x = true) (nonneg : ∀ x ∈ xs, 0 ≤ f x) :
    ((xs.filter p).map f).sum ≤ ((xs.filter q).map f).sum := by
  have twice : xs.filter p = (xs.filter q).filter p := by
    rw [List.filter_filter]
    refine List.filter_congr fun x member => ?_
    cases kept : p x with
    | true => rw [fewer x member kept, Bool.and_self]
    | false => rw [Bool.false_and]
  rw [twice]
  refine List.Sublist.sum_le_sum (List.filter_sublist.map f) (List.forall_mem_map.mpr ?_)
  exact fun x member => nonneg x (List.mem_of_mem_filter member)

/-- What is picked is worth no more than what it is picked from. -/
theorem sum_map_filterMap_le {β γ : Type} {pick : γ → Option β} {f : β → Rat} {g : γ → Rat}
    {xs : List γ} (nonneg : ∀ x ∈ xs, 0 ≤ g x)
    (bound : ∀ x ∈ xs, ∀ y, pick x = some y → f y ≤ g x) :
    ((xs.filterMap pick).map f).sum ≤ (xs.map g).sum := by
  induction xs with
  | nil => exact le_rfl
  | cons x xs ih =>
    obtain ⟨here, below⟩ := List.forall_mem_cons.mp nonneg
    obtain ⟨bound, bounds⟩ := List.forall_mem_cons.mp bound
    have rest := ih below bounds
    cases picked : pick x with
    | none =>
      rw [List.filterMap_cons_none picked, List.map_cons, List.sum_cons]
      linarith
    | some y =>
      rw [List.filterMap_cons_some picked, List.map_cons, List.map_cons, List.sum_cons,
        List.sum_cons]
      exact add_le_add (bound y picked) rest

/-- The running maximum is reached, by its start or by a member, and nothing exceeds it. -/
theorem isGreatest_foldl_larger {β : Type} (f : β → Rat) (start : Rat) (xs : List β) :
    IsGreatest {y | y = start ∨ ∃ x ∈ xs, f x = y}
      (xs.foldl (fun bound x => larger bound (f x)) start) := by
  induction xs generalizing start with
  | nil => exact ⟨.inl rfl, by rintro y (rfl | ⟨x, member, -⟩) <;> simp_all⟩
  | cons x xs ih =>
    rw [List.foldl_cons, larger_rat]
    obtain ⟨reached, bound⟩ := ih (max start (f x))
    have start_le := le_trans (le_max_left start (f x)) (bound (.inl rfl))
    have head_le := le_trans (le_max_right start (f x)) (bound (.inl rfl))
    -- What the rest starts from is the old start or the head, whichever is larger.
    constructor
    · rcases reached with eq | ⟨y, member, eq⟩
      · rcases max_choice start (f x) with h | h
        · exact .inl (eq.trans h)
        · exact .inr ⟨x, List.mem_cons_self, (eq.trans h).symm⟩
      · exact .inr ⟨y, List.mem_cons_of_mem x member, eq⟩
    · rintro y (rfl | ⟨z, member, rfl⟩)
      · exact start_le
      · rcases List.mem_cons.mp member with rfl | member
        · exact head_le
        · exact bound (.inr ⟨z, member, rfl⟩)

theorem isGreatest_largest {β : Type} {f : β → Rat} {xs : List β} (nonempty : xs ≠ [])
    (nonneg : ∀ x ∈ xs, 0 ≤ f x) :
    IsGreatest {y | ∃ x ∈ xs, f x = y} (largest (xs.map f)) := by
  have greatest := isGreatest_foldl_larger f 0 xs
  rw [largest, List.foldl_map]
  refine ⟨?_, fun y member => greatest.2 (.inr member)⟩
  rcases greatest.1 with zero | member
  · obtain ⟨x, member⟩ := List.exists_mem_of_ne_nil xs nonempty
    refine ⟨x, member, le_antisymm (greatest.2 (.inr ⟨x, member, rfl⟩)) ?_⟩
    exact zero.trans_le (nonneg x member)
  · exact member

end Quantity

open Quantity

namespace Extent

theorem raised_rat (value extent least : Rat) :
    raised value extent least = if 0 < value then max extent least else extent := by
  rw [raised, larger_rat]

theorem ribbon_rat (value scale least : Rat) :
    ribbon value scale least = if value ≤ 0 then 0 else max (value / scale) least := by
  rw [ribbon, larger_rat]
  rfl

/-- A ribbon is as thick as its count says, and as much more as the nodes at its ends make room
for. -/
theorem thickening_rat {value scale least : Rat} (count : 0 ≤ value) :
    thickening value scale least = ribbon value scale least - value / scale := by
  rw [thickening, positivePart_rat, ribbon_rat, ofCount]
  by_cases vanishing : value ≤ 0
  · have zero : value = 0 := le_antisymm vanishing count
    rw [if_pos vanishing, if_pos vanishing, zero, zero_div, sub_zero]
  · rw [if_neg vanishing, if_neg vanishing]
    exact max_eq_left (sub_nonneg.mpr (le_max_left _ _))

theorem thickening_nonneg (value scale least : Rat) : 0 ≤ thickening value scale least := by
  rw [thickening, positivePart_rat]
  split
  · exact le_refl _
  · exact le_max_right _ _

/-- A ribbon is thickened if it is for somebody and would be thinner than the least one. -/
theorem thickening_eq_zero_iff {value scale least : Rat} (positive : 0 < scale) :
    thickening value scale least = 0 ↔ value ≤ 0 ∨ least * scale ≤ value := by
  rw [thickening, positivePart_rat, ribbon_rat, ofCount, ← le_div_iff₀ positive]
  by_cases vanishing : value ≤ 0
  · simp [vanishing]
  · rw [if_neg vanishing, if_neg vanishing, max_eq_right_iff, sub_nonpos, max_le_iff]
    simp [vanishing]

theorem ribbon_pos_iff {value scale least : Rat} (positive : 0 < scale) :
    0 < ribbon value scale least ↔ 0 < value := by
  rw [ribbon_rat]
  by_cases vanishing : value ≤ 0
  · simp [vanishing]
  · rw [if_neg vanishing]
    have present : 0 < value := not_le.mp vanishing
    exact ⟨fun _ => present, fun _ => lt_max_of_lt_left (div_pos present positive)⟩

theorem least_le_ribbon {value scale least : Rat} (present : 0 < value) :
    least ≤ ribbon value scale least := by
  rw [ribbon_rat, if_neg (not_le.mpr present)]
  exact le_max_right _ _

end Extent

end TransitDiagram
