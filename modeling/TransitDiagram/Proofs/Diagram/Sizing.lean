import TransitDiagram.Proofs.Diagram.Acceptance
import TransitDiagram.Proofs.Exact

/-!
# Sizes in exact arithmetic

The extent of a node grows with its count, so that a body reaches past its backdrop only when the
node is overflowing. `Size.IsProper` is what the placement of a node relies on, and every node of a
drawable diagram has a proper size.
-/

namespace TransitDiagram

open Quantity

/-- A size whose backdrop has an extent and whose overflow is what the body reaches past it. -/
structure Size.IsProper (size : Size Rat) : Prop where
  backdrop_nonneg : 0 ≤ size.backdrop
  overflow_eq : size.overflow = max (size.body - size.backdrop) 0

theorem Size.IsProper.max_body_backdrop {size : Size Rat} (proper : size.IsProper) :
    max size.body size.backdrop = size.backdrop + size.overflow := by
  rw [proper.overflow_eq, ← max_add_add_left, add_sub_cancel, add_zero]

namespace Style

variable {style : Style Rat}

theorem IsDrawable.scale_pos (drawable : style.IsDrawable) : 0 < style.scale :=
  isPositive_rat.mp drawable.scale

theorem IsDrawable.padding_nonneg (drawable : style.IsDrawable) : 0 ≤ style.padding :=
  isNonNegative_rat.mp drawable.padding

theorem IsDrawable.leastNode_le_leastLink (drawable : style.IsDrawable) :
    style.leastNode ≤ style.leastLink :=
  not_lt.mp drawable.leastNode_le

end Style

namespace Node

variable {style : Style Rat}

theorem compensation_rat (style : Style Rat) (values : List Rat) :
    compensation style values =
      (values.map fun value => Extent.thickening value style.scale style.leastLink).sum :=
  total_rat _

theorem compensation_nonneg (style : Style Rat) (values : List Rat) :
    0 ≤ compensation style values := by
  rw [compensation_rat]
  exact sum_map_nonneg fun value _ => Extent.thickening_nonneg value _ _

/-- What the ribbons of a node add to it is what they take beyond the count of their links. -/
theorem compensation_eq {style : Style Rat} {values : List Rat} (counts : ∀ v ∈ values, 0 ≤ v) :
    compensation style values =
      (values.map fun value => Extent.ribbon value style.scale style.leastLink).sum -
        values.sum / style.scale := by
  rw [compensation_rat]
  induction values with
  | nil => simp
  | cons value rest ih =>
    obtain ⟨count, counts⟩ := List.forall_mem_cons.mp counts
    simp only [List.map_cons, List.sum_cons, ih counts, Extent.thickening_rat count]
    ring

theorem extentOf_rat (style : Style Rat) (count added : Rat) :
    extentOf style count added =
      if 0 < count then max (count / style.scale + added) style.leastNode
      else count / style.scale + added := by
  rw [extentOf, Extent.raised_rat, Extent.ofCount]

theorem extentOf_zero (style : Style Rat) (added : Rat) : extentOf style 0 added = added := by
  rw [extentOf_rat, if_neg (lt_irrefl 0), zero_div, zero_add]

theorem count_le_extentOf (style : Style Rat) (count added : Rat) :
    count / style.scale + added ≤ extentOf style count added := by
  rw [extentOf_rat]
  split
  · exact le_max_left _ _
  · exact le_rfl

/-- More passengers take no less room. -/
theorem extentOf_le_extentOf (drawable : style.IsDrawable) {less more added : Rat}
    (count : 0 ≤ less) (order : less ≤ more) :
    extentOf style less added ≤ extentOf style more added := by
  have quotient : less / style.scale ≤ more / style.scale :=
    div_le_div_of_nonneg_right order drawable.scale_pos.le
  rcases count.eq_or_lt with rfl | positive
  · rw [extentOf_zero]
    refine le_trans ?_ (count_le_extentOf style more added)
    linarith [zero_div style.scale]
  · rw [extentOf_rat, extentOf_rat, if_pos positive, if_pos (positive.trans_le order)]
    exact max_le_max (by linarith) le_rfl

theorem extentOf_nonneg (drawable : style.IsDrawable) {count added : Rat} (nonneg : 0 ≤ count)
    (added_nonneg : 0 ≤ added) : 0 ≤ extentOf style count added :=
  le_trans added_nonneg
    ((extentOf_zero style added).ge.trans (extentOf_le_extentOf drawable le_rfl nonneg))

/-- A body that is not overflowing stays in front of its backdrop. -/
theorem body_le_backdrop (drawable : style.IsDrawable) {node : Node Rat}
    (occupancy : 0 ≤ node.occupancy) (calm : node.isOverflowing = false) (values : List Rat) :
    (node.size style values).body ≤ (node.size style values).backdrop := by
  simp only [size]
  by_cases sentinel : node.key.isSentinel = true
  · rw [if_pos sentinel]
  · rw [if_neg sentinel]
    refine extentOf_le_extentOf drawable occupancy (not_lt.mp fun exceeds => ?_)
    simp [isOverflowing, sentinel, exceeds] at calm

/-- A body that is overflowing is at least as long as its backdrop. -/
theorem backdrop_le_body (drawable : style.IsDrawable) {node : Node Rat}
    (capacity : 0 ≤ node.capacity) (overflowing : node.isOverflowing = true) (values : List Rat) :
    (node.size style values).backdrop ≤ (node.size style values).body := by
  simp only [isOverflowing, Bool.and_eq_true, Bool.not_eq_true', decide_eq_true_iff] at overflowing
  obtain ⟨real, exceeds⟩ := overflowing
  simp only [size, real, Bool.false_eq_true, if_false]
  exact extentOf_le_extentOf drawable capacity exceeds.le

theorem isProper_size (drawable : style.IsDrawable) {node : Node Rat}
    (occupancy : 0 ≤ node.occupancy) (capacity : 0 ≤ node.capacity) (values : List Rat) :
    (node.size style values).IsProper := by
  have added := compensation_nonneg style values
  constructor
  · simp only [size]
    split
    · exact extentOf_nonneg drawable occupancy added
    · exact extentOf_nonneg drawable capacity added
  · have overflow : (node.size style values).overflow = if node.isOverflowing then
        positivePart ((node.size style values).body - (node.size style values).backdrop)
        else 0 := rfl
    rw [overflow, positivePart_rat]
    by_cases calm : node.isOverflowing = true
    · rw [if_pos calm]
    · rw [if_neg calm]
      have behind := body_le_backdrop drawable occupancy (by simpa using calm) values
      exact (max_eq_right (sub_nonpos.mpr behind)).symm

end Node

end TransitDiagram
