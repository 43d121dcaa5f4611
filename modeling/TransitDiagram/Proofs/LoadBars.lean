import TransitDiagram.Proofs.Exact

/-!
# Parts of a load bar

A load bar is divided at the capacity: what exceeds it is the overflow, and the counts of both parts
add up to the load. In exact arithmetic the overflow ends a seam above the part within capacity and
is drawn a seam shorter than it is, as far as there is room above zero (`LoadBar.IsBeyond`); so it
stays between zero and the baseline, wherever the part within capacity ends.
-/

namespace TransitDiagram

open Quantity

namespace LoadBar

/-- The parts of a bar, from the baseline outwards. -/
def parts {α : Type} (bar : LoadBar α) : List (BarPart α) :=
  bar.within :: bar.overflow.toList

variable {baseline gap : Rat} {load capacity : Amount Rat} {part : BarPart Rat}

theorem isOverflowing_ofAmounts_iff :
    (ofAmounts baseline load capacity gap).isOverflowing = true ↔ capacity.count < load.count := by
  rw [ofAmounts, ← not_le]
  split
  · next fits => exact iff_of_false (by simp [isOverflowing]) (not_not_intro fits)
  · next exceeds => exact iff_of_true rfl exceeds

/-- Nobody is lost where a bar is divided. -/
theorem sum_value_parts_ofAmounts :
    ((ofAmounts baseline load capacity gap).parts.map (·.value)).sum = load.count := by
  rw [ofAmounts]
  split
  · exact add_zero load.count
  · show capacity.count + (load.count - capacity.count + 0) = load.count
    ring

theorem within_ofAmounts_of_lt (exceeds : capacity.count < load.count) :
    (ofAmounts baseline load capacity gap).within =
      ⟨baseline - capacity.extent, baseline, capacity.count⟩ := by
  rw [ofAmounts, if_neg exceeds.not_ge]

/-- The part within capacity is as high as its passengers. -/
theorem within_ofLoad_rat {occupancy places scale : Rat} :
    (ofLoad baseline occupancy places scale gap).within =
      ⟨baseline - min occupancy places / scale, baseline, min occupancy places⟩ := by
  rw [ofLoad, ofAmounts]
  split
  · next fits => rw [min_eq_left fits]; rfl
  · next exceeds => rw [min_eq_right (le_of_not_ge exceeds)]; rfl

/-- A load that fits above the baseline is cut at zero by its seam alone: the overflow loses the
seam of its extent, and nothing else. -/
theorem ofAmounts_of_lt (exceeds : capacity.count < load.count)
    (longer : capacity.extent ≤ load.extent) (fits : load.extent ≤ baseline) :
    ofAmounts baseline load capacity gap =
      ⟨⟨baseline - capacity.extent, baseline, capacity.count⟩,
        some ⟨max (baseline - capacity.extent - gap) 0 -
            max (load.extent - capacity.extent - gap) 0,
          max (baseline - capacity.extent - gap) 0, load.count - capacity.count⟩,
        load.extent - capacity.extent⟩ := by
  have overflowExtent : max (load.extent - capacity.extent) 0 = load.extent - capacity.extent :=
    max_eq_left (sub_nonneg.mpr longer)
  have rendered : max (load.extent - capacity.extent - gap) 0 ≤
      max (baseline - capacity.extent - gap) 0 :=
    max_le_max (by linarith) le_rfl
  rw [ofAmounts, if_neg exceeds.not_ge]
  simp only [positivePart_rat, overflowExtent, max_eq_left (sub_nonneg.mpr rendered)]

/-! ### The overflow -/

/-- A part that shows so many passengers beyond the capacity of a bar. It ends a seam above the part
within capacity, and is a seam shorter than the overflow; neither goes beyond zero. -/
structure IsBeyond (excess gap : Rat) (bar : LoadBar Rat) (part : BarPart Rat) : Prop where
  value_eq : part.value = excess
  stop_eq : part.stop = max (bar.within.start - gap) 0
  extent_eq : part.extent = min (max (bar.overflowExtent - gap) 0) part.stop

theorem isBeyond_of_overflow_ofAmounts_eq_some
    (beyond : (ofAmounts baseline load capacity gap).overflow = some part) :
    (ofAmounts baseline load capacity gap).IsBeyond (load.count - capacity.count) gap part := by
  rw [ofAmounts] at beyond ⊢
  split at beyond
  · cases beyond
  · next exceeds =>
    obtain rfl := Option.some.inj beyond
    rw [if_neg exceeds]
    refine ⟨rfl, positivePart_rat _, ?_⟩
    rw [BarPart.extent]
    simp only [positivePart_rat]
    rw [← min_sub_sub_left, sub_sub_cancel, sub_zero]

namespace IsBeyond

variable {excess : Rat} {bar : LoadBar Rat}

theorem stop_nonneg (beyond : bar.IsBeyond excess gap part) : 0 ≤ part.stop := by
  rw [beyond.stop_eq]
  exact le_max_right _ _

theorem start_le_stop (beyond : bar.IsBeyond excess gap part) : part.start ≤ part.stop := by
  have extent : part.stop - part.start = _ := beyond.extent_eq
  exact sub_nonneg.mp (extent.symm ▸ le_min (le_max_right _ _) beyond.stop_nonneg)

theorem start_nonneg (beyond : bar.IsBeyond excess gap part) : 0 ≤ part.start := by
  have extent : part.stop - part.start = _ := beyond.extent_eq
  exact (sub_le_self_iff _).mp (extent.trans_le (min_le_right _ _))

/-- The parts do not overlap unless the one within capacity reaches beyond zero itself. -/
theorem stop_le_within (beyond : bar.IsBeyond excess gap part) (seam : 0 ≤ gap)
    (room : 0 ≤ bar.within.start) : part.stop ≤ bar.within.start := by
  rw [beyond.stop_eq]
  exact max_le (sub_le_self _ seam) room

theorem seam_eq (beyond : bar.IsBeyond excess gap part) (room : gap ≤ bar.within.start) :
    bar.within.start - part.stop = gap := by
  rw [beyond.stop_eq, max_eq_left (sub_nonneg.mpr room), sub_sub_cancel]

end IsBeyond

/-- The overflow lies between zero and the part within capacity. -/
theorem bounds_of_overflow_ofAmounts_eq_some (tall : 0 ≤ baseline) (places : 0 ≤ capacity.extent)
    (seam : 0 ≤ gap) (beyond : (ofAmounts baseline load capacity gap).overflow = some part) :
    0 ≤ part.start ∧ part.start ≤ part.stop ∧ part.stop ≤ baseline := by
  have shown := isBeyond_of_overflow_ofAmounts_eq_some beyond
  have exceeds : capacity.count < load.count :=
    isOverflowing_ofAmounts_iff.mp (Option.isSome_of_eq_some beyond)
  refine ⟨shown.start_nonneg, shown.start_le_stop, ?_⟩
  rw [shown.stop_eq, within_ofAmounts_of_lt exceeds]
  exact max_le (by linarith) tall

/-- A bar whose amounts fit between zero and the baseline stays there with both parts. -/
theorem bounds_of_mem_parts_ofAmounts (seam : 0 ≤ gap) (load_nonneg : 0 ≤ load.extent)
    (load_le : load.extent ≤ baseline) (places : 0 ≤ capacity.extent)
    (places_le : capacity.extent ≤ baseline)
    (member : part ∈ (ofAmounts baseline load capacity gap).parts) :
    0 ≤ part.start ∧ part.start ≤ part.stop ∧ part.stop ≤ baseline := by
  rcases List.mem_cons.mp member with rfl | beyond
  · rw [ofAmounts]
    split
    · exact ⟨sub_nonneg.mpr load_le, sub_le_self _ load_nonneg, le_rfl⟩
    · exact ⟨sub_nonneg.mpr places_le, sub_le_self _ places, le_rfl⟩
  · exact bounds_of_overflow_ofAmounts_eq_some (places.trans places_le) places seam
      (Option.mem_toList.mp beyond)

/-! ### Loads to scale -/

variable {occupancy places scale : Rat}

/-- The overflow is as long as the passengers beyond the capacity, before the seam is taken off. -/
theorem overflowExtent_ofLoad_rat (scaled : 0 < scale) :
    (ofLoad baseline occupancy places scale gap).overflowExtent =
      max (occupancy - places) 0 / scale := by
  rw [ofLoad, ofAmounts]
  split
  · next fits => rw [max_eq_right (sub_nonpos.mpr fits), zero_div]
  · next exceeds =>
    have more : 0 ≤ occupancy - places := sub_nonneg.mpr (le_of_not_ge exceeds)
    show positivePart (occupancy / scale - places / scale) = _
    rw [positivePart_rat, ← sub_div, max_eq_left more, max_eq_left (div_nonneg more scaled.le)]

/-- A bar that divides a load at a capacity. The part within capacity stands on the baseline, as
high as its passengers. There is an overflow exactly if the load exceeds the capacity; nobody is
lost, and what is drawn of it lies between zero and the part within capacity, if that leaves any
room, with the whole seam between them if there is room for it. -/
structure IsDivision (baseline occupancy places scale gap : Rat) (bar : LoadBar Rat) : Prop where
  within_stop : bar.within.stop = baseline
  within_value : bar.within.value = min occupancy places
  within_extent : bar.within.extent = min occupancy places / scale
  overflowExtent_eq : bar.overflowExtent = max (occupancy - places) 0 / scale
  isOverflowing_iff : bar.isOverflowing = true ↔ places < occupancy
  sum_value : (bar.parts.map (·.value)).sum = occupancy
  beyond : ∀ part, bar.overflow = some part → bar.IsBeyond (occupancy - places) gap part
  between : ∀ part, bar.overflow = some part → 0 ≤ part.start ∧ part.start ≤ part.stop ∧
    (0 ≤ bar.within.start → part.stop ≤ bar.within.start) ∧
    (gap ≤ bar.within.start → bar.within.start - part.stop = gap)

/-- Every load is divided exactly, however short the bar, the overflow or the seam. -/
theorem ofLoad_isDivision (baseline occupancy places : Rat) (scaled : 0 < scale) (seam : 0 ≤ gap) :
    IsDivision baseline occupancy places scale gap
      (ofLoad baseline occupancy places scale gap) where
  within_stop := by rw [within_ofLoad_rat]
  within_value := by rw [within_ofLoad_rat]
  within_extent := by rw [within_ofLoad_rat, BarPart.extent, sub_sub_cancel]
  overflowExtent_eq := overflowExtent_ofLoad_rat scaled
  isOverflowing_iff := isOverflowing_ofAmounts_iff
  sum_value := sum_value_parts_ofAmounts
  beyond _ shown := isBeyond_of_overflow_ofAmounts_eq_some shown
  between part shown := by
    have beyond := isBeyond_of_overflow_ofAmounts_eq_some shown
    exact ⟨beyond.start_nonneg, beyond.start_le_stop, beyond.stop_le_within seam, beyond.seam_eq⟩

/-- Of a bar of twenty the capacity leaves five. The overflow ends a seam above that and is cut at
the top, since it would be longer than what is left. Of a bar of ten the capacity leaves nothing,
and nothing is drawn of the overflow. -/
theorem ofLoad_isDivision_shortBars :
    ofLoad 20 101 60 4 (3 / 2) =
        (⟨⟨5, 20, 60⟩, some ⟨0, 7 / 2, 41⟩, 41 / 4⟩ : LoadBar Rat) ∧
      IsDivision 20 101 60 4 (3 / 2) ⟨⟨5, 20, 60⟩, some ⟨0, 7 / 2, 41⟩, 41 / 4⟩ ∧
      ofLoad 10 101 60 4 (3 / 2) =
        (⟨⟨-5, 10, 60⟩, some ⟨0, 0, 41⟩, 41 / 4⟩ : LoadBar Rat) ∧
      IsDivision 10 101 60 4 (3 / 2) ⟨⟨-5, 10, 60⟩, some ⟨0, 0, 41⟩, 41 / 4⟩ := by
  have cut : ofLoad 20 101 60 4 (3 / 2) =
      (⟨⟨5, 20, 60⟩, some ⟨0, 7 / 2, 41⟩, 41 / 4⟩ : LoadBar Rat) := by decide +kernel
  have hidden : ofLoad 10 101 60 4 (3 / 2) =
      (⟨⟨-5, 10, 60⟩, some ⟨0, 0, 41⟩, 41 / 4⟩ : LoadBar Rat) := by decide +kernel
  refine ⟨cut, cut ▸ ofLoad_isDivision 20 101 60 ?_ ?_, hidden,
    hidden ▸ ofLoad_isDivision 10 101 60 ?_ ?_⟩
  all_goals norm_num

end LoadBar

end TransitDiagram
