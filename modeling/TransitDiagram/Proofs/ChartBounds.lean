import TransitDiagram.Proofs.Charts
import TransitDiagram.Proofs.Clock
import TransitDiagram.Proofs.LoadBars

/-!
# The bounds of a day chart

A bar of a day chart begins on the axis, does not run backwards, and stands on or above the
baseline. In exact arithmetic nothing else holds it back: its position is linear in time and its
height is linear in the load. So a bar runs past the axis exactly if it ends after the hours of the
frame, and out of the top exactly if it shows more passengers than the height of the chart is worth.
Overflow is cut at the top.
-/

namespace TransitDiagram

open Quantity

/-! ### Spans on the axis -/

namespace ClockTime

variable {s t : ClockTime} {width frameHours : Rat}

theorem position_nonneg (wide : 0 ≤ width) (positive : 0 < frameHours) :
    0 ≤ t.position width frameHours := by
  rw [position_rat positive]
  positivity

theorem position_le_position (wide : 0 ≤ width) (positive : 0 < frameHours)
    (earlier : s.minutes ≤ t.minutes) :
    s.position width frameHours ≤ t.position width frameHours := by
  rw [position_rat positive, position_rat positive]
  gcongr

theorem position_le_width_iff (wide : 0 < width) (positive : 0 < frameHours) :
    t.position width frameHours ≤ width ↔ (t.minutes : Rat) ≤ 60 * frameHours := by
  have hours : 0 < 60 * frameHours := by positivity
  rw [position_rat positive, div_le_iff₀ hours, mul_le_mul_iff_of_pos_left wide]

end ClockTime

namespace DaySpan

/-- A stretch of one day. -/
structure IsProper (span : DaySpan) : Prop where
  departure : span.departure.IsValid
  arrival : span.arrival.IsValid
  forward : span.departure.minutes ≤ span.arrival.minutes

variable {start stop departure arrival : ClockTime} {span : DaySpan}

theorem isProper_of_mem_cut (valid : start.IsValid) (valid' : stop.IsValid)
    (member : span ∈ cut start stop) : span.IsProper := by
  simp only [cut, ClockTime.before_iff valid' valid] at member
  split at member
  · rcases List.mem_pair.mp member with rfl | rfl
    · exact ⟨valid, ClockTime.isValid_dayEnd, ClockTime.minutes_le valid⟩
    · exact ⟨ClockTime.isValid_midnight, valid', Nat.zero_le _⟩
  · next inOrder =>
    obtain rfl := List.mem_singleton.mp member
    exact ⟨valid, valid', not_lt.mp inOrder⟩

theorem isProper_of_mem_between (valid : departure.IsValid) (valid' : arrival.IsValid)
    (member : span ∈ between departure arrival) : span.IsProper := by
  by_cases fromEnd : departure = .dayEnd
  · subst fromEnd
    rw [between_dayEnd valid'] at member
    exact isProper_of_mem_cut ClockTime.isValid_midnight valid' member
  · rw [between_of_ne_dayEnd fromEnd] at member
    split at member
    · exact isProper_of_mem_cut valid ClockTime.isValid_dayEnd member
    · exact isProper_of_mem_cut valid valid' member

theorem IsProper.extent_nonneg {width frameHours : Rat} (proper : span.IsProper) (wide : 0 ≤ width)
    (positive : 0 < frameHours) : 0 ≤ span.extent width frameHours :=
  sub_nonneg.mpr (ClockTime.position_le_position wide positive proper.forward)

end DaySpan

/-! ### Bars on the chart -/

namespace TripSection

variable {trip : TripSection Rat} {style : DayChartStyle Rat} {kind : BarKind}
  {part : BarPart Rat}

/-- What is not cut stands on the baseline, as high as its passengers. -/
theorem bounds_of_mem_parts (accepted : style.IsDrawable) (drawable : trip.IsDrawable)
    (member : (kind, part) ∈ trip.parts style) :
    0 ≤ part.extent ∧ part.stop ≤ style.height ∧
      (0 ≤ part.start ↔ kind = .overflow ∨ part.value ≤ style.height * style.capacityScale) := by
  have scaled := isPositive_rat.mp accepted.capacityScale
  have tall := le_of_lt (isPositive_rat.mp accepted.height)
  have standing {count : Rat} (counted : 0 ≤ count) :
      0 ≤ style.height - (style.height - count / style.capacityScale) ∧
        (0 ≤ style.height - count / style.capacityScale ↔
          count ≤ style.height * style.capacityScale) := by
    rw [sub_sub_cancel, sub_nonneg, div_le_iff₀ scaled]
    exact ⟨div_nonneg counted (le_of_lt scaled), Iff.rfl⟩
  simp only [parts, List.mem_append, List.mem_singleton, List.mem_map, Option.mem_toList,
    Prod.mk.injEq] at member
  rcases member with (⟨rfl, rfl⟩ | ⟨_, beyond, rfl, rfl⟩) | ⟨reference, given, rfl, rfl⟩
  · have counted := le_min (isCount_rat.mp drawable.occupancy) (isCount_rat.mp drawable.capacity)
    rw [loadBar, LoadBar.within_ofLoad_rat]
    simpa [BarPart.extent] using standing counted
  · have places := div_nonneg (isCount_rat.mp drawable.capacity) scaled.le
    obtain ⟨top, forward, bottom⟩ := LoadBar.bounds_of_overflow_ofAmounts_eq_some tall places
      (isNonNegative_rat.mp accepted.overflowGap) beyond
    exact ⟨sub_nonneg.mpr forward, bottom, iff_of_true top (.inl rfl)⟩
  · have counted := isCount_rat.mp (drawable.reference reference given)
    simpa [BarPart.extent, referencePart, Extent.ofCount] using standing counted

theorem mem_dayBars_iff {bar : DayBar Rat} :
    bar ∈ trip.dayBars style ↔ ∃ span ∈ trip.spans, ∃ kind part, (kind, part) ∈ trip.parts style ∧
      bar = ⟨trip.key, kind, span, span.departure.position style.width style.frameHours,
        span.extent style.width style.frameHours, part.start, part.extent, part.value,
        trip.capacity, Extent.fillRatio trip.occupancy trip.capacity⟩ := by
  simp only [dayBars, List.mem_flatMap, List.mem_map, Prod.exists, eq_comm (a := bar)]

end TripSection

/-- No bar begins before the axis, runs backwards or reaches below the baseline. It ends on the axis
exactly if it ends within the hours of the frame, which is always so if they cover a day. It stays
below the top of the chart exactly if it is overflow or if the height of the chart is worth its
passengers. -/
theorem DayChart.draw_bounded {trips : List (TripSection Rat)} {style : DayChartStyle Rat}
    {chart : DayChart Rat} (drawn : draw trips style = .ok chart) :
    ∀ bar ∈ chart.bars,
      0 ≤ bar.x ∧ 0 ≤ bar.width ∧ 0 ≤ bar.height ∧ bar.y + bar.height ≤ chart.height ∧
      (bar.x + bar.width ≤ chart.width ↔ bar.span.arrival.minutes ≤ 60 * style.frameHours) ∧
      (24 ≤ style.frameHours → bar.x + bar.width ≤ chart.width) ∧
      (0 ≤ bar.y ↔ bar.kind = .overflow ∨ bar.value ≤ chart.height * style.capacityScale) := by
  obtain ⟨accepted, drawable, rfl⟩ := draw_eq_ok_iff.mp drawn
  have wide := isPositive_rat.mp accepted.width
  have positive := isPositive_rat.mp accepted.frameHours
  intro bar member
  obtain ⟨trip, given, member⟩ := List.mem_flatMap.mp member
  obtain ⟨span, cut, kind, part, shown, rfl⟩ := TripSection.mem_dayBars_iff.mp member
  have checked := drawable trip given
  have proper := DaySpan.isProper_of_mem_between checked.departure checked.arrival cut
  obtain ⟨tall, bottom, top⟩ := TripSection.bounds_of_mem_parts accepted checked shown
  -- A bar ends where its span arrives, on the axis as on the clock.
  have stop : span.departure.position style.width style.frameHours +
      span.extent style.width style.frameHours =
        span.arrival.position style.width style.frameHours :=
    add_sub_cancel _ _
  have onAxis := ClockTime.position_le_width_iff (t := span.arrival) wide positive
  refine ⟨ClockTime.position_nonneg (le_of_lt wide) positive,
    proper.extent_nonneg (le_of_lt wide) positive, tall, ?_, ?_, ?_, top⟩
  · show part.start + (part.stop - part.start) ≤ style.height
    rwa [add_sub_cancel]
  · exact stop ▸ onAxis
  · intro wholeDay
    have late : (span.arrival.minutes : Rat) ≤ 1440 := mod_cast ClockTime.minutes_le proper.arrival
    exact stop ▸ onAxis.mpr (by linarith)

/-- A chart of twelve hours. -/
def DayChartStyle.halfDay : DayChartStyle Rat :=
  { plain with frameHours := 12 }

/-- A crowded section across midnight, and one in the morning with room to spare. -/
def crowdedNight : List (TripSection Rat) :=
  [⟨⟨"a"⟩, ⟨23, 50⟩, ⟨0, 20⟩, 3900, 2860, some 3000⟩, ⟨⟨"b"⟩, ⟨8, 0⟩, ⟨9, 30⟩, 130, 260, none⟩]

theorem crowdedNight_isDrawable : ∀ trip ∈ crowdedNight, trip.IsDrawable := by
  simp only [← TripSection.check_eq_ok_iff]
  decide +kernel

theorem DayChartStyle.isDrawable_halfDay : halfDay.IsDrawable :=
  check_eq_ok_iff.mp (by decide +kernel)

/-- On twelve hours the overflow of the night stays below the top, beyond the end of the axis. -/
theorem DayChart.draw_bounded_crowdedNight :
    ∃ chart, draw crowdedNight .halfDay = .ok chart ∧
      (chart.bars.map fun bar => (bar.kind, bar.span.wrapped)) =
        [(.load, false), (.overflow, false), (.reference, false), (.load, true),
          (.overflow, true), (.reference, true), (.load, false)] ∧
      ∀ bar ∈ chart.bars,
        0 ≤ bar.x ∧ 0 ≤ bar.width ∧ 0 ≤ bar.height ∧ bar.y + bar.height ≤ chart.height ∧
        (bar.x + bar.width ≤ chart.width ↔ (bar.span.arrival.minutes : Rat) ≤ 60 * 12) ∧
        (0 ≤ bar.y ↔ bar.kind = .overflow ∨ bar.value ≤ chart.height * 13) := by
  have drawn :=
    draw_eq_ok_iff.mpr ⟨DayChartStyle.isDrawable_halfDay, crowdedNight_isDrawable, rfl⟩
  refine ⟨_, drawn, by decide +kernel, fun bar member => ?_⟩
  obtain ⟨left, forward, tall, bottom, axis, -, top⟩ := draw_bounded drawn bar member
  exact ⟨left, forward, tall, bottom, axis, top⟩

/-- What happens late at night is drawn beyond the end of the axis, and the load of the night
reaches out of the top of the chart. -/
theorem DayChart.draw_beyondBounds :
    ∃ chart, draw crowdedNight .halfDay = .ok chart ∧
      (∃ bar ∈ chart.bars, chart.width < bar.x + bar.width) ∧ (∃ bar ∈ chart.bars, bar.y < 0) := by
  have drawn :=
    draw_eq_ok_iff.mpr ⟨DayChartStyle.isDrawable_halfDay, crowdedNight_isDrawable, rfl⟩
  exact ⟨_, drawn, by decide +kernel, by decide +kernel⟩

end TransitDiagram
