import TransitDiagram.Proofs.Charts
import TransitDiagram.Proofs.Clock

/-!
# Travel times in both charts

A day chart draws a section of a trip as wide as its spans last, and a journey chart reports how
long it travels. In exact arithmetic the two agree, except for sections from `24:00` to `24:00`: the
day chart draws a whole day for them, and the journey chart reports no minute.
-/

namespace TransitDiagram

open Quantity

/-! ### Sections -/

namespace TripSection

variable {α : Type}

/-- The minutes of a section that a journey chart does not report. -/
def unreportedMinutes (trip : TripSection α) : Nat :=
  if trip.departure = .dayEnd ∧ trip.arrival = .dayEnd then 1440 else 0

theorem totalMinutes_spans {trip : TripSection α} (departure : trip.departure.IsValid)
    (arrival : trip.arrival.IsValid) :
    DaySpan.totalMinutes trip.spans = trip.travelledMinutes + trip.unreportedMinutes := by
  rw [spans, DaySpan.totalMinutes_between departure arrival, travelledMinutes, unreportedMinutes]
  have := ClockTime.minutes_le departure
  split_ifs <;> push_cast <;> omega

/-- The minutes of a section fit into the number that reports them. -/
theorem toNat_travelledMinutes {trip : TripSection α} (departure : trip.departure.IsValid)
    (arrival : trip.arrival.IsValid) :
    (UInt32.ofNat trip.travelledMinutes).toNat = trip.travelledMinutes := by
  have := ClockTime.minutes_le departure
  have := ClockTime.minutes_le arrival
  have fits : trip.travelledMinutes < 2 ^ 32 := by
    rw [travelledMinutes]
    split <;> omega
  exact UInt32.toNat_ofNat_of_lt' fits

end TripSection

/-! ### Day charts -/

/-- The bars that show the loads within capacity. -/
def DayBar.loads {α : Type} (bars : List (DayBar α)) : List (DayBar α) :=
  bars.filter fun bar => bar.kind = .load

def DayBar.loadWidth (bars : List (DayBar Rat)) : Rat :=
  ((loads bars).map (·.width)).sum

namespace TripSection

/-- A section has one bar for its load on each of its spans. -/
theorem map_width_loads {α : Type} [Quantity α] (style : DayChartStyle α) (trip : TripSection α) :
    (DayBar.loads (trip.dayBars style)).map (·.width) =
      trip.spans.map fun span => span.extent style.width style.frameHours := by
  have one : (trip.parts style).filter (fun part => part.1 = .load) =
      [(.load, (trip.loadBar style).within)] := by
    simp [parts]
  rw [DayBar.loads, dayBars, List.filter_flatMap, List.map_flatMap, List.map_eq_flatMap]
  refine List.flatMap_congr fun span _ => ?_
  rw [List.filter_map, Function.comp_def, one]
  rfl

theorem loadWidth_dayBars {style : DayChartStyle Rat} (positive : 0 < style.frameHours)
    (trip : TripSection Rat) :
    DayBar.loadWidth (trip.dayBars style) =
      style.width * DaySpan.totalMinutes trip.spans / (60 * style.frameHours) := by
  rw [DayBar.loadWidth, map_width_loads, DaySpan.sum_extent_rat positive]

end TripSection

/-! ### Both charts -/

/-- Every section is drawn as wide in a day chart as the minutes that a journey chart reports, and a
day wider if it goes from `24:00` to `24:00`. -/
theorem DayChart.draw_travelTime {trips : List (TripSection Rat)} {style : DayChartStyle Rat}
    {journeyStyle : JourneyChartStyle Rat} {day : DayChart Rat} {journey : JourneyChart Rat}
    (drawn : DayChart.draw trips style = .ok day)
    (stacked : JourneyChart.draw trips journeyStyle = .ok journey) :
    day.bars = trips.flatMap (TripSection.dayBars style) ∧
      List.Forall₂ (fun trip bar => bar.key = trip.key ∧
        DaySpan.totalMinutes trip.spans =
          bar.travelledMinutes.toNat + trip.unreportedMinutes ∧
        DayBar.loadWidth (trip.dayBars style) =
          style.width * (bar.travelledMinutes.toNat + trip.unreportedMinutes) /
            (60 * style.frameHours)) trips journey.bars := by
  obtain ⟨accepted, drawable, rfl⟩ := draw_eq_ok_iff.mp drawn
  have positive := isPositive_rat.mp accepted.frameHours
  obtain ⟨-, -, rfl⟩ := JourneyChart.draw_eq_ok_iff.mp stacked
  refine ⟨rfl, ?_⟩
  have both := (List.forall₂_and_left _ _).mpr
    ⟨drawable, JourneyChart.forall₂_layoutFrom journeyStyle journeyStyle.topOffset trips⟩
  refine both.imp ?_
  rintro trip bar ⟨drawable, y, rfl⟩
  have minutes : (trip.journeyBar journeyStyle y).travelledMinutes.toNat =
      trip.travelledMinutes :=
    TripSection.toNat_travelledMinutes drawable.departure drawable.arrival
  have total := TripSection.totalMinutes_spans drawable.departure drawable.arrival
  refine ⟨rfl, by rw [minutes, total], ?_⟩
  rw [minutes, TripSection.loadWidth_dayBars positive, total]
  push_cast
  rfl

/-- Sections across midnight, from it and to it, and one that takes no time. -/
def nightTrips : List (TripSection Rat) :=
  [⟨⟨"a"⟩, ⟨23, 50⟩, ⟨0, 20⟩, 30, 20, some 25⟩, ⟨⟨"b"⟩, .dayEnd, ⟨1, 30⟩, 10, 20, none⟩,
    ⟨⟨"b"⟩, ⟨22, 0⟩, .midnight, 10, 20, none⟩, ⟨⟨"c"⟩, .dayEnd, .midnight, 10, 20, none⟩]

theorem nightTrips_isDrawable : ∀ trip ∈ nightTrips, trip.IsDrawable := by
  simp only [← TripSection.check_eq_ok_iff]
  decide +kernel

/-- The charts of the night agree. -/
theorem DayChart.draw_travelTime_nightTrips :
    ∃ day journey, DayChart.draw nightTrips .plain = .ok day ∧
      JourneyChart.draw nightTrips .plain = .ok journey ∧
      journey.bars.map (·.travelledMinutes) = [30, 90, 120, 0] ∧
      List.Forall₂ (fun trip bar => DayBar.loadWidth (trip.dayBars .plain) =
        1200 * bar.travelledMinutes.toNat / (60 * 25)) nightTrips journey.bars := by
  have drawn := draw_eq_ok_iff.mpr ⟨DayChartStyle.isDrawable_plain, nightTrips_isDrawable, rfl⟩
  have stacked :=
    JourneyChart.draw_eq_ok_iff.mpr ⟨JourneyChartStyle.check_plain, nightTrips_isDrawable, rfl⟩
  have reported : ∀ trip ∈ nightTrips, trip.unreportedMinutes = 0 := by decide
  refine ⟨_, _, drawn, stacked, by cbv, ?_⟩
  refine ((List.forall₂_and_left _ _).mpr ⟨reported, (draw_travelTime drawn stacked).2⟩).imp ?_
  rintro trip bar ⟨none, -, -, width⟩
  rw [width, none, Nat.cast_zero, add_zero]
  rfl

/-- A section from the end of a day to the end of a day. -/
def wholeDay : TripSection Rat :=
  ⟨⟨"a"⟩, .dayEnd, .dayEnd, 10, 20, none⟩

/-- It is drawn as wide as 24 of the 25 hours of the axis, and reported to take no time. -/
theorem DayChart.draw_wholeDay :
    ∃ day journey, DayChart.draw [wholeDay] .plain = .ok day ∧
      JourneyChart.draw [wholeDay] .plain = .ok journey ∧
      journey.bars.map (·.travelledMinutes) = [0] ∧ DayBar.loadWidth day.bars = 1152 := by
  have drawable : ∀ trip ∈ [wholeDay], trip.IsDrawable := by
    simp only [← TripSection.check_eq_ok_iff]
    decide +kernel
  have drawn := draw_eq_ok_iff.mpr ⟨DayChartStyle.isDrawable_plain, drawable, rfl⟩
  have stacked := JourneyChart.draw_eq_ok_iff.mpr ⟨JourneyChartStyle.check_plain, drawable, rfl⟩
  exact ⟨_, _, drawn, stacked, by cbv, by decide +kernel⟩

end TransitDiagram
