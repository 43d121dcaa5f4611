import TransitDiagram.DayChart
import TransitDiagram.JourneyChart
import TransitDiagram.Proofs.Checks
import TransitDiagram.Proofs.Exact

/-!
# What can be charted

Day charts and journey charts check their style and then their sections. A section is drawable if
its times are on the clock and its quantities are counts, whichever chart it is for.
-/

namespace TransitDiagram

open Quantity

variable {α : Type} [Quantity α]

/-! ### Sections -/

/-- What a section needs in order to be charted. -/
structure TripSection.IsDrawable (trip : TripSection α) : Prop where
  departure : trip.departure.IsValid
  arrival : trip.arrival.IsValid
  occupancy : IsCount trip.occupancy
  capacity : IsCount trip.capacity
  reference : ∀ reference, trip.reference = some reference → IsCount reference

theorem TripSection.check_eq_ok_iff {trip : TripSection α} :
    trip.check = .ok () ↔ trip.IsDrawable := by
  simp only [check, Fault.check_bind_eq_ok_iff, Fault.checkClock_eq_ok_iff,
    Fault.checkCount_eq_ok_iff]
  constructor
  · rintro ⟨departure, arrival, occupancy, capacity, accepted⟩
    refine ⟨departure, arrival, occupancy, capacity, fun reference given => ?_⟩
    rw [given] at accepted
    exact Fault.checkCount_eq_ok_iff.mp accepted
  · rintro ⟨departure, arrival, occupancy, capacity, accepted⟩
    refine ⟨departure, arrival, occupancy, capacity, ?_⟩
    split
    · next reference given => exact Fault.checkCount_eq_ok_iff.mpr (accepted reference given)
    · rfl

/-- A chart of some sections is refused for the first of them that is. -/
theorem TripSection.forM_check_eq_error_iff {β : Type} {trips : List (TripSection α)} {chart : β}
    {fault : Fault α} :
    (do trips.forM TripSection.check; pure chart : Except (Fault α) β) = .error fault ↔
      ∃ (before : List (TripSection α)) (trip : TripSection α) (after : List (TripSection α)),
        trips = before ++ trip :: after ∧ (∀ earlier ∈ before, earlier.IsDrawable) ∧
          trip.check = .error fault := by
  have drawn : (pure chart : Except (Fault α) β) ≠ .error fault := nofun
  rw [Fault.check_bind_eq_error_iff, or_iff_left fun accepted => drawn accepted.2,
    Fault.forM_eq_error_iff]
  simp only [TripSection.check_eq_ok_iff]

/-! ### Day charts -/

structure DayChartStyle.IsDrawable (style : DayChartStyle α) : Prop where
  width : IsPositive style.width
  height : IsPositive style.height
  frameHours : IsPositive style.frameHours
  capacityScale : IsPositive style.capacityScale
  overflowGap : IsNonNegative style.overflowGap

theorem DayChartStyle.check_eq_ok_iff {style : DayChartStyle α} :
    style.check = .ok () ↔ style.IsDrawable := by
  simp only [check, Fault.check_bind_eq_ok_iff, Fault.checkPositive_eq_ok_iff,
    Fault.checkNonNegative_eq_ok_iff]
  constructor
  · rintro ⟨width, height, hours, scale, gap⟩
    exact ⟨width, height, hours, scale, gap⟩
  · exact fun h => ⟨h.width, h.height, h.frameHours, h.capacityScale, h.overflowGap⟩

/-- A day chart is drawn exactly if its style and its sections are drawable. -/
theorem DayChart.draw_eq_ok_iff {trips : List (TripSection α)} {style : DayChartStyle α}
    {chart : DayChart α} :
    draw trips style = .ok chart ↔
      style.IsDrawable ∧ (∀ trip ∈ trips, trip.IsDrawable) ∧ layout trips style = chart := by
  simp only [draw, Fault.check_bind_eq_ok_iff, Fault.forM_eq_ok_iff, TripSection.check_eq_ok_iff,
    DayChartStyle.check_eq_ok_iff, Fault.pure_eq_ok_iff]

/-! ### Journey charts -/

structure JourneyChartStyle.IsDrawable (style : JourneyChartStyle α) : Prop where
  topOffset : IsNonNegative style.topOffset
  leastHeight : IsNonNegative style.leastHeight
  leastWidth : IsNonNegative style.leastWidth
  gap : IsNonNegative style.gap
  heightPerMinute : IsNonNegative style.heightPerMinute
  widthPerPassenger : IsNonNegative style.widthPerPassenger

theorem JourneyChartStyle.check_eq_ok_iff {style : JourneyChartStyle α} :
    style.check = .ok () ↔ style.IsDrawable := by
  simp only [check, Fault.check_bind_eq_ok_iff, Fault.checkNonNegative_eq_ok_iff]
  constructor
  · rintro ⟨top, height, width, gap, perMinute, perPassenger⟩
    exact ⟨top, height, width, gap, perMinute, perPassenger⟩
  · exact fun h => ⟨h.topOffset, h.leastHeight, h.leastWidth, h.gap, h.heightPerMinute,
      h.widthPerPassenger⟩

namespace JourneyChart

theorem draw_eq_ok_iff {trips : List (TripSection α)} {style : JourneyChartStyle α}
    {chart : JourneyChart α} :
    draw trips style = .ok chart ↔ style.check = .ok () ∧ (∀ trip ∈ trips, trip.IsDrawable) ∧
      layoutFrom style style.topOffset trips = chart := by
  simp only [draw, Fault.check_bind_eq_ok_iff, Fault.forM_eq_ok_iff, TripSection.check_eq_ok_iff,
    Fault.pure_eq_ok_iff]

/-- A journey chart has one bar for each section, in the order of the sections. -/
theorem forall₂_layoutFrom (style : JourneyChartStyle α) (offset : α)
    (trips : List (TripSection α)) :
    List.Forall₂ (fun trip bar => ∃ y, trip.journeyBar style y = bar) trips
      (layoutFrom style offset trips).bars := by
  induction trips generalizing offset with
  | nil => exact .nil
  | cons trip rest ih => exact .cons ⟨offset, rfl⟩ (ih _)

end JourneyChart

/-! ### Plain styles -/

def DayChartStyle.plain : DayChartStyle Rat :=
  ⟨1200, 200, 25, 13, 3 / 2⟩

theorem DayChartStyle.isDrawable_plain : plain.IsDrawable :=
  check_eq_ok_iff.mp (by decide +kernel)

def JourneyChartStyle.plain : JourneyChartStyle Rat :=
  ⟨20, 30, 5, 4, 3, 3 / 20⟩

theorem JourneyChartStyle.check_plain : plain.check = .ok () := by
  decide +kernel

end TransitDiagram
