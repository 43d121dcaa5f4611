import TransitDiagram.Proofs.TravelTime

/-!
# The bars of a journey chart

A journey chart is drawn section by section from the top. In exact arithmetic its bars stand one
below another with a gap above each (`JourneyChart.IsStackedFrom`), and what is drawn below a
section depends on the sections above it only through the height at which they end: the chart of
two lists is that of the first, continued by that of the second from there
(`JourneyChart.draw_append_eq`).
-/

namespace TransitDiagram

open Quantity

namespace JourneyBar

/-- Where a bar ends. -/
def bottom (bar : JourneyBar Rat) : Rat :=
  bar.y + bar.height

/-- A bar that shows a section, wherever it stands: as high as the section takes time and as wide as
its places and its load, apart from the least measures. -/
structure Shows (style : JourneyChartStyle Rat) (trip : TripSection Rat) (bar : JourneyBar Rat) :
    Prop where
  key : bar.key = trip.key
  travelledMinutes : bar.travelledMinutes.toNat = trip.travelledMinutes
  height : bar.height = max (trip.travelledMinutes * style.heightPerMinute) style.leastHeight
  capacityWidth : bar.capacityWidth = max (trip.capacity * style.widthPerPassenger) style.leastWidth
  loadWidth : bar.loadWidth = trip.occupancy * style.widthPerPassenger
  occupancy : bar.occupancy = trip.occupancy
  capacity : bar.capacity = trip.capacity
  loadRatio : bar.loadRatio = Extent.fillRatio trip.occupancy trip.capacity

end JourneyBar

/-! ### Sections -/

namespace TripSection

variable {style : JourneyChartStyle Rat} {trip : TripSection Rat} {offset : Rat}

theorem shows_journeyBar (drawable : trip.IsDrawable) (offset : Rat) :
    (trip.journeyBar style offset).Shows style trip where
  key := rfl
  travelledMinutes := toNat_travelledMinutes drawable.departure drawable.arrival
  height := larger_rat _ _
  capacityWidth := larger_rat _ _
  loadWidth := rfl
  occupancy := rfl
  capacity := rfl
  loadRatio := rfl

theorem height_journeyBar_nonneg (accepted : style.IsDrawable) (trip : TripSection Rat)
    (offset : Rat) : 0 ≤ (trip.journeyBar style offset).height := by
  rw [journeyBar, larger_rat]
  exact le_max_of_le_right (isNonNegative_rat.mp accepted.leastHeight)

/-- The next bar is placed below this one. -/
theorem bottom_journeyBar : (trip.journeyBar style offset).bottom =
    offset + ((trip.journeyBar style offset).height + style.gap) := by
  show offset + style.gap + (trip.journeyBar style offset).height = _
  rw [add_assoc, add_comm style.gap]

end TripSection

/-! ### Charts -/

/-- The style for what is drawn from another height on. -/
def JourneyChartStyle.startAt {α : Type} (style : JourneyChartStyle α) (top : α) :
    JourneyChartStyle α :=
  { style with topOffset := top }

namespace JourneyChart

section Sections

variable {α : Type} [Quantity α]

/-- The chart of two lists of sections is that of the first, continued by that of the second. -/
theorem layoutFrom_append (style : JourneyChartStyle α) (offset : α)
    (upper lower : List (TripSection α)) :
    layoutFrom style offset (upper ++ lower) =
      ⟨(layoutFrom style offset upper).bars ++
          (layoutFrom style (layoutFrom style offset upper).totalHeight lower).bars,
        (layoutFrom style (layoutFrom style offset upper).totalHeight lower).totalHeight⟩ := by
  induction upper generalizing offset with
  | nil => rfl
  | cons trip rest ih => simp only [List.cons_append, layoutFrom, ih]

/-- Below its top a chart does not depend on where it begins. -/
theorem layoutFrom_startAt (style : JourneyChartStyle α) (top offset : α)
    (trips : List (TripSection α)) :
    layoutFrom (style.startAt top) offset trips = layoutFrom style offset trips := by
  induction trips generalizing offset with
  | nil => rfl
  | cons trip rest ih =>
    rw [layoutFrom, ih]
    rfl

end Sections

/-- Bars that stand one below another from a height on, with a gap above each, and the height at
which the last of them ends. -/
structure IsStackedFrom (style : JourneyChartStyle Rat) (offset : Rat) (chart : JourneyChart Rat) :
    Prop where
  first : ∀ bar ∈ chart.bars.head?, bar.y = offset + style.gap
  next : chart.bars.IsChain fun above below => below.y = above.bottom + style.gap
  apart : chart.bars.Pairwise fun above below => above.bottom + style.gap ≤ below.y
  totalHeight : chart.totalHeight = (chart.bars.map JourneyBar.bottom).getLastD offset

variable {style : JourneyChartStyle Rat} {trips : List (TripSection Rat)}

theorem shows_layoutFrom (drawable : ∀ trip ∈ trips, trip.IsDrawable) (offset : Rat) :
    List.Forall₂ (fun trip bar => bar.Shows style trip) trips
      (layoutFrom style offset trips).bars := by
  have both := (List.forall₂_and_left _ _).mpr ⟨drawable, forall₂_layoutFrom style offset trips⟩
  refine both.imp ?_
  rintro trip bar ⟨drawable, y, rfl⟩
  exact TripSection.shows_journeyBar drawable y

/-- No bar begins above its chart. -/
theorem le_y_of_mem_layoutFrom (accepted : style.IsDrawable) {offset : Rat} {bar : JourneyBar Rat}
    (member : bar ∈ (layoutFrom style offset trips).bars) : offset + style.gap ≤ bar.y := by
  induction trips generalizing offset with
  | nil => cases member
  | cons trip rest ih =>
    rcases List.mem_cons.mp member with rfl | below
    · exact le_rfl
    · have tall := TripSection.height_journeyBar_nonneg accepted trip offset
      have gap := isNonNegative_rat.mp accepted.gap
      linarith [ih below]

theorem isStackedFrom_layoutFrom (accepted : style.IsDrawable) (offset : Rat)
    (trips : List (TripSection Rat)) :
    (layoutFrom style offset trips).IsStackedFrom style offset := by
  induction trips generalizing offset with
  | nil => exact ⟨by simp [layoutFrom], .nil, .nil, rfl⟩
  | cons trip rest ih =>
    let bar := trip.journeyBar style offset
    have below := ih (offset + (bar.height + style.gap))
    rw [← TripSection.bottom_journeyBar] at below
    have unfolded : layoutFrom style offset (trip :: rest) =
        ⟨bar :: (layoutFrom style bar.bottom rest).bars,
          (layoutFrom style bar.bottom rest).totalHeight⟩ := by
      rw [layoutFrom, TripSection.bottom_journeyBar]
    rw [unfolded]
    constructor
    · rintro first here
      obtain rfl := Option.some.inj here
      rfl
    · exact List.isChain_cons.mpr ⟨below.first, below.next⟩
    · exact List.pairwise_cons.mpr
        ⟨fun other member => le_y_of_mem_layoutFrom accepted member, below.apart⟩
    · rw [List.map_cons, List.getLastD_cons]
      exact below.totalHeight

/-- A chart does not end above its beginning. -/
theorem le_totalHeight_layoutFrom (accepted : style.IsDrawable) (offset : Rat)
    (trips : List (TripSection Rat)) : offset ≤ (layoutFrom style offset trips).totalHeight := by
  induction trips generalizing offset with
  | nil => exact le_rfl
  | cons trip rest ih =>
    have tall := TripSection.height_journeyBar_nonneg accepted trip offset
    have gap := isNonNegative_rat.mp accepted.gap
    exact le_trans (by linarith) (ih _)

/-- A style in which a chart can be drawn still is one when it begins where that chart ends. -/
theorem isDrawable_startAt_totalHeight (accepted : style.IsDrawable)
    (trips : List (TripSection Rat)) :
    (style.startAt (layoutFrom style style.topOffset trips).totalHeight).IsDrawable :=
  have top := isNonNegative_rat.mp accepted.topOffset
  { accepted with
    topOffset := isNonNegative_rat.mpr (top.trans (le_totalHeight_layoutFrom accepted _ trips)) }

/-- The sections of the second list are drawn below those of the first, and checked after them. -/
theorem draw_append_eq (accepted : style.IsDrawable) (upper lower : List (TripSection Rat)) :
    draw (upper ++ lower) style = (do
      let above ← draw upper style
      let below ← draw lower (style.startAt above.totalHeight)
      pure ⟨above.bars ++ below.bars, below.totalHeight⟩) := by
  have checked : style.check = .ok () := JourneyChartStyle.check_eq_ok_iff.mpr accepted
  have continued :=
    JourneyChartStyle.check_eq_ok_iff.mpr (isDrawable_startAt_totalHeight accepted upper)
  have sections : (upper ++ lower).forM TripSection.check =
      (upper.forM TripSection.check >>= fun _ => lower.forM TripSection.check) := List.forM_append
  rw [draw, draw, checked, sections, layoutFrom_append]
  cases above : upper.forM TripSection.check with
  | error fault => rfl
  | ok _ =>
    show _ = (draw lower (style.startAt _) >>= _)
    rw [draw, continued, layoutFrom_startAt]
    cases lower.forM TripSection.check <;> rfl

/-- In a style that can be drawn, a chart of sections that can be drawn has a bar for each of them,
in their order, and the bars are stacked from the top of the chart. Sections that follow are drawn
as a chart of their own that begins where the other one ends. A chart is refused exactly for the
first section that cannot be drawn. -/
theorem draw_stackedBars (accepted : style.IsDrawable) :
    (∀ trips, (∀ trip ∈ trips, trip.IsDrawable) → ∃ chart, draw trips style = .ok chart ∧
        List.Forall₂ (fun trip bar => bar.Shows style trip) trips chart.bars ∧
        chart.IsStackedFrom style style.topOffset) ∧
      (∀ upper lower, draw (upper ++ lower) style = (do
        let above ← draw upper style
        let below ← draw lower (style.startAt above.totalHeight)
        pure ⟨above.bars ++ below.bars, below.totalHeight⟩)) ∧
      ∀ trips fault, draw trips style = .error fault ↔
        ∃ (before : List (TripSection Rat)) (trip : TripSection Rat)
          (after : List (TripSection Rat)), trips = before ++ trip :: after ∧
            (∀ earlier ∈ before, earlier.IsDrawable) ∧ trip.check = .error fault := by
  have checked : style.check = .ok () := JourneyChartStyle.check_eq_ok_iff.mpr accepted
  refine ⟨fun trips drawable => ?_, draw_append_eq accepted, fun trips fault => ?_⟩
  · exact ⟨_, draw_eq_ok_iff.mpr ⟨checked, drawable, rfl⟩, shows_layoutFrom drawable _,
      isStackedFrom_layoutFrom accepted _ _⟩
  · rw [draw, checked]
    exact TripSection.forM_check_eq_error_iff

/-- The charts of one night and of two, the second night below the first. With a section from a
minute past the end of a day between them there is none. -/
theorem draw_stackedBars_nightTrips :
    ∃ night next, draw nightTrips .plain = .ok night ∧
      night.bars.map (fun bar => (bar.y, bar.height)) =
        [(24, 90), (118, 270), (392, 360), (756, 30)] ∧
      night.totalHeight = 786 ∧
      List.Forall₂ (fun trip bar => bar.Shows .plain trip) nightTrips night.bars ∧
      night.IsStackedFrom .plain 20 ∧
      draw nightTrips (JourneyChartStyle.plain.startAt 786) = .ok next ∧
      draw (nightTrips ++ nightTrips) .plain = .ok ⟨night.bars ++ next.bars, next.totalHeight⟩ ∧
      draw (nightTrips ++ ⟨⟨"d"⟩, ⟨24, 1⟩, ⟨1, 30⟩, 10, 20, none⟩ :: nightTrips) .plain =
        .error (.clock ⟨24, 1⟩) := by
  obtain ⟨shown, continued, refused⟩ :=
    draw_stackedBars (JourneyChartStyle.check_eq_ok_iff.mp JourneyChartStyle.check_plain)
  obtain ⟨night, drawn, bars, stacked⟩ := shown nightTrips nightTrips_isDrawable
  obtain ⟨-, -, rfl⟩ := draw_eq_ok_iff.mp drawn
  have next : draw nightTrips (JourneyChartStyle.plain.startAt 786) = .ok _ :=
    draw_eq_ok_iff.mpr ⟨by decide +kernel, nightTrips_isDrawable, rfl⟩
  have total :
      (layoutFrom .plain JourneyChartStyle.plain.topOffset nightTrips).totalHeight = 786 := by
    decide +kernel
  refine ⟨_, _, drawn, by decide +kernel, total, bars, stacked, next, ?_, ?_⟩
  · rw [continued, drawn]
    show (draw nightTrips (JourneyChartStyle.plain.startAt _) >>= _) = _
    rw [total, next]
    rfl
  · exact (refused _ _).mpr ⟨nightTrips, _, nightTrips, rfl, nightTrips_isDrawable,
      by decide +kernel⟩

end JourneyChart

end TransitDiagram
