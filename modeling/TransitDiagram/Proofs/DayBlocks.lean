import TransitDiagram.Proofs.ChartBounds

/-!
# The blocks of a day chart

A day chart is drawn section by section, and a section block by block: one block for the evening and
one for the next morning if it goes past midnight (`TripSection.IsOvernight`), and a single one
otherwise. A block has a bar for the load, one for the overflow if there is any, and one for the
reference if there is one. In exact arithmetic the blocks of a night match (`DayBar.AreHalves`), and
the load and the overflow of a block are all the passengers of the section.
-/

namespace TransitDiagram

open Quantity

namespace TripSection

/-! ### Days -/

section Days

variable {α : Type} {trip : TripSection α}

/-- The time from which a section is drawn. A departure at `24:00` is one at `00:00`. -/
def drawnFrom (trip : TripSection α) : ClockTime :=
  if trip.departure = .dayEnd then .midnight else trip.departure

/-- The time up to which a section is drawn. After a later departure an arrival at `00:00` is one at
`24:00`. -/
def drawnTo (trip : TripSection α) : ClockTime :=
  if trip.arrival = .midnight ∧ 0 < trip.drawnFrom.minutes then .dayEnd else trip.arrival

/-- The section is drawn from a later time of the day than it is drawn to. -/
def IsOvernight (trip : TripSection α) : Prop :=
  trip.drawnTo.minutes < trip.drawnFrom.minutes

instance (trip : TripSection α) : Decidable trip.IsOvernight :=
  inferInstanceAs (Decidable (_ < _))

theorem isValid_drawnFrom (departure : trip.departure.IsValid) : trip.drawnFrom.IsValid := by
  rw [drawnFrom]
  split
  · exact ClockTime.isValid_midnight
  · exact departure

theorem isValid_drawnTo (arrival : trip.arrival.IsValid) : trip.drawnTo.IsValid := by
  rw [drawnTo]
  split
  · exact ClockTime.isValid_dayEnd
  · exact arrival

/-- Nothing is drawn from the end of a day. -/
theorem minutes_drawnFrom_lt (departure : trip.departure.IsValid) :
    trip.drawnFrom.minutes < 1440 := by
  rw [drawnFrom]
  split
  · decide
  · next early =>
    refine lt_of_le_of_ne (ClockTime.minutes_le departure) fun late => early ?_
    exact (ClockTime.minutes_inj departure ClockTime.isValid_dayEnd).mp late

/-- What is drawn past midnight goes on after it. -/
theorem minutes_drawnTo_pos (arrival : trip.arrival.IsValid) (overnight : trip.IsOvernight) :
    0 < trip.drawnTo.minutes := by
  rw [IsOvernight] at overnight
  rw [drawnTo] at overnight ⊢
  split at overnight
  · next late => rw [if_pos late]; decide
  · next early =>
    rw [if_neg early, Nat.pos_iff_ne_zero]
    intro zero
    -- An arrival at `00:00` would have been read as `24:00`.
    have midnight := (ClockTime.minutes_inj arrival ClockTime.isValid_midnight).mp zero
    exact early ⟨midnight, Nat.zero_lt_of_lt overnight⟩

theorem spans_eq_cut (departure : trip.departure.IsValid) (arrival : trip.arrival.IsValid) :
    trip.spans = DaySpan.cut trip.drawnFrom trip.drawnTo := by
  by_cases fromEnd : trip.departure = .dayEnd
  · have start : trip.drawnFrom = .midnight := if_pos fromEnd
    have stop : trip.drawnTo = trip.arrival := by
      rw [drawnTo, start]
      exact if_neg fun late => absurd late.2 (by decide)
    rw [spans, fromEnd, DaySpan.between_dayEnd arrival, start, stop]
  · have start : trip.drawnFrom = trip.departure := if_neg fromEnd
    have stop : trip.drawnTo = if trip.arrival = .midnight ∧ trip.arrival.Before trip.departure
        then .dayEnd else trip.arrival := by
      rw [drawnTo, start]
      refine if_congr (and_congr_right fun midnight => ?_) rfl rfl
      rw [ClockTime.before_iff arrival departure, midnight, ClockTime.minutes_midnight]
    rw [spans, DaySpan.between_of_ne_dayEnd fromEnd, start, stop]

theorem spans_of_isOvernight (departure : trip.departure.IsValid)
    (arrival : trip.arrival.IsValid) (overnight : trip.IsOvernight) :
    trip.spans = [⟨trip.drawnFrom, .dayEnd, false⟩, ⟨.midnight, trip.drawnTo, true⟩] := by
  rw [spans_eq_cut departure arrival, DaySpan.cut, if_pos]
  exact (ClockTime.before_iff (isValid_drawnTo arrival) (isValid_drawnFrom departure)).mpr overnight

theorem spans_of_not_isOvernight (departure : trip.departure.IsValid)
    (arrival : trip.arrival.IsValid) (oneDay : ¬ trip.IsOvernight) :
    trip.spans = [⟨trip.drawnFrom, trip.drawnTo, false⟩] := by
  rw [spans_eq_cut departure arrival, DaySpan.cut, if_neg]
  intro before
  have order := ClockTime.before_iff (isValid_drawnTo arrival) (isValid_drawnFrom departure)
  exact oneDay (order.mp before)

end Days

/-! ### Blocks -/

/-- The bars of a section on one of its spans. -/
def block {α : Type} [Quantity α] (style : DayChartStyle α) (trip : TripSection α)
    (span : DaySpan) : List (DayBar α) :=
  (trip.parts style).map fun (kind, part) =>
    { key := trip.key
      kind := kind
      span := span
      x := span.departure.position style.width style.frameHours
      width := span.extent style.width style.frameHours
      y := part.start
      height := part.extent
      value := part.value
      capacity := trip.capacity
      loadRatio := Extent.fillRatio trip.occupancy trip.capacity }

theorem dayBars_eq_flatten {α : Type} [Quantity α] (style : DayChartStyle α)
    (trip : TripSection α) : trip.dayBars style = (trip.spans.map (trip.block style)).flatten :=
  List.flatMap_def

end TripSection

namespace DayBar

/-- The passengers of bars, without those of a reference. -/
def passengers (bars : List (DayBar Rat)) : Rat :=
  ((bars.filter fun bar => bar.kind ≠ .reference).map (·.value)).sum

/-- What a bar shows, wherever it stands on the axis. -/
def figures {α : Type} (bar : DayBar α) : BarKind × α × α × α × α × α :=
  (bar.kind, bar.y, bar.height, bar.value, bar.capacity, bar.loadRatio)

/-- Two halves of a night: the evening up to `24:00`, and the morning from `00:00` at the beginning
of the axis. Both take room on it, and they show the same. -/
structure AreHalves (evening morning : List (DayBar Rat)) : Prop where
  beforeMidnight : ∀ bar ∈ evening,
    bar.span.arrival = .dayEnd ∧ bar.span.wrapped = false ∧ 0 < bar.width
  afterMidnight : ∀ bar ∈ morning,
    bar.span.departure = .midnight ∧ bar.span.wrapped = true ∧ bar.x = 0 ∧ 0 < bar.width
  figures_eq : evening.map figures = morning.map figures

end DayBar

namespace TripSection

/-- The bars that show a section on one span. -/
structure IsBlock (style : DayChartStyle Rat) (trip : TripSection Rat) (span : DaySpan)
    (bars : List (DayBar Rat)) : Prop where
  kinds : bars.map (·.kind) = [BarKind.load] ++
    (if trip.capacity < trip.occupancy then [BarKind.overflow] else []) ++
    (if trip.reference.isSome then [BarKind.reference] else [])
  passengers : DayBar.passengers bars = trip.occupancy
  place : ∀ bar ∈ bars, bar.key = trip.key ∧ bar.span = span ∧
    bar.x = style.width * span.departure.minutes / (60 * style.frameHours) ∧
    bar.width = style.width * span.minutes / (60 * style.frameHours)

/-- Blocks that show a section: one for each of its spans, which are two halves of a night or a
single one that does not run backwards. -/
structure IsShownBy (style : DayChartStyle Rat) (trip : TripSection Rat)
    (blocks : List (List (DayBar Rat))) : Prop where
  spans : List.Forall₂ (trip.IsBlock style) trip.spans blocks
  overnight : trip.IsOvernight →
    trip.spans = [⟨trip.drawnFrom, .dayEnd, false⟩, ⟨.midnight, trip.drawnTo, true⟩] ∧
      ∃ evening morning, blocks = [evening, morning] ∧ DayBar.AreHalves evening morning
  oneDay : ¬ trip.IsOvernight →
    trip.spans = [⟨trip.drawnFrom, trip.drawnTo, false⟩] ∧
      ∃ bars, blocks = [bars] ∧ ∀ bar ∈ bars, bar.span.wrapped = false ∧ 0 ≤ bar.width

variable {style : DayChartStyle Rat} {trip : TripSection Rat}

theorem kinds_parts (style : DayChartStyle Rat) (trip : TripSection Rat) :
    (trip.parts style).map Prod.fst = [BarKind.load] ++
      (if trip.capacity < trip.occupancy then [BarKind.overflow] else []) ++
      (if trip.reference.isSome then [BarKind.reference] else []) := by
  have beyond : (trip.loadBar style).overflow.isSome = true ↔ trip.capacity < trip.occupancy :=
    LoadBar.isOverflowing_ofAmounts_iff
  by_cases exceeds : trip.capacity < trip.occupancy
  · obtain ⟨part, found⟩ := Option.isSome_iff_exists.mp (beyond.mpr exceeds)
    rw [if_pos exceeds, parts, found]
    cases trip.reference <;> rfl
  · have missing : (trip.loadBar style).overflow = none := by
      simpa [exceeds] using beyond
    rw [if_neg exceeds, parts, missing]
    cases trip.reference <;> rfl

theorem passengers_block (span : DaySpan) :
    DayBar.passengers (trip.block style span) = trip.occupancy := by
  have counted : ((trip.loadBar style).parts.map (·.value)).sum = trip.occupancy :=
    LoadBar.sum_value_parts_ofAmounts
  rw [← counted, DayBar.passengers, block, parts, LoadBar.parts]
  cases (trip.loadBar style).overflow <;> cases trip.reference <;> rfl

theorem isBlock_block (positive : 0 < style.frameHours) (span : DaySpan) :
    trip.IsBlock style span (trip.block style span) := by
  refine ⟨?_, passengers_block span, fun bar member => ?_⟩
  · rw [block, List.map_map]
    exact kinds_parts style trip
  · obtain ⟨⟨kind, part⟩, -, rfl⟩ := List.mem_map.mp member
    exact ⟨rfl, rfl, ClockTime.position_rat positive, DaySpan.extent_rat positive⟩

/-- A block is as wide as its span lasts. -/
theorem width_pos_of_mem_block {bar : DayBar Rat} {span : DaySpan} (accepted : style.IsDrawable)
    (forward : 0 < span.minutes) (member : bar ∈ trip.block style span) : 0 < bar.width := by
  have wide := isPositive_rat.mp accepted.width
  have positive := isPositive_rat.mp accepted.frameHours
  obtain ⟨-, -, -, width⟩ := (isBlock_block positive span).place bar member
  have lasting : (0 : Rat) < span.minutes := mod_cast forward
  rw [width]
  positivity

theorem figures_block (span span' : DaySpan) :
    (trip.block style span).map DayBar.figures = (trip.block style span').map DayBar.figures := by
  rw [block, block, List.map_map, List.map_map]
  rfl

theorem areHalves_block (accepted : style.IsDrawable) (drawable : trip.IsDrawable)
    (overnight : trip.IsOvernight) :
    DayBar.AreHalves (trip.block style ⟨trip.drawnFrom, .dayEnd, false⟩)
      (trip.block style ⟨.midnight, trip.drawnTo, true⟩) := by
  have early := minutes_drawnFrom_lt drawable.departure
  have late := minutes_drawnTo_pos drawable.arrival overnight
  have evening : 0 < (⟨trip.drawnFrom, .dayEnd, false⟩ : DaySpan).minutes := by
    show 0 < ((1440 : Nat) : Int) - trip.drawnFrom.minutes
    omega
  have morning : 0 < (⟨.midnight, trip.drawnTo, true⟩ : DaySpan).minutes := by
    show 0 < (trip.drawnTo.minutes : Int) - (0 : Nat)
    omega
  have positive := isPositive_rat.mp accepted.frameHours
  refine ⟨fun bar member => ?_, fun bar member => ?_, figures_block _ _⟩
  · obtain ⟨-, span, -, -⟩ := (isBlock_block positive _).place bar member
    rw [span]
    exact ⟨rfl, rfl, width_pos_of_mem_block accepted evening member⟩
  · obtain ⟨-, span, x, -⟩ := (isBlock_block positive _).place bar member
    rw [span, x, ClockTime.minutes_midnight, Nat.cast_zero, mul_zero, zero_div]
    exact ⟨rfl, rfl, rfl, width_pos_of_mem_block accepted morning member⟩

theorem isShownBy_blocks (accepted : style.IsDrawable) (drawable : trip.IsDrawable) :
    trip.IsShownBy style (trip.spans.map (trip.block style)) := by
  have wide := isPositive_rat.mp accepted.width
  have positive := isPositive_rat.mp accepted.frameHours
  constructor
  · rw [List.forall₂_map_right_iff, List.forall₂_same]
    exact fun span _ => isBlock_block positive span
  · intro overnight
    have halves := spans_of_isOvernight drawable.departure drawable.arrival overnight
    rw [halves]
    exact ⟨rfl, _, _, rfl, areHalves_block accepted drawable overnight⟩
  · intro oneDay
    have single := spans_of_not_isOvernight drawable.departure drawable.arrival oneDay
    rw [single]
    refine ⟨rfl, _, rfl, fun bar member => ?_⟩
    obtain ⟨⟨kind, part⟩, -, rfl⟩ := List.mem_map.mp member
    have proper := DaySpan.isProper_of_mem_between drawable.departure drawable.arrival
      (single ▸ List.mem_singleton_self _ : _ ∈ trip.spans)
    exact ⟨rfl, proper.extent_nonneg wide.le positive⟩

end TripSection

/-! ### Charts -/

namespace DayChart

section Sections

variable {α : Type} [Quantity α] {style : DayChartStyle α}
  {trips upper lower : List (TripSection α)}

/-- A chart is refused for the first section that is. -/
theorem draw_eq_error_iff (accepted : style.IsDrawable) {fault : Fault α} :
    draw trips style = .error fault ↔
      ∃ (before : List (TripSection α)) (trip : TripSection α) (after : List (TripSection α)),
        trips = before ++ trip :: after ∧ (∀ earlier ∈ before, earlier.IsDrawable) ∧
          trip.check = .error fault := by
  have checked : style.check = .ok () := DayChartStyle.check_eq_ok_iff.mpr accepted
  rw [draw, checked]
  exact TripSection.forM_check_eq_error_iff

theorem exists_draw_eq_ok_iff (accepted : style.IsDrawable) :
    (∃ chart, draw trips style = .ok chart) ↔ ∀ trip ∈ trips, trip.IsDrawable := by
  simp only [draw_eq_ok_iff, accepted, true_and, exists_and_left, exists_eq', and_true]

theorem bars_layout_append :
    (layout (upper ++ lower) style).bars = (layout upper style).bars ++ (layout lower style).bars :=
  List.flatMap_append

end Sections

variable {style : DayChartStyle Rat} {trips : List (TripSection Rat)}

theorem anyOverflow_layout_iff :
    (layout trips style).anyOverflow = true ↔ ∃ trip ∈ trips, trip.capacity < trip.occupancy := by
  have beyond (trip : TripSection Rat) : (trip.loadBar style).isOverflowing = true ↔
      trip.capacity < trip.occupancy := LoadBar.isOverflowing_ofAmounts_iff
  simp only [layout, List.any_eq_true, beyond]

theorem exists_blocks (accepted : style.IsDrawable) (drawable : ∀ trip ∈ trips, trip.IsDrawable) :
    ∃ blocks, (layout trips style).bars = (blocks.map List.flatten).flatten ∧
      List.Forall₂ (TripSection.IsShownBy style) trips blocks := by
  refine ⟨trips.map fun trip => trip.spans.map (trip.block style), ?_, ?_⟩
  · rw [List.map_map, layout, List.flatMap_def]
    exact congrArg _ (List.map_congr_left fun trip _ => TripSection.dayBars_eq_flatten style trip)
  · rw [List.forall₂_map_right_iff, List.forall₂_same]
    exact fun trip given => TripSection.isShownBy_blocks accepted (drawable trip given)

/-- In a style that can be drawn, a chart is drawn exactly if all its sections can be, and is
refused for the first one that cannot. The chart of two lists of sections is that of the first
followed by that of the second. It overflows exactly if some section has more passengers than
places, and every section is shown block by block. -/
theorem draw_blockwise (accepted : style.IsDrawable) :
    (∀ trips, (∃ chart, draw trips style = .ok chart) ↔ ∀ trip ∈ trips, trip.IsDrawable) ∧
      (∀ trips fault, draw trips style = .error fault ↔
        ∃ (before : List (TripSection Rat)) (trip : TripSection Rat)
          (after : List (TripSection Rat)), trips = before ++ trip :: after ∧
            (∀ earlier ∈ before, earlier.IsDrawable) ∧ trip.check = .error fault) ∧
      (∀ upper lower chart, draw (upper ++ lower) style = .ok chart →
        ∃ first second, draw upper style = .ok first ∧ draw lower style = .ok second ∧
          chart.bars = first.bars ++ second.bars) ∧
      ∀ trips chart, draw trips style = .ok chart →
        (chart.anyOverflow = true ↔ ∃ trip ∈ trips, trip.capacity < trip.occupancy) ∧
          ∃ blocks, chart.bars = (blocks.map List.flatten).flatten ∧
            List.Forall₂ (TripSection.IsShownBy style) trips blocks := by
  refine ⟨fun trips => exists_draw_eq_ok_iff accepted,
    fun trips fault => draw_eq_error_iff accepted, fun upper lower chart drawn => ?_,
    fun trips chart drawn => ?_⟩
  · obtain ⟨-, drawable, rfl⟩ := draw_eq_ok_iff.mp drawn
    obtain ⟨above, below⟩ := List.forall_mem_append.mp drawable
    exact ⟨_, _, draw_eq_ok_iff.mpr ⟨accepted, above, rfl⟩,
      draw_eq_ok_iff.mpr ⟨accepted, below, rfl⟩, bars_layout_append⟩
  · obtain ⟨-, drawable, rfl⟩ := draw_eq_ok_iff.mp drawn
    exact ⟨anyOverflow_layout_iff, exists_blocks accepted drawable⟩

/-- The crowded section is shown on both sides of midnight, and the chart is refused when a section
from a minute past the end of a day follows. -/
theorem draw_blockwise_crowdedNight :
    (∃ chart, draw crowdedNight .plain = .ok chart ∧ chart.anyOverflow = true ∧
      ∃ evening morning rest, chart.bars = evening ++ morning ++ rest ∧
        evening.map (·.kind) = [.load, .overflow, .reference] ∧
        DayBar.AreHalves evening morning) ∧
      draw (crowdedNight ++ [⟨⟨"c"⟩, ⟨24, 1⟩, ⟨1, 30⟩, 10, 20, none⟩]) .plain =
        .error (.clock ⟨24, 1⟩) := by
  obtain ⟨drawable, refused, -, blockwise⟩ := draw_blockwise DayChartStyle.isDrawable_plain
  constructor
  · obtain ⟨chart, drawn⟩ := (drawable crowdedNight).mpr crowdedNight_isDrawable
    obtain ⟨overflow, blocks, bars, shown⟩ := blockwise _ _ drawn
    refine ⟨chart, drawn, overflow.mpr (by decide +kernel), ?_⟩
    cases shown with
    | cons night shown =>
      obtain ⟨-, evening, morning, rfl, halves⟩ := night.overnight (by decide)
      obtain ⟨block, -⟩ := List.forall₂_cons.mp night.spans
      exact ⟨evening, morning, _, by simpa using bars, block.kinds, halves⟩
  · exact (refused _ _).mpr ⟨crowdedNight, _, [], rfl, crowdedNight_isDrawable, by decide +kernel⟩

end DayChart

end TransitDiagram
