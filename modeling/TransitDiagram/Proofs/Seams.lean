import TransitDiagram.Proofs.Diagram.Mapping
import TransitDiagram.Proofs.Diagram.OverflowBars
import TransitDiagram.Proofs.TravelTime

/-!
# Seams

The seam of a load bar is for the eye only. Charts and diagrams with another seam differ in where
their overflow bars start and stop, and in nothing else: they are the same once these two
coordinates are wiped out (`Diagram.seamless`, `DayChart.seamless`), and the same input is refused
for the same fault.
-/

namespace TransitDiagram

open Quantity

variable {α : Type}

/-! ### Without the seam -/

def Style.withSeam (style : Style α) (gap : α) : Style α :=
  { style with overflowGap := gap }

def DayChartStyle.withSeam (style : DayChartStyle α) (gap : α) : DayChartStyle α :=
  { style with overflowGap := gap }

variable [Quantity α]

/-- The bar with the place of its overflow wiped out. What the overflow stands for is kept, and
whether there is one. -/
def LoadBar.seamless (bar : LoadBar α) : LoadBar α :=
  { bar with overflow := bar.overflow.map fun part => { part with start := 0, stop := 0 } }

def PlacedNode.seamless (node : PlacedNode α) : PlacedNode α :=
  { node with overflow := node.overflow.map LoadBar.seamless }

def Diagram.seamless (diagram : Diagram α) : Diagram α :=
  { diagram with
    sources := diagram.sources.map PlacedNode.seamless
    targets := diagram.targets.map PlacedNode.seamless }

/-- Loads and references are kept as they are. -/
def DayBar.seamless (bar : DayBar α) : DayBar α :=
  if bar.kind = .overflow then { bar with y := 0, height := 0 } else bar

def DayChart.seamless (chart : DayChart α) : DayChart α :=
  { chart with bars := chart.bars.map DayBar.seamless }

/-! ### Load bars -/

namespace LoadBar

@[simp]
theorem isOverflowing_seamless (bar : LoadBar α) :
    bar.seamless.isOverflowing = bar.isOverflowing :=
  Option.isSome_map

theorem seamless_ofAmounts (baseline : α) (load capacity : Amount α) (gap gap' : α) :
    (ofAmounts baseline load capacity gap).seamless =
      (ofAmounts baseline load capacity gap').seamless := by
  rw [ofAmounts, ofAmounts]
  split <;> rfl

/-- Whether a bar has an overflow does not depend on the seam. -/
theorem isOverflowing_ofAmounts_eq (baseline : α) (load capacity : Amount α) (gap gap' : α) :
    (ofAmounts baseline load capacity gap).isOverflowing =
      (ofAmounts baseline load capacity gap').isOverflowing := by
  rw [← isOverflowing_seamless, seamless_ofAmounts baseline load capacity gap gap',
    isOverflowing_seamless]

end LoadBar

/-! ### Diagrams -/

theorem PlacedNode.map_seamless_overflowBar (node : PlacedNode α) (gap gap' : α) :
    (node.overflowBar gap).map LoadBar.seamless = (node.overflowBar gap').map LoadBar.seamless := by
  have present := LoadBar.isOverflowing_ofAmounts_eq node.backdropEnd
    ⟨node.occupancy, node.bodyExtent⟩ ⟨node.capacity, node.backdropExtent⟩ gap gap'
  have bar := LoadBar.seamless_ofAmounts node.backdropEnd
    ⟨node.occupancy, node.bodyExtent⟩ ⟨node.capacity, node.backdropExtent⟩ gap gap'
  simp only [overflowBar, present, apply_ite (Option.map LoadBar.seamless), Option.map_some, bar]

/-- A node with the bar of another seam is the same without it. -/
theorem PlacedNode.seamless_annotate {node : PlacedNode α} {gap : α}
    (bar : node.overflow = node.overflowBar gap) (gap' : α) :
    (node.annotate (·.timeOffset) (·.overflowBar gap')).seamless = node.seamless := by
  have same : (node.overflowBar gap').map LoadBar.seamless =
      node.overflow.map LoadBar.seamless := by
    rw [bar]
    exact node.map_seamless_overflowBar gap' gap
  rw [annotate, seamless, same]
  rfl

namespace Diagram

variable {sources targets : List (Node α)} {links : List (Link α)} {style : Style α} {gap gap' : α}

theorem overflow_of_mem_onSide {side : Side} {node : PlacedNode α}
    (member : node ∈ (layout sources targets links style).onSide side) :
    node.overflow = node.overflowBar style.overflowGap := by
  rw [onSide_layout] at member
  obtain ⟨rank, row, sized, -, -, rfl⟩ := Stack.mem_onSide_ofRows_iff.mp member
  rfl

/-- With another seam the nodes have other bars. -/
theorem layout_withSeam (sources targets : List (Node α)) (links : List (Link α)) (style : Style α)
    (gap gap' : α) :
    layout sources targets links (style.withSeam gap') =
      (layout sources targets links (style.withSeam gap)).annotate (·.timeOffset)
        (·.overflowBar gap') := by
  have annotated (rank : Nat) (start tallest : α) (side : Side) (sized : SizedNode α) :
      PlacedNode.ofSized ((style.withSeam gap).annotate gap' style.axis) rank start tallest side
          sized =
        (PlacedNode.ofSized (style.withSeam gap) rank start tallest side sized).annotate
          (·.timeOffset) (·.overflowBar gap') := rfl
  exact layout_annotate annotated sources targets links

theorem seamless_layout (sources targets : List (Node α)) (links : List (Link α)) (style : Style α)
    (gap gap' : α) :
    (layout sources targets links (style.withSeam gap)).seamless =
      (layout sources targets links (style.withSeam gap')).seamless := by
  rw [layout_withSeam sources targets links style gap gap']
  generalize drawn : layout sources targets links (style.withSeam gap) = diagram
  have nodes (side : Side) :
      ((diagram.onSide side).map
          (PlacedNode.annotate (·.timeOffset) (·.overflowBar gap'))).map PlacedNode.seamless =
        (diagram.onSide side).map PlacedNode.seamless := by
    rw [List.map_map, ← drawn]
    exact List.map_congr_left fun node member =>
      PlacedNode.seamless_annotate (overflow_of_mem_onSide member) gap'
  have left : (diagram.sources.map _).map _ = _ := nodes .source
  have right : (diagram.targets.map _).map _ = _ := nodes .target
  rw [annotate, seamless, seamless, left, right]
  rfl

theorem map_seamless_draw (valid : (style.withSeam gap).check = .ok ())
    (valid' : (style.withSeam gap').check = .ok ()) :
    (draw sources targets links (style.withSeam gap)).map seamless =
      (draw sources targets links (style.withSeam gap')).map seamless := by
  have checked : check (Node.kept sources) (Node.kept targets) links (style.withSeam gap) =
      check (Node.kept sources) (Node.kept targets) links (style.withSeam gap') :=
    check_congr_style rfl valid' valid
  rw [draw, draw, checked]
  exact Fault.map_check_bind_congr
    (congrArg Except.ok (seamless_layout _ _ links style gap gap'))

end Diagram

/-! ### Day charts -/

namespace TripSection

theorem map_seamless_dayBars (style : DayChartStyle α) (gap gap' : α) (trip : TripSection α) :
    (trip.dayBars (style.withSeam gap)).map DayBar.seamless =
      (trip.dayBars (style.withSeam gap')).map DayBar.seamless := by
  rw [dayBars, dayBars, List.map_flatMap, List.map_flatMap]
  refine List.flatMap_congr fun span _ => ?_
  simp only [parts, loadBar, LoadBar.ofLoad, LoadBar.ofAmounts]
  split <;> rfl

end TripSection

namespace DayChart

variable {trips : List (TripSection α)} {style : DayChartStyle α} {gap gap' : α}

theorem seamless_layout (trips : List (TripSection α)) (style : DayChartStyle α) (gap gap' : α) :
    (layout trips (style.withSeam gap)).seamless =
      (layout trips (style.withSeam gap')).seamless := by
  have bars : (trips.flatMap (TripSection.dayBars (style.withSeam gap))).map DayBar.seamless =
      (trips.flatMap (TripSection.dayBars (style.withSeam gap'))).map DayBar.seamless := by
    rw [List.map_flatMap, List.map_flatMap]
    exact List.flatMap_congr fun trip _ => trip.map_seamless_dayBars style gap gap'
  have overflowing (trip : TripSection α) : (trip.loadBar (style.withSeam gap)).isOverflowing =
      (trip.loadBar (style.withSeam gap')).isOverflowing :=
    LoadBar.isOverflowing_ofAmounts_eq _ _ _ gap gap'
  simp only [layout, seamless, bars, overflowing]
  rfl

theorem map_seamless_draw (valid : (style.withSeam gap).check = .ok ())
    (valid' : (style.withSeam gap').check = .ok ()) :
    (draw trips (style.withSeam gap)).map seamless =
      (draw trips (style.withSeam gap')).map seamless := by
  rw [draw, draw, valid, valid']
  exact Fault.map_check_bind_congr (Fault.map_check_bind_congr
    (congrArg Except.ok (seamless_layout trips style gap gap')))

end DayChart

/-- The seam is cosmetic. Diagrams and day charts in two styles that differ in it alone are the same
but for where their overflow bars start and stop, or refused for the same fault. -/
theorem draw_seamless :
    (∀ (sources targets : List (Node α)) (links : List (Link α)) (style : Style α) (gap gap' : α),
      (style.withSeam gap).check = .ok () → (style.withSeam gap').check = .ok () →
        (Diagram.draw sources targets links (style.withSeam gap)).map Diagram.seamless =
          (Diagram.draw sources targets links (style.withSeam gap')).map Diagram.seamless) ∧
      ∀ (trips : List (TripSection α)) (style : DayChartStyle α) (gap gap' : α),
        (style.withSeam gap).check = .ok () → (style.withSeam gap').check = .ok () →
          (DayChart.draw trips (style.withSeam gap)).map DayChart.seamless =
            (DayChart.draw trips (style.withSeam gap')).map DayChart.seamless :=
  ⟨fun _ _ _ _ _ _ => Diagram.map_seamless_draw, fun _ _ _ _ => DayChart.map_seamless_draw⟩

/-- A seam of four leaves nothing of the overflow of the crowded trips, which is whole without a
seam. That it is there, and all else, is the same. -/
theorem draw_seamless_overcrowdedStation :
    ∃ diagram diagram' chart chart',
      Diagram.draw Diagram.overcrowdedStation.sources Diagram.overcrowdedStation.targets
        Diagram.overcrowdedStation.links ((Style.plain .paired).withSeam 0) = .ok diagram ∧
      Diagram.draw Diagram.overcrowdedStation.sources Diagram.overcrowdedStation.targets
        Diagram.overcrowdedStation.links ((Style.plain .paired).withSeam 4) = .ok diagram' ∧
      (diagram.sources.filterMap fun node => node.overflow.bind (·.overflow.map (·.extent))) =
        [5 / 2, 1 / 4] ∧
      (diagram'.sources.filterMap fun node => node.overflow.bind (·.overflow.map (·.extent))) =
        [0, 0] ∧
      diagram.seamless = diagram'.seamless ∧
      DayChart.draw nightTrips (DayChartStyle.plain.withSeam 0) = .ok chart ∧
      DayChart.draw nightTrips (DayChartStyle.plain.withSeam 4) = .ok chart' ∧
      (chart.bars.filter (·.kind = .overflow)).map (·.height) = [10 / 13, 10 / 13] ∧
      (chart'.bars.filter (·.kind = .overflow)).map (·.height) = [0, 0] ∧
      chart.seamless = chart'.seamless := by
  have narrow : ((Style.plain .paired).withSeam 0).check = .ok () := by decide +kernel
  have wide : ((Style.plain .paired).withSeam 4).check = .ok () := by decide +kernel
  have narrowDay : (DayChartStyle.plain.withSeam 0).check = .ok () := by decide +kernel
  have wideDay : (DayChartStyle.plain.withSeam 4).check = .ok () := by decide +kernel
  have drawn := Diagram.draw_eq_ok_layout (by decide +kernel :
    Diagram.check (Node.kept Diagram.overcrowdedStation.sources)
      (Node.kept Diagram.overcrowdedStation.targets) Diagram.overcrowdedStation.links
      ((Style.plain .paired).withSeam 0) = .ok ())
  have drawn' := Diagram.draw_eq_ok_layout (by decide +kernel :
    Diagram.check (Node.kept Diagram.overcrowdedStation.sources)
      (Node.kept Diagram.overcrowdedStation.targets) Diagram.overcrowdedStation.links
      ((Style.plain .paired).withSeam 4) = .ok ())
  have charted := DayChart.draw_eq_ok_iff.mpr
    ⟨DayChartStyle.check_eq_ok_iff.mp narrowDay, nightTrips_isDrawable, rfl⟩
  have charted' := DayChart.draw_eq_ok_iff.mpr
    ⟨DayChartStyle.check_eq_ok_iff.mp wideDay, nightTrips_isDrawable, rfl⟩
  have same := draw_seamless.1 Diagram.overcrowdedStation.sources
    Diagram.overcrowdedStation.targets Diagram.overcrowdedStation.links _ _ _ narrow wide
  have sameChart := draw_seamless.2 nightTrips _ _ _ narrowDay wideDay
  rw [drawn, drawn'] at same
  rw [charted, charted'] at sameChart
  exact ⟨_, _, _, _, drawn, drawn', by cbv, by cbv, Except.ok.inj same, charted, charted',
    by cbv, by cbv, Except.ok.inj sameChart⟩

end TransitDiagram
