import TransitDiagram.DayChart
import TransitDiagram.Format.Scalar
import TransitDiagram.JourneyChart

/-!
# Schemas of charts, their styles and their sections

The fields of a style may be absent and are then as in the standard style.
-/

namespace TransitDiagram

def TripSection.schema : Schema (TripSection Float) :=
  .record (.required "id" TripSection.key EntityKey.schema <|
    .required "departure" TripSection.departure ClockTime.schema <|
    .required "arrival" TripSection.arrival ClockTime.schema <|
    .required "occupancy" TripSection.occupancy .number <|
    .required "capacity" TripSection.capacity .number <|
    .optional "referenceOccupancy" TripSection.reference .number .nil)
    fun (key, departure, arrival, occupancy, capacity, reference, ()) =>
      ⟨key, departure, arrival, occupancy, capacity, reference⟩

/-- A style of a day chart. What is absent is as in the standard style. -/
def DayChartStyle.schema : Schema (DayChartStyle Float) :=
  .record (.defaulted "width" DayChartStyle.width .number DayChartStyle.standard.width <|
    .defaulted "height" DayChartStyle.height .number DayChartStyle.standard.height <|
    .defaulted "frameHours" DayChartStyle.frameHours .number DayChartStyle.standard.frameHours <|
    .defaulted "capacityScale" DayChartStyle.capacityScale .number
      DayChartStyle.standard.capacityScale <|
    .defaulted "overflowGap" DayChartStyle.overflowGap .number
      DayChartStyle.standard.overflowGap .nil)
    fun (width, height, frameHours, capacityScale, overflowGap, ()) =>
      ⟨width, height, frameHours, capacityScale, overflowGap⟩

def BarKind.schema : Schema BarKind :=
  .word [.load, .overflow, .reference] BarKind.name

def DayBar.schema : Schema (DayBar Float) :=
  .record (.required "sectionId" DayBar.key EntityKey.schema <|
    .required "kind" DayBar.kind BarKind.schema <|
    .required "departure" (fun bar => bar.span.departure) ClockTime.schema <|
    .required "arrival" (fun bar => bar.span.arrival) ClockTime.schema <|
    .required "x" DayBar.x .number <|
    .required "width" DayBar.width .number <|
    .required "y" DayBar.y .number <|
    .required "height" DayBar.height .number <|
    .required "value" DayBar.value .number <|
    .required "capacity" DayBar.capacity .number <|
    .required "loadRatio" DayBar.loadRatio .number <|
    .required "wrapped" (fun bar => bar.span.wrapped) .flag .nil)
    fun (key, kind, departure, arrival, x, width, y, height, value, capacity, loadRatio, wrapped,
        ()) =>
      ⟨key, kind, ⟨departure, arrival, wrapped⟩, x, width, y, height, value, capacity, loadRatio⟩

def DayChart.schema : Schema (DayChart Float) :=
  .record (.required "width" DayChart.width .number <|
    .required "height" DayChart.height .number <|
    .required "segments" DayChart.bars (.list DayBar.schema) <|
    .required "anyOverflow" DayChart.anyOverflow .flag .nil)
    fun (width, height, bars, anyOverflow, ()) => ⟨width, height, bars, anyOverflow⟩

/-- A style of a journey chart. What is absent is as in the standard style. -/
def JourneyChartStyle.schema : Schema (JourneyChartStyle Float) :=
  .record (.defaulted "topOffset" JourneyChartStyle.topOffset .number
      JourneyChartStyle.standard.topOffset <|
    .defaulted "minHeight" JourneyChartStyle.leastHeight .number
      JourneyChartStyle.standard.leastHeight <|
    .defaulted "minWidth" JourneyChartStyle.leastWidth .number
      JourneyChartStyle.standard.leastWidth <|
    .defaulted "gap" JourneyChartStyle.gap .number JourneyChartStyle.standard.gap <|
    .defaulted "heightPerMinute" JourneyChartStyle.heightPerMinute .number
      JourneyChartStyle.standard.heightPerMinute <|
    .defaulted "widthPerPassenger" JourneyChartStyle.widthPerPassenger .number
      JourneyChartStyle.standard.widthPerPassenger .nil)
    fun (topOffset, leastHeight, leastWidth, gap, heightPerMinute, widthPerPassenger, ()) =>
      ⟨topOffset, leastHeight, leastWidth, gap, heightPerMinute, widthPerPassenger⟩

def JourneyBar.schema : Schema (JourneyBar Float) :=
  .record (.required "sectionId" JourneyBar.key EntityKey.schema <|
    .required "y" JourneyBar.y .number <|
    .required "height" JourneyBar.height .number <|
    .required "travelledMinutes" JourneyBar.travelledMinutes .uint32 <|
    .required "capacityWidth" JourneyBar.capacityWidth .number <|
    .required "loadWidth" JourneyBar.loadWidth .number <|
    .required "occupancy" JourneyBar.occupancy .number <|
    .required "capacity" JourneyBar.capacity .number <|
    .required "loadRatio" JourneyBar.loadRatio .number .nil)
    fun (key, y, height, travelledMinutes, capacityWidth, loadWidth, occupancy, capacity,
        loadRatio, ()) =>
      ⟨key, y, height, travelledMinutes, capacityWidth, loadWidth, occupancy, capacity, loadRatio⟩

def JourneyChart.schema : Schema (JourneyChart Float) :=
  .record (.required "bars" JourneyChart.bars (.list JourneyBar.schema) <|
    .required "totalHeight" JourneyChart.totalHeight .number .nil)
    fun (bars, totalHeight, ()) => ⟨bars, totalHeight⟩

end TransitDiagram
