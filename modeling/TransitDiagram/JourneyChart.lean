import TransitDiagram.Extent
import TransitDiagram.TripSection

/-!
# Journey charts

A journey chart stacks the sections of a trip from top to bottom, each as high as it takes time
and as wide as its load.
-/

namespace TransitDiagram

open Quantity

structure JourneyChartStyle (α : Type) where
  topOffset : α
  leastHeight : α
  leastWidth : α
  /-- The room above every bar, for the mark of the stop. -/
  gap : α
  heightPerMinute : α
  widthPerPassenger : α
  deriving DecidableEq

structure JourneyBar (α : Type) where
  key : EntityKey
  y : α
  height : α
  travelledMinutes : UInt32
  capacityWidth : α
  loadWidth : α
  occupancy : α
  capacity : α
  loadRatio : α
  deriving DecidableEq

structure JourneyChart (α : Type) where
  bars : List (JourneyBar α)
  totalHeight : α
  deriving DecidableEq

namespace JourneyChartStyle

def standard : JourneyChartStyle Float :=
  ⟨20, 30, 5, 4, 3, 0.15⟩

variable {α : Type} [Quantity α]

def check (style : JourneyChartStyle α) : Except (Fault α) Unit := do
  Fault.checkNonNegative "topOffset" style.topOffset
  Fault.checkNonNegative "minHeight" style.leastHeight
  Fault.checkNonNegative "minWidth" style.leastWidth
  Fault.checkNonNegative "gap" style.gap
  Fault.checkNonNegative "heightPerMinute" style.heightPerMinute
  Fault.checkNonNegative "widthPerPassenger" style.widthPerPassenger

end JourneyChartStyle

namespace TripSection

variable {α : Type} [Quantity α]

/-- The bar of the section, below a chart that ends at `offset`. -/
def journeyBar (style : JourneyChartStyle α) (offset : α) (trip : TripSection α) :
    JourneyBar α :=
  { key := trip.key
    y := offset + style.gap
    height := larger (ofNat trip.travelledMinutes * style.heightPerMinute) style.leastHeight
    travelledMinutes := .ofNat trip.travelledMinutes
    capacityWidth := larger (trip.capacity * style.widthPerPassenger) style.leastWidth
    loadWidth := trip.occupancy * style.widthPerPassenger
    occupancy := trip.occupancy
    capacity := trip.capacity
    loadRatio := Extent.fillRatio trip.occupancy trip.capacity }

end TripSection

namespace JourneyChart

variable {α : Type} [Quantity α]

/-- The chart of sections that have been checked, beginning at `offset`. -/
def layoutFrom (style : JourneyChartStyle α) (offset : α) : List (TripSection α) → JourneyChart α
  | [] => ⟨[], offset⟩
  | trip :: rest =>
    let bar := trip.journeyBar style offset
    let below := layoutFrom style (offset + (bar.height + style.gap)) rest
    ⟨bar :: below.bars, below.totalHeight⟩

def draw (trips : List (TripSection α)) (style : JourneyChartStyle α) :
    Except (Fault α) (JourneyChart α) := do
  style.check
  trips.forM TripSection.check
  pure (layoutFrom style style.topOffset trips)

end JourneyChart

end TransitDiagram
