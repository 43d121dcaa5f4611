import TransitDiagram.Diagram.Style
import TransitDiagram.LoadBar
import TransitDiagram.TripSection

/-!
# Day charts

A day chart shows sections of trips as bars over a time-of-day axis, as high as their load. A
section that crosses midnight has bars at both ends of the axis.
-/

namespace TransitDiagram

open Quantity

structure DayChartStyle (α : Type) where
  width : α
  /-- The height of the chart, which is also the baseline of its bars. -/
  height : α
  frameHours : α
  /-- Passengers per unit of height. -/
  capacityScale : α
  overflowGap : α
  deriving DecidableEq

inductive BarKind where
  | load
  | overflow
  | reference
  deriving DecidableEq

def BarKind.name : BarKind → String
  | load => "load"
  | overflow => "overflow"
  | reference => "reference"

structure DayBar (α : Type) where
  key : EntityKey
  kind : BarKind
  span : DaySpan
  x : α
  width : α
  y : α
  height : α
  value : α
  capacity : α
  loadRatio : α
  deriving DecidableEq

structure DayChart (α : Type) where
  width : α
  height : α
  bars : List (DayBar α)
  /-- Some section has more passengers than places. -/
  anyOverflow : Bool
  deriving DecidableEq

namespace DayChartStyle

def standard : DayChartStyle Float :=
  ⟨1200, 200, defaultFrameHours, 13, defaultOverflowGap⟩

variable {α : Type} [Quantity α]

def check (style : DayChartStyle α) : Except (Fault α) Unit := do
  Fault.checkPositive "width" style.width
  Fault.checkPositive "height" style.height
  Fault.checkPositive "frameHours" style.frameHours
  Fault.checkPositive "capacityScale" style.capacityScale
  Fault.checkNonNegative "overflowGap" style.overflowGap

end DayChartStyle

namespace TripSection

variable {α : Type} [Quantity α]

def loadBar (style : DayChartStyle α) (trip : TripSection α) : LoadBar α :=
  LoadBar.ofLoad style.height trip.occupancy trip.capacity style.capacityScale style.overflowGap

def referencePart (style : DayChartStyle α) (reference : α) : BarPart α :=
  ⟨style.height - Extent.ofCount reference style.capacityScale, style.height, reference⟩

/-- What is drawn for each span of the section, in drawing order. -/
def parts (style : DayChartStyle α) (trip : TripSection α) : List (BarKind × BarPart α) :=
  let bar := trip.loadBar style
  [(.load, bar.within)] ++ bar.overflow.toList.map (.overflow, ·) ++
    trip.reference.toList.map fun reference => (.reference, referencePart style reference)

/-- The bars of the section, one span after the other. -/
def dayBars (style : DayChartStyle α) (trip : TripSection α) : List (DayBar α) :=
  trip.spans.flatMap fun span =>
    (trip.parts style).map fun (kind, part) =>
      { key := trip.key
        kind := kind
        span := span
        x := span.departure.position style.width style.frameHours
        width := span.extent style.width style.frameHours
        y := part.start
        height := part.extent
        value := part.value
        capacity := trip.capacity
        loadRatio := Extent.fillRatio trip.occupancy trip.capacity }

end TripSection

namespace DayChart

variable {α : Type} [Quantity α]

/-- The chart of sections that have been checked. -/
def layout (trips : List (TripSection α)) (style : DayChartStyle α) : DayChart α :=
  { width := style.width
    height := style.height
    bars := trips.flatMap (TripSection.dayBars style)
    anyOverflow := trips.any fun trip => (trip.loadBar style).isOverflowing }

def draw (trips : List (TripSection α)) (style : DayChartStyle α) :
    Except (Fault α) (DayChart α) := do
  style.check
  trips.forM TripSection.check
  pure (layout trips style)

end DayChart

end TransitDiagram
