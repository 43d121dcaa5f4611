import TransitDiagram.Extent

/-!
# Load bars

A bar grows from its baseline towards smaller coordinates. The part within capacity sits on the
baseline; the overflow sits beyond it, a small seam apart. The seam only shortens what is drawn of
the overflow: each part keeps its count of passengers.
-/

namespace TransitDiagram

open Quantity

/-- A span along one axis and the passengers it stands for. -/
structure BarPart (α : Type) where
  start : α
  stop : α
  value : α
  deriving DecidableEq

def BarPart.extent {α : Type} [Quantity α] (part : BarPart α) : α :=
  part.stop - part.start

/-- A bar that shows a load against a capacity. -/
structure LoadBar (α : Type) where
  /-- The load up to capacity: the whole load when it does not exceed it. -/
  within : BarPart α
  /-- The load beyond capacity, if there is any. -/
  overflow : Option (BarPart α)
  /-- The extent of the overflow before the seam is taken off. -/
  overflowExtent : α
  deriving DecidableEq

/-- A count of passengers and the extent it is drawn with. -/
structure Amount (α : Type) where
  count : α
  extent : α

namespace LoadBar

variable {α : Type} [Quantity α]

omit [Quantity α] in
def isOverflowing (bar : LoadBar α) : Bool :=
  bar.overflow.isSome

/-- A load drawn against a capacity, with the seam `gap` between its two parts. Nothing is drawn
beyond zero. -/
def ofAmounts (baseline : α) (load capacity : Amount α) (gap : α) : LoadBar α :=
  if load.count ≤ capacity.count then
    ⟨⟨baseline - load.extent, baseline, load.count⟩, none, 0⟩
  else
    let within : BarPart α := ⟨baseline - capacity.extent, baseline, capacity.count⟩
    let overflowExtent := positivePart (load.extent - capacity.extent)
    let rendered := positivePart (overflowExtent - gap)
    let stop := positivePart (within.start - gap)
    let overflow : BarPart α :=
      ⟨positivePart (stop - rendered), stop, load.count - capacity.count⟩
    ⟨within, some overflow, overflowExtent⟩

/-- A load of `occupancy` passengers drawn against `capacity` at `scale` passengers per unit of
length. -/
def ofLoad (baseline occupancy capacity scale gap : α) : LoadBar α :=
  ofAmounts baseline ⟨occupancy, Extent.ofCount occupancy scale⟩
    ⟨capacity, Extent.ofCount capacity scale⟩ gap

end LoadBar

end TransitDiagram
