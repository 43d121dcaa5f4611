import TransitDiagram.Quantity

/-!
# Extents

A passenger count becomes a length by division by the scale (passengers per unit of length). A
thin ribbon is raised to a least extent, and `thickening` measures how much that adds to it, so
that the nodes at its ends can make room.
-/

namespace TransitDiagram

open Quantity

namespace Extent

variable {α : Type} [Quantity α]

/-- The length that stands for `value` passengers. -/
def ofCount (value scale : α) : α :=
  value / scale

/-- An extent that is at least `least` when it stands for a positive count. -/
def raised (value extent least : α) : α :=
  if 0 < value then larger extent least else extent

/-- The thickness of a ribbon for `value` passengers: at least `least`, and nothing for a count of
zero or less. -/
def ribbon (value scale least : α) : α :=
  if value ≤ 0 then 0 else larger (ofCount value scale) least

/-- What the least thickness adds to a ribbon for `value` passengers. -/
def thickening (value scale least : α) : α :=
  if value ≤ 0 then 0 else positivePart (ribbon value scale least - ofCount value scale)

/-- Occupancy relative to capacity, between zero and one. Without any capacity it is one as soon
as somebody is aboard. -/
def fillRatio (occupancy capacity : α) : α :=
  if capacity ≤ 0 then (if 0 < occupancy then 1 else 0)
  else clampToUnit (occupancy / capacity)

end Extent

end TransitDiagram
