import TransitDiagram.Fault

/-!
# Styles of a diagram

How a diagram is drawn: the scale, the least extents, the gaps, whether nodes of one key share a
row, and whether nodes get a position in time beside their rank.
-/

namespace TransitDiagram

open Quantity

inductive Alignment where
  /-- Nodes of one key share a row and are centred on each other. -/
  | paired
  /-- Each side is stacked on its own. -/
  | independent
  deriving DecidableEq

/-- A time axis for the nodes of a diagram. -/
structure TimeAxis (α : Type) where
  width : α
  frameHours : α
  /-- Added to a node's time before the clock is read, in seconds. -/
  utcOffset : Int32
  deriving DecidableEq

/-- What the nodes are positioned by, apart from their rank. -/
inductive Axis (α : Type) where
  | rank
  | time (axis : TimeAxis α)
  deriving DecidableEq

structure Style (α : Type) where
  /-- Passengers per unit of length. -/
  scale : α
  leastNode : α
  leastLink : α
  /-- The gap between two rows, and the margin below the last one. -/
  padding : α
  overflowGap : α
  alignment : Alignment
  axis : Axis α
  deriving DecidableEq

/-- The seam between a bar and its overflow, unless a style says otherwise. -/
def defaultOverflowGap : Float := 1.5

/-- The hours of a time axis, unless a style says otherwise. The hour after midnight keeps what
ends at `24:00` apart from what starts at `00:00`. -/
def defaultFrameHours : Float := 25

namespace TimeAxis

/-- A time axis of the usual hours in universal time. -/
def ofWidth (width : Float) : TimeAxis Float :=
  ⟨width, defaultFrameHours, 0⟩

variable {α : Type} [Quantity α]

def check (axis : TimeAxis α) : Except (Fault α) Unit := do
  Fault.checkPositive "axis width" axis.width
  Fault.checkPositive "frameHours" axis.frameHours

/-- The position of a moment on the axis, if a clock can show it. -/
def position? (axis : TimeAxis α) (seconds : Int64) : Option α :=
  (ClockTime.ofMoment? seconds axis.utcOffset).map (·.position axis.width axis.frameHours)

end TimeAxis

namespace Axis

variable {α : Type} [Quantity α]

/-- The position in time of a real node, on an axis that shows it. -/
def offset? (axis : Axis α) (node : Node α) : Option α :=
  match axis, node.key with
  | .time axis, .real _ => axis.position? node.displayTime
  | _, _ => none

/-- Accepts a node whose time the axis can show. -/
def checkNode (axis : Axis α) (node : Node α) : Except (Fault α) Unit :=
  match axis, node.key with
  | .time axis, .real _ =>
    if (axis.position? node.displayTime).isSome then pure ()
    else throw (.noDate (.displayTime node.key) node.displayTime)
  | _, _ => pure ()

end Axis

namespace Style

/-- Changes at one station: arriving trips to the left, departing trips to the right. -/
def station : Style Float :=
  ⟨4, 2, 2, 20, defaultOverflowGap, .paired, .rank⟩

/-- Boarding and alighting along the stops of one trip. -/
def trip : Style Float :=
  { station with scale := 5, leastNode := 4, leastLink := 4 }

def interchange : Style Float :=
  { station with alignment := .independent }

variable {α : Type} [Quantity α]

/-- Accepts a style that can be drawn. A node with one link must not be held longer than that
link, so the least node must not exceed the least link. -/
def check (style : Style α) : Except (Fault α) Unit := do
  Fault.checkPositive "scaleFactor" style.scale
  Fault.checkNonNegative "minNodeExtent" style.leastNode
  Fault.checkNonNegative "minLinkExtent" style.leastLink
  Fault.checkNonNegative "padding" style.padding
  Fault.checkNonNegative "overflowGap" style.overflowGap
  if style.leastLink < style.leastNode then
    throw (.style (.nodeExceedsLink style.leastNode style.leastLink))
  match style.axis with
  | .rank => pure ()
  | .time axis => axis.check

end Style

end TransitDiagram
