import TransitDiagram.Diagram.Row
import TransitDiagram.LoadBar

/-!
# Stacks of rows

Rows are placed from top to bottom. Within a row the smaller backdrop is centred on the larger
one, and a row with an overflowing body is pushed down so far that the overflow clears the row
above it.
-/

namespace TransitDiagram

open Quantity

/-- A node with its place on the drawing. Coordinates grow downwards. -/
structure PlacedNode (α : Type) where
  key : NodeKey
  side : Side
  /-- The number of the row, from the top. -/
  rank : Nat
  occupancy : α
  capacity : α
  backdropExtent : α
  bodyExtent : α
  backdropStart : α
  backdropEnd : α
  bodyStart : α
  bodyEnd : α
  overflowing : Bool
  linkSumOut : α
  linkSumIn : α
  loadRatio : α
  /-- The position in time, on a diagram with a time axis. -/
  timeOffset : Option α
  /-- The bar of an overflowing node. -/
  overflow : Option (LoadBar α)
  deriving DecidableEq

namespace PlacedNode

variable {α : Type} [Quantity α]

/-- The bar of an overflowing node: the backdrop is the part within capacity, and what the body
reaches beyond it is the overflow. -/
def overflowBar (node : PlacedNode α) (gap : α) : Option (LoadBar α) :=
  if node.overflowing then
    let bar := LoadBar.ofAmounts node.backdropEnd ⟨node.occupancy, node.bodyExtent⟩
      ⟨node.capacity, node.backdropExtent⟩ gap
    if bar.isOverflowing then some bar else none
  else none

/-- A node placed in a row whose backdrops start at `rowStart`, the largest of them being
`tallest` long. -/
def ofSized (style : Style α) (rank : Nat) (rowStart tallest : α) (side : Side)
    (sized : SizedNode α) : PlacedNode α :=
  let node := sized.node
  let size := sized.size
  let backdropStart := rowStart + (tallest - size.backdrop) / 2
  let backdropEnd := backdropStart + size.backdrop
  let placed : PlacedNode α :=
    { key := node.key
      side := side
      rank := rank
      occupancy := node.occupancy
      capacity := node.capacity
      backdropExtent := size.backdrop
      bodyExtent := size.body
      backdropStart := backdropStart
      backdropEnd := backdropEnd
      bodyStart := positivePart (backdropEnd - size.body)
      bodyEnd := backdropEnd
      overflowing := node.isOverflowing
      linkSumOut := if side = .source then size.linkSum else 0
      linkSumIn := if side = .source then 0 else size.linkSum
      loadRatio :=
        if node.key.isSentinel then 0 else Extent.fillRatio node.occupancy node.capacity
      timeOffset := style.axis.offset? node
      overflow := none }
  { placed with overflow := placed.overflowBar style.overflowGap }

end PlacedNode

/-- Placed nodes and the coordinate at which they end. -/
structure Stack (α : Type) where
  nodes : List (PlacedNode α)
  bottom : α

namespace Stack

variable {α : Type} [Quantity α]

/-- The nodes of a row that starts at `rowStart`. -/
def row (style : Style α) (rank : Nat) (rowStart : α) (row : Row α) : List (PlacedNode α) :=
  row.members.map fun member =>
    PlacedNode.ofSized style rank rowStart row.tallest member.1 member.2

/-- Where a row ends: at the last of its backdrops. -/
def rowEnd (rowStart : α) (nodes : List (PlacedNode α)) : α :=
  nodes.foldl (fun bottom node => larger bottom node.backdropEnd) rowStart

/-- Places rows below `cursor`, the first of them with number `rank`. -/
def below (style : Style α) : Nat → α → List (Row α) → Stack α
  | _, cursor, [] => ⟨[], cursor⟩
  | rank, cursor, first :: rest =>
    let rowStart := first.start style.padding rank cursor
    let nodes := row style rank rowStart first
    let others := below style (rank + 1) (rowEnd rowStart nodes) rest
    ⟨nodes ++ others.nodes, others.bottom⟩

/-- Places rows from the top of the drawing. -/
def ofRows (style : Style α) (rows : List (Row α)) : Stack α :=
  below style 0 0 rows

/-- Both sides of a diagram, stacked as the style says. -/
def ofSides (style : Style α) (sources targets : List (SizedNode α)) : Stack α :=
  match style.alignment with
  | .paired => ofRows style (Row.paired sources targets)
  | .independent =>
    let left := ofRows style (Row.ofSide .source sources)
    let right := ofRows style (Row.ofSide .target targets)
    ⟨left.nodes ++ right.nodes, larger left.bottom right.bottom⟩

omit [Quantity α] in
/-- The nodes of one side, from top to bottom. -/
def onSide (stack : Stack α) (side : Side) : List (PlacedNode α) :=
  stack.nodes.filter fun node => node.side = side

end Stack

end TransitDiagram
