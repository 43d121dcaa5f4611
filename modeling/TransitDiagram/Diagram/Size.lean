import TransitDiagram.Diagram.Style
import TransitDiagram.Extent

/-!
# Sizes of nodes

A node is drawn as a backdrop for its capacity with a body for its occupancy in front. Whatever
the least thickness adds to the ribbons that touch a node is added to both, so that the ribbons
still fit the body.
-/

namespace TransitDiagram

open Quantity

/-- The extents of a node before it is placed. -/
structure Size (α : Type) where
  backdrop : α
  body : α
  /-- The passengers on the links of the node. -/
  linkSum : α
  /-- How far the body reaches past the backdrop. -/
  overflow : α
  deriving DecidableEq

structure SizedNode (α : Type) where
  node : Node α
  size : Size α
  deriving DecidableEq

namespace Node

variable {α : Type} [Quantity α]

/-- What the least thickness adds to the ribbons of links with these values. -/
def compensation (style : Style α) (values : List α) : α :=
  total (values.map fun value => Extent.thickening value style.scale style.leastLink)

/-- The extent of so many passengers at a node whose ribbons add `compensation`. -/
def extentOf (style : Style α) (count compensation : α) : α :=
  Extent.raised count (Extent.ofCount count style.scale + compensation) style.leastNode

/-- The size of a node whose links have these values. A sentinel has no capacity: its backdrop is
as large as its body, so that its row has room for it. -/
def size (style : Style α) (node : Node α) (values : List α) : Size α :=
  let added := compensation style values
  let body := extentOf style node.occupancy added
  let backdrop := if node.key.isSentinel then body else extentOf style node.capacity added
  let overflow := if node.isOverflowing then positivePart (body - backdrop) else 0
  ⟨backdrop, body, total values, overflow⟩

def sized (style : Style α) (values : NodeKey → List α) (node : Node α) : SizedNode α :=
  ⟨node, node.size style (values node.key)⟩

end Node

end TransitDiagram
