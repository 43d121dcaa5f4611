import TransitDiagram.Diagram.Stack

/-!
# Ribbons

A link is drawn as a ribbon from its source node to its target node. At each node the ribbons lie
side by side, contiguous from the end of the body upwards, and those to the lowest nodes of the
other side come first, so that ribbons which meet at a node do not cross. A link for nobody has no
ribbon.
-/

namespace TransitDiagram

open Quantity

/-- A link with its place on the drawing. -/
structure Ribbon (α : Type) where
  id : Nat
  source : NodeKey
  target : NodeKey
  value : α
  extent : α
  /-- The middle of the ribbon's slice of the source node's body. -/
  offsetAtSource : α
  offsetAtTarget : α
  /-- The position among the slices of the source node, counted from the end of its body. -/
  orderAtSource : Nat
  orderAtTarget : Nat
  deriving DecidableEq

/-- A link that is drawn, with its position among the links. -/
structure Strand (α : Type) where
  index : Nat
  link : Link α
  extent : α

/-- What a ribbon takes of a node's body. -/
structure Slice (α : Type) where
  order : Nat
  centre : α

namespace Side

variable {α : Type}

/-- The end of a link on this side. -/
def endOf (side : Side) (link : Link α) : NodeKey :=
  match side with
  | source => link.source
  | target => link.target

def across : Side → Side
  | source => target
  | target => source

end Side

namespace Strand

variable {α : Type} [Quantity α]

/-- The links that are drawn, in order. -/
def ofLinks (style : Style α) (links : List (Link α)) : List (Strand α) :=
  (links.zipIdx.map fun (link, index) =>
    (⟨index, link, Extent.ribbon link.value style.scale style.leastLink⟩ : Strand α)).filter
      fun strand => !decide (strand.extent ≤ 0)

omit [Quantity α] in
/-- The rank of the strand's node among the nodes of a side. -/
def rank (stack : Stack α) (side : Side) (strand : Strand α) : Nat :=
  match (stack.onSide side).find? fun node => node.key = side.endOf strand.link with
  | some node => node.rank
  | none => 0

omit [Quantity α] in
/-- The strands at a node, those to the highest rank across first; strands to one rank keep their
order. -/
def atNode (stack : Stack α) (strands : List (Strand α)) (node : PlacedNode α) :
    List (Strand α) :=
  (strands.filter fun strand => node.side.endOf strand.link = node.key).mergeSort
    fun a b => b.rank stack node.side.across ≤ a.rank stack node.side.across

/-- Gives out slices from the end of a body upwards, beginning `offset` above it. -/
def slices (bodyEnd : α) : α → Nat → List (Strand α) → List (Nat × Slice α)
  | _, _, [] => []
  | offset, order, strand :: rest =>
    (strand.index, ⟨order, bodyEnd - offset - strand.extent / 2⟩) ::
      slices bodyEnd (offset + strand.extent) (order + 1) rest

/-- The slices of all nodes of a side, by the position of the link. -/
def slicesOn (stack : Stack α) (strands : List (Strand α)) (side : Side) :
    List (Nat × Slice α) :=
  (stack.onSide side).flatMap fun node => slices node.bodyEnd 0 0 (atNode stack strands node)

/-- The strand's slice among the slices of a side. -/
def sliceIn (slices : List (Nat × Slice α)) (strand : Strand α) : Slice α :=
  (slices.lookup strand.index).getD ⟨0, 0⟩

end Strand

namespace Ribbon

variable {α : Type} [Quantity α]

/-- The ribbons of links whose ends are in the stack. -/
def ofLinks (style : Style α) (stack : Stack α) (links : List (Link α)) : List (Ribbon α) :=
  let strands := Strand.ofLinks style links
  let atSource := Strand.slicesOn stack strands .source
  let atTarget := Strand.slicesOn stack strands .target
  strands.map fun strand =>
    let source := strand.sliceIn atSource
    let target := strand.sliceIn atTarget
    { id := strand.link.id
      source := strand.link.source
      target := strand.link.target
      value := strand.link.value
      extent := strand.extent
      offsetAtSource := source.centre
      offsetAtTarget := target.centre
      orderAtSource := source.order
      orderAtTarget := target.order }

end Ribbon

end TransitDiagram
