import TransitDiagram.Diagram.Size

/-!
# Rows

The nodes of a diagram stand in rows. Under paired alignment a source node and a target node of
one key share a row; otherwise each node has its own. Rows are sorted by the stacking order, and
rows of equal place keep their order, those with a source node first.
-/

namespace TransitDiagram

open Quantity

inductive Row (α : Type) where
  | source (node : SizedNode α)
  | target (node : SizedNode α)
  | pair (source target : SizedNode α)
  deriving DecidableEq

namespace Row

variable {α : Type}

/-- The place of the row: that of its source node, if it has one. -/
def place : Row α → StackPlace
  | source s => s.node.place
  | target t => t.node.place
  | pair s _ => s.node.place

/-- The nodes of the row, the source node first. -/
def members : Row α → List (Side × SizedNode α)
  | source s => [(.source, s)]
  | target t => [(.target, t)]
  | pair s t => [(.source, s), (.target, t)]

def sorted (rows : List (Row α)) : List (Row α) :=
  rows.mergeSort fun a b => a.place.le b.place

/-- The row of a source node, shared with the target node of its key. -/
def ofSource (targets : List (SizedNode α)) (s : SizedNode α) : Row α :=
  match targets.find? fun t => t.node.key = s.node.key with
  | some t => .pair s t
  | none => .source s

/-- The rows of both sides when nodes of one key share a row. -/
def paired (sources targets : List (SizedNode α)) : List (Row α) :=
  let alone := targets.filter fun t => !sources.any fun s => s.node.key = t.node.key
  sorted (sources.map (ofSource targets) ++ alone.map .target)

def ofSide (side : Side) (nodes : List (SizedNode α)) : List (Row α) :=
  sorted <| nodes.map <| match side with
    | .source => .source
    | .target => .target

variable [Quantity α]

/-- The extent of the largest backdrop of the row. -/
def tallest (row : Row α) : α :=
  largest (row.members.map fun member => member.2.size.backdrop)

/-- How far the row reaches above its middle: an overflowing body stands out over its backdrop. -/
def reach (row : Row α) : α :=
  largest (row.members.map fun member => member.2.size.overflow + member.2.size.backdrop / 2)

/-- The room that the row needs above its backdrops. -/
def headroom (row : Row α) : α :=
  positivePart (row.reach - row.tallest / 2)

/-- Where the backdrops of the row start, below a drawing that ends at `cursor`. -/
def start (padding : α) (rank : Nat) (cursor : α) (row : Row α) : α :=
  cursor + (if rank = 0 then 0 else padding) + row.headroom

end Row

end TransitDiagram
