import TransitDiagram.Diagram.Ribbon

/-!
# Drawing a diagram

`Diagram.draw` lays out the nodes of two sides and the links between them. Sentinels for nobody
are left out. Links with an unknown end are left out as well, and reported. Quantities that are
negative or not finite, and keys that occur twice on a side, are refused.
-/

namespace TransitDiagram

open Quantity

/-- A link that is not drawn because a node at one of its ends is unknown. -/
structure LooseEnd where
  link : Nat
  side : Side
  key : NodeKey
  deriving DecidableEq

structure Diagram (α : Type) where
  sources : List (PlacedNode α)
  targets : List (PlacedNode α)
  ribbons : List (Ribbon α)
  totalExtent : α
  looseEnds : List LooseEnd
  deriving DecidableEq

namespace Link

variable {α : Type}

/-- The end of a link that is not among the nodes. The source end is named if both are missing. -/
def looseEnd? (sources targets : List (Node α)) (link : Link α) : Option LooseEnd :=
  if !sources.any (·.key = link.source) then some ⟨link.id, .source, link.source⟩
  else if !targets.any (·.key = link.target) then some ⟨link.id, .target, link.target⟩
  else none

/-- The links with both ends among the nodes. -/
def connected (sources targets : List (Node α)) (links : List (Link α)) : List (Link α) :=
  links.filter fun link => (link.looseEnd? sources targets).isNone

/-- The values of the links that end at a node. -/
def valuesAt (side : Side) (links : List (Link α)) (key : NodeKey) : List α :=
  (links.filter fun link => side.endOf link = key).map (·.value)

variable [Quantity α]

def check (link : Link α) : Except (Fault α) Unit :=
  Fault.checkCount .value (.link link.id) link.value

end Link

namespace Node

variable {α : Type} [Quantity α]

/-- Accepts nodes with proper quantities and keys of their own, apart from the keys in `seen`. -/
def checkAll (side : Side) (seen : List NodeKey) : List (Node α) → Except (Fault α) Unit
  | [] => pure ()
  | node :: rest => do
    Fault.checkCount .occupancy (.node side node.key) node.occupancy
    Fault.checkCount .capacity (.node side node.key) node.capacity
    if node.key ∈ seen then throw (.repeatedNode side node.key)
    checkAll side (node.key :: seen) rest

end Node

namespace Diagram

variable {α : Type} [Quantity α]

/-- Accepts what can be drawn, and otherwise names the first fault. -/
def check (sources targets : List (Node α)) (links : List (Link α)) (style : Style α) :
    Except (Fault α) Unit := do
  style.check
  Node.checkAll .source [] sources
  Node.checkAll .target [] targets
  links.forM Link.check
  sources.forM style.axis.checkNode
  targets.forM style.axis.checkNode

/-- The stack of both sides' nodes, sized for the links between them. -/
def stack (sources targets : List (Node α)) (links : List (Link α)) (style : Style α) : Stack α :=
  Stack.ofSides style
    (sources.map (Node.sized style (Link.valuesAt .source links)))
    (targets.map (Node.sized style (Link.valuesAt .target links)))

/-- The drawing of nodes and links that have been checked. -/
def layout (sources targets : List (Node α)) (links : List (Link α)) (style : Style α) :
    Diagram α :=
  let connected := Link.connected sources targets links
  let stack := stack sources targets connected style
  { sources := stack.onSide .source
    targets := stack.onSide .target
    ribbons := Ribbon.ofLinks style stack connected
    totalExtent := stack.bottom + style.padding
    looseEnds := links.filterMap (Link.looseEnd? sources targets) }

def draw (sources targets : List (Node α)) (links : List (Link α)) (style : Style α) :
    Except (Fault α) (Diagram α) := do
  let sources := Node.kept sources
  let targets := Node.kept targets
  check sources targets links style
  pure (layout sources targets links style)

omit [Quantity α] in
/-- The nodes of a side, from top to bottom. -/
def onSide (diagram : Diagram α) : Side → List (PlacedNode α)
  | .source => diagram.sources
  | .target => diagram.targets

omit [Quantity α] in
/-- The node of a key on a side. -/
def node? (diagram : Diagram α) (side : Side) (key : NodeKey) : Option (PlacedNode α) :=
  (diagram.onSide side).find? fun node => node.key = key

omit [Quantity α] in
/-- The first ribbon with this id. -/
def ribbon? (diagram : Diagram α) (id : Nat) : Option (Ribbon α) :=
  diagram.ribbons.find? fun ribbon => ribbon.id = id

end Diagram

end TransitDiagram
