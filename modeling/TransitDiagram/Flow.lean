import TransitDiagram.Fault

/-!
# Flows

A flow is a count of passengers between two ends, each of which may name a trip and a time. An end
whose trip is not among the nodes of its side goes to a sentinel, chosen by its time. `Network`
collects the flows of a diagram: one link for every two ends that occur together, and a sentinel
for all passengers who enter or leave the range of time.
-/

namespace TransitDiagram

open Quantity

/-- A range of time, both moments included, in seconds since 1970. -/
structure TimeRange where
  start : Int64
  stop : Int64
  deriving DecidableEq

/-- One end of a flow: the trip it belongs to and the time of that trip here. -/
structure FlowEnd where
  entity : Option EntityKey
  time : Option Int64
  deriving DecidableEq

namespace FlowEnd

/-- An end without a trip, where a journey starts or ends. -/
def unbound : FlowEnd := ⟨none, none⟩

/-- The node of an end: its trip if that is known, and otherwise what `outside` says of its
time. -/
def node (known : List EntityKey) (outside : Option Int64 → Sentinel) (e : FlowEnd) : NodeKey :=
  match e.entity with
  | some entity => if entity ∈ known then .real entity else .sentinel (outside e.time)
  | none => .sentinel (outside e.time)

/-- The sentinel that passengers come from: those who were aboard before the range, or board. -/
def origin (range : TimeRange) : Option Int64 → Sentinel
  | some time => if time < range.start then .previous else .boarding
  | none => .boarding

/-- The sentinel that passengers go to: those who stay aboard after the range, or leave. -/
def destination (range : TimeRange) : Option Int64 → Sentinel
  | some time => if range.stop < time then .future else .exiting
  | none => .exiting

def atSource (known : List EntityKey) (range : TimeRange) (e : FlowEnd) : NodeKey :=
  e.node known (origin range)

def atTarget (known : List EntityKey) (range : TimeRange) (e : FlowEnd) : NodeKey :=
  e.node known (destination range)

end FlowEnd

structure Flow (α : Type) where
  source : FlowEnd
  target : FlowEnd
  value : α
  deriving DecidableEq

structure Transfer (α : Type) where
  source : NodeKey
  target : NodeKey
  value : α
  deriving DecidableEq

namespace Transfer

variable {α : Type} [Quantity α]

omit [Quantity α] in
/-- The nodes of a flow, given the entities known on either side. -/
def ofFlow (sources targets : List EntityKey) (range : TimeRange) (flow : Flow α) : Transfer α :=
  ⟨flow.source.atSource sources range, flow.target.atTarget targets range, flow.value⟩

/-- Adds passengers to the transfer between the same nodes, or begins a new one at the end. -/
def add : List (Transfer α) → Transfer α → List (Transfer α)
  | [], transfer => [{ transfer with value := 0 + transfer.value }]
  | first :: rest, transfer =>
    if first.source = transfer.source ∧ first.target = transfer.target then
      { first with value := first.value + transfer.value } :: rest
    else first :: add rest transfer

/-- One transfer for every two nodes, in the order in which they first occur. -/
def merged (transfers : List (Transfer α)) : List (Transfer α) :=
  transfers.foldl add []

/-- The passengers who come from a sentinel or go to it. -/
def passengers (transfers : List (Transfer α)) (kind : Sentinel) : α :=
  total <| (transfers.filter fun transfer =>
    transfer.source = .sentinel kind ∨ transfer.target = .sentinel kind).map (·.value)

/-- A sentinel with passengers. -/
def isPresent (transfers : List (Transfer α)) (kind : Sentinel) : Bool :=
  decide (0 < passengers transfers kind)

def isDrawn (transfers : List (Transfer α)) : NodeKey → Bool
  | .real _ => true
  | .sentinel kind => isPresent transfers kind

/-- The nodes of those of the given sentinels that have passengers. -/
def sentinels (transfers : List (Transfer α)) (kinds : List Sentinel) : List (Node α) :=
  (kinds.filter (isPresent transfers)).map fun kind =>
    Node.ofSentinel kind (passengers transfers kind)

end Transfer

structure Network (α : Type) where
  sources : List (Node α)
  targets : List (Node α)
  links : List (Link α)
  deriving DecidableEq

namespace Network

variable {α : Type} [Quantity α]

omit [Quantity α] in
def empty : Network α := ⟨[], [], []⟩

omit [Quantity α] in
def entities (nodes : List (Node α)) : List EntityKey :=
  nodes.filterMap (·.key.entity?)

omit [Quantity α] in
def realNodes (nodes : List (Node α)) : List (Node α) :=
  nodes.filter fun node => !node.key.isSentinel

/-- Accepts flows with proper values, of which the first has number `index`. -/
def checkFlows (index : Nat) : List (Flow α) → Except (Fault α) Unit
  | [] => pure ()
  | flow :: rest => do
    Fault.checkCount .value (.flow index) flow.value
    checkFlows (index + 1) rest

/-- The links of transfers between drawn nodes, numbered from zero. -/
def linksOf (transfers : List (Transfer α)) : List (Link α) :=
  ((Transfer.merged transfers).filter fun transfer =>
    Transfer.isDrawn transfers transfer.source && Transfer.isDrawn transfers transfer.target).zipIdx.map
      fun (transfer, id) => ⟨id, transfer.source, transfer.target, transfer.value⟩

/-- The network of flows between the given nodes. Sentinels among the nodes are replaced by those
that the flows call for. -/
def ofFlows (sources targets : List (Node α)) (flows : List (Flow α)) (range : TimeRange) :
    Except (Fault α) (Network α) := do
  checkFlows 0 flows
  let transfers := flows.map (Transfer.ofFlow (entities sources) (entities targets) range)
  pure
    { sources := Transfer.sentinels transfers [.boarding, .previous] ++ realNodes sources
      targets := realNodes targets ++ Transfer.sentinels transfers [.future, .exiting]
      links := linksOf transfers }

end Network

end TransitDiagram
