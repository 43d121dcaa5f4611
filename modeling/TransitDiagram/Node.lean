import TransitDiagram.Quantity

/-!
# Nodes and links

A diagram connects nodes of a source side with nodes of a target side. A node is a real entity (a
trip, a stop) or a sentinel, which stands for passengers who enter or leave the range of time
that the diagram shows. `StackPlace` is the order in which the nodes of a side are stacked.
-/

namespace TransitDiagram

open Quantity

structure EntityKey where
  text : String
  deriving DecidableEq

/-- The order of the keys' texts, by code point. -/
def EntityKey.le (a b : EntityKey) : Bool :=
  decide (a.text ≤ b.text)

inductive Side where
  | source
  | target
  deriving DecidableEq

namespace Side

def all : List Side := [source, target]

def name : Side → String
  | source => "source"
  | target => "target"

end Side

/-- The kinds of sentinels: passengers who board here or come from before the range of time, and
passengers who go on after it or leave here. -/
inductive Sentinel where
  | boarding
  | previous
  | future
  | exiting
  deriving DecidableEq

namespace Sentinel

def all : List Sentinel := [boarding, previous, future, exiting]

/-- The position in stacking order. -/
def index : Sentinel → Nat
  | boarding => 0
  | previous => 1
  | future => 2
  | exiting => 3

def side : Sentinel → Side
  | boarding => .source
  | previous => .source
  | future => .target
  | exiting => .target

def name : Sentinel → String
  | boarding => "boarding"
  | previous => "previous"
  | future => "future"
  | exiting => "exiting"

end Sentinel

/-- What identifies a node: the key of an entity, or the kind of a sentinel. -/
inductive NodeKey where
  | real (entity : EntityKey)
  | sentinel (kind : Sentinel)
  deriving DecidableEq

namespace NodeKey

/-- The entity, if the node stands for one. -/
def entity? : NodeKey → Option EntityKey
  | real entity => some entity
  | sentinel _ => none

/-- The kind of sentinel, if the node is one. -/
def sentinel? : NodeKey → Option Sentinel
  | real _ => none
  | sentinel kind => some kind

def isSentinel : NodeKey → Bool
  | real _ => false
  | sentinel _ => true

/-- The node as messages name it: a sentinel stands in angle brackets. -/
def label : NodeKey → String
  | real entity => entity.text
  | sentinel kind => "<" ++ kind.name ++ ">"

end NodeKey

/-- The place of a node in its stack: leading sentinels, then real nodes by time, then trailing
sentinels. -/
inductive StackPlace where
  | leading (kind : Sentinel)
  | timed (time : Int64)
  | trailing (kind : Sentinel)
  deriving DecidableEq

def StackPlace.le : StackPlace → StackPlace → Bool
  | leading a, leading b => decide (a.index ≤ b.index)
  | leading _, _ => true
  | timed _, leading _ => false
  | timed s, timed t => decide (s.toInt ≤ t.toInt)
  | timed _, trailing _ => true
  | trailing a, trailing b => decide (a.index ≤ b.index)
  | trailing _, _ => false

theorem StackPlace.le_trans (a b c : StackPlace) (hab : a.le b = true) (hbc : b.le c = true) :
    a.le c = true := by
  cases a <;> cases b <;> cases c <;> simp_all only [le, decide_eq_true_eq, Bool.false_eq_true]
  all_goals omega

theorem StackPlace.le_total (a b : StackPlace) : (a.le b || b.le a) = true := by
  cases a <;> cases b <;>
    simp only [le, Bool.or_eq_true, decide_eq_true_eq, Bool.or_true, Bool.or_false]
  all_goals omega

structure Node (α : Type) where
  key : NodeKey
  /-- Seconds since 1970. Only real nodes are stacked by it. -/
  displayTime : Int64
  occupancy : α
  capacity : α
  deriving DecidableEq

namespace Node

variable {α : Type} [Quantity α]

/-- The node of a sentinel with so many passengers. It has no time and no capacity of its own. -/
def ofSentinel (kind : Sentinel) (occupancy : α) : Node α :=
  ⟨.sentinel kind, 0, occupancy, 0⟩

omit [Quantity α] in
def place (node : Node α) : StackPlace :=
  match node.key with
  | .real _ => .timed node.displayTime
  | .sentinel kind =>
    match kind.side with
    | .source => .leading kind
    | .target => .trailing kind

/-- A real node with strictly more passengers than places. Sentinels have no limit. -/
def isOverflowing (node : Node α) : Bool :=
  !node.key.isSentinel && decide (node.capacity < node.occupancy)

/-- A sentinel for nobody, which gets no place in the diagram. -/
def isVacant (node : Node α) : Bool :=
  node.key.isSentinel && node.occupancy == 0

/-- The nodes that get a place in the diagram. -/
def kept (nodes : List (Node α)) : List (Node α) :=
  nodes.filter fun node => !node.isVacant

end Node

/-- Passengers who go from a source node to a target node. -/
structure Link (α : Type) where
  id : Nat
  source : NodeKey
  target : NodeKey
  value : α
  deriving DecidableEq

end TransitDiagram
