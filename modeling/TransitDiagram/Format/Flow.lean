import TransitDiagram.Flow
import TransitDiagram.Format.Scalar

/-!
# Schemas of nodes, links and flows

What diagrams and networks are made from. A node without a time or a capacity has zero for it.
-/

namespace TransitDiagram

def Node.schema : Schema (Node Float) :=
  .record (.required "id" Node.key NodeKey.schema <|
    .defaulted "displayTime" Node.displayTime .int64 0 <|
    .required "occupancy" Node.occupancy .number <|
    .defaulted "capacity" Node.capacity .number 0 .nil)
    fun (key, time, occupancy, capacity, ()) => ⟨key, time, occupancy, capacity⟩

def Link.schema : Schema (Link Float) :=
  .record (.required "id" Link.id .natural <|
    .required "fromNodeId" Link.source NodeKey.schema <|
    .required "toNodeId" Link.target NodeKey.schema <|
    .required "value" Link.value .number .nil)
    fun (id, source, target, value, ()) => ⟨id, source, target, value⟩

/-- A range of time is its two moments. -/
def TimeRange.schema : Schema TimeRange :=
  .record (.required "start" TimeRange.start .int64 <|
    .required "end" TimeRange.stop .int64 .nil)
    fun (start, stop, ()) => ⟨start, stop⟩

/-- An end of a flow. What it lacks is written as null. -/
def FlowEnd.schema : Schema FlowEnd :=
  .record (.defaulted "id" FlowEnd.entity (.optional EntityKey.schema) none <|
    .defaulted "time" FlowEnd.time (.optional .int64) none .nil)
    fun (entity, time, ()) => ⟨entity, time⟩

/-- A flow is its two ends and its value. -/
def Flow.schema : Schema (Flow Float) :=
  .record (.required "from" Flow.source FlowEnd.schema <|
    .required "to" Flow.target FlowEnd.schema <|
    .required "value" Flow.value .number .nil)
    fun (source, target, value, ()) => ⟨source, target, value⟩

/-- A network is its nodes and its links. -/
def Network.schema : Schema (Network Float) :=
  .record (.required "sourceNodes" Network.sources (.list Node.schema) <|
    .required "targetNodes" Network.targets (.list Node.schema) <|
    .required "links" Network.links (.list Link.schema) .nil)
    fun (sources, targets, links, ()) => ⟨sources, targets, links⟩

end TransitDiagram
