import TransitDiagram.Command.Arguments
import TransitDiagram.Format.Chart
import TransitDiagram.Format.Diagram
import TransitDiagram.Format.Flow

/-!
# Requests

What the input of a command may hold, one type of request for each task, and how it is answered.
-/

namespace TransitDiagram

/-- A diagram of given links, or of flows within a range of time. -/
structure DiagramRequest where
  sources : List (Node Float)
  targets : List (Node Float)
  links : List (Link Float)
  flows : Option (List (Flow Float))
  range : Option TimeRange
  style : Option (Style Float)

/-- The network of flows within a range of time. -/
structure NetworkRequest where
  sources : List (Node Float)
  targets : List (Node Float)
  flows : List (Flow Float)
  range : TimeRange

structure ChartRequest (σ : Type) where
  trips : List (TripSection Float)
  style : σ

def DiagramRequest.schema : Schema DiagramRequest :=
  .record (.defaulted "sourceNodes" DiagramRequest.sources (.list Node.schema) [] <|
    .defaulted "targetNodes" DiagramRequest.targets (.list Node.schema) [] <|
    .defaulted "links" DiagramRequest.links (.list Link.schema) [] <|
    .defaulted "flows" DiagramRequest.flows (.optional (.list Flow.schema)) none <|
    .defaulted "window" DiagramRequest.range (.optional TimeRange.schema) none <|
    .defaulted "config" DiagramRequest.style (.optional Style.schema) none .nil)
    fun (sources, targets, links, flows, range, style, ()) =>
      ⟨sources, targets, links, flows, range, style⟩

def NetworkRequest.schema : Schema NetworkRequest :=
  .record (.defaulted "sourceNodes" NetworkRequest.sources (.list Node.schema) [] <|
    .defaulted "targetNodes" NetworkRequest.targets (.list Node.schema) [] <|
    .required "flows" NetworkRequest.flows (.list Flow.schema) <|
    .required "window" NetworkRequest.range TimeRange.schema .nil)
    fun (sources, targets, flows, range, ()) => ⟨sources, targets, flows, range⟩

def ChartRequest.schema {σ : Type} (style : Schema σ) (standard : σ) :
    Schema (ChartRequest σ) :=
  .record (.required "sections" ChartRequest.trips (.list TripSection.schema) <|
    .defaulted "config" ChartRequest.style style standard .nil)
    fun (trips, style, ()) => ⟨trips, style⟩

def Preset.style : Preset → Style Float
  | station => .station
  | trip => .trip
  | interchange => .interchange

namespace Network

def draw {α : Type} [Quantity α] (network : Network α) (style : Style α) :
    Except (Fault α) (Diagram α) :=
  Diagram.draw network.sources network.targets network.links style

end Network

/-- Draws what is asked for. A style in the request takes the place of the preset. -/
def DiagramRequest.answer (preset : Preset) (request : DiagramRequest) :
    Except (Fault Float) (Diagram Float) :=
  let style := request.style.getD preset.style
  match request.flows, request.range with
  | none, _ => Diagram.draw request.sources request.targets request.links style
  | some _, none => throw .noRange
  | some flows, some range => do
    let network ← Network.ofFlows request.sources request.targets flows range
    network.draw style

def NetworkRequest.answer (request : NetworkRequest) : Except (Fault Float) (Network Float) :=
  Network.ofFlows request.sources request.targets request.flows request.range

end TransitDiagram
