import TransitDiagram.Diagram.Draw
import TransitDiagram.Format.Scalar

/-!
# Schemas of diagrams and their styles

The fields of a style may be absent and are then as at a station. On a drawing, what a node lacks is
not written at all.
-/

namespace TransitDiagram

def Alignment.name : Alignment → String
  | paired => "paired"
  | independent => "independent"

def Alignment.schema : Schema Alignment :=
  .word [.paired, .independent] Alignment.name

namespace Axis

variable {α : Type}

/-- There is nothing more to say of an axis of ranks. -/
def rank? : Axis α → Option Unit
  | rank => some ()
  | time _ => none

/-- The time axis, if there is one. -/
def time? : Axis α → Option (TimeAxis α)
  | rank => none
  | time axis => some axis

end Axis

def TimeAxis.fields : Fields (TimeAxis Float) (Float × Float × Int32 × Unit) :=
  .required "width" TimeAxis.width .number <|
    .defaulted "frameHours" TimeAxis.frameHours .number defaultFrameHours <|
    .defaulted "utcOffsetSeconds" TimeAxis.utcOffset .int32 0 .nil

/-- A time axis that stands by itself. -/
def TimeAxis.schema : Schema (TimeAxis Float) :=
  .record TimeAxis.fields fun (width, frameHours, utcOffset, ()) => ⟨width, frameHours, utcOffset⟩

def Axis.schema : Schema (Axis Float) :=
  .union <|
    .cons "rank" Axis.rank? .nil (fun () => .rank) <|
    .cons "time" Axis.time? TimeAxis.fields
      (fun (width, frameHours, utcOffset, ()) => .time ⟨width, frameHours, utcOffset⟩) .nil

/-- A style. What is absent is as at a station. -/
def Style.schema : Schema (Style Float) :=
  .record (.defaulted "scaleFactor" Style.scale .number Style.station.scale <|
    .defaulted "minNodeExtent" Style.leastNode .number Style.station.leastNode <|
    .defaulted "minLinkExtent" Style.leastLink .number Style.station.leastLink <|
    .defaulted "padding" Style.padding .number Style.station.padding <|
    .defaulted "overflowGap" Style.overflowGap .number Style.station.overflowGap <|
    .defaulted "alignment" Style.alignment Alignment.schema Style.station.alignment <|
    .defaulted "axis" Style.axis Axis.schema Style.station.axis .nil)
    fun (scale, leastNode, leastLink, padding, overflowGap, alignment, axis, ()) =>
      ⟨scale, leastNode, leastLink, padding, overflowGap, alignment, axis⟩

def BarPart.schema : Schema (BarPart Float) :=
  .record (.required "start" BarPart.start .number <|
    .required "end" BarPart.stop .number <|
    .required "value" BarPart.value .number .nil)
    fun (start, stop, value, ()) => ⟨start, stop, value⟩

def LoadBar.schema : Schema (LoadBar Float) :=
  .record (.required "within" LoadBar.within BarPart.schema <|
    .optional "overflow" LoadBar.overflow BarPart.schema <|
    .required "overflowExtent" LoadBar.overflowExtent .number .nil)
    fun (within, overflow, overflowExtent, ()) => ⟨within, overflow, overflowExtent⟩

def PlacedNode.schema : Schema (PlacedNode Float) :=
  .record (.required "id" PlacedNode.key NodeKey.schema <|
    .required "side" PlacedNode.side Side.schema <|
    .required "rank" PlacedNode.rank .natural <|
    .required "occupancy" PlacedNode.occupancy .number <|
    .required "capacity" PlacedNode.capacity .number <|
    .required "backdropExtent" PlacedNode.backdropExtent .number <|
    .required "bodyExtent" PlacedNode.bodyExtent .number <|
    .required "backdropStart" PlacedNode.backdropStart .number <|
    .required "backdropEnd" PlacedNode.backdropEnd .number <|
    .required "bodyStart" PlacedNode.bodyStart .number <|
    .required "bodyEnd" PlacedNode.bodyEnd .number <|
    .required "overflowing" PlacedNode.overflowing .flag <|
    .required "linkSumOut" PlacedNode.linkSumOut .number <|
    .required "linkSumIn" PlacedNode.linkSumIn .number <|
    .required "loadRatio" PlacedNode.loadRatio .number <|
    .optional "timeOffset" PlacedNode.timeOffset .number <|
    .optional "overflow" PlacedNode.overflow LoadBar.schema .nil)
    fun (key, side, rank, occupancy, capacity, backdropExtent, bodyExtent, backdropStart,
        backdropEnd, bodyStart, bodyEnd, overflowing, linkSumOut, linkSumIn, loadRatio,
        timeOffset, overflow, ()) =>
      ⟨key, side, rank, occupancy, capacity, backdropExtent, bodyExtent, backdropStart,
        backdropEnd, bodyStart, bodyEnd, overflowing, linkSumOut, linkSumIn, loadRatio,
        timeOffset, overflow⟩

def Ribbon.schema : Schema (Ribbon Float) :=
  .record (.required "id" Ribbon.id .natural <|
    .required "fromNodeId" Ribbon.source NodeKey.schema <|
    .required "toNodeId" Ribbon.target NodeKey.schema <|
    .required "value" Ribbon.value .number <|
    .required "extent" Ribbon.extent .number <|
    .required "startOffsetAtSource" Ribbon.offsetAtSource .number <|
    .required "startOffsetAtTarget" Ribbon.offsetAtTarget .number <|
    .required "sourceOrderKey" Ribbon.orderAtSource .natural <|
    .required "targetOrderKey" Ribbon.orderAtTarget .natural .nil)
    fun (id, source, target, value, extent, offsetAtSource, offsetAtTarget, orderAtSource,
        orderAtTarget, ()) =>
      ⟨id, source, target, value, extent, offsetAtSource, offsetAtTarget, orderAtSource,
        orderAtTarget⟩

/-- A loose end is the one kind of diagnostic. -/
def LooseEnd.schema : Schema LooseEnd :=
  .union <|
    .cons "unresolvedEndpoint" some
      (.required "linkId" LooseEnd.link .natural <|
        .required "side" LooseEnd.side Side.schema <|
        .required "nodeId" LooseEnd.key NodeKey.schema .nil)
      (fun (link, side, key, ()) => ⟨link, side, key⟩) .nil

/-- A drawing. Loose ends are written only if there are any. -/
def Diagram.schema : Schema (Diagram Float) :=
  .record (.required "sourceLayout" Diagram.sources (.list PlacedNode.schema) <|
    .required "targetLayout" Diagram.targets (.list PlacedNode.schema) <|
    .required "links" Diagram.ribbons (.list Ribbon.schema) <|
    .required "totalExtent" Diagram.totalExtent .number <|
    .cons "diagnostics" Diagram.looseEnds (.list LooseEnd.schema) (some []) List.isEmpty .nil)
    fun (sources, targets, ribbons, totalExtent, looseEnds, ()) =>
      ⟨sources, targets, ribbons, totalExtent, looseEnds⟩

end TransitDiagram
