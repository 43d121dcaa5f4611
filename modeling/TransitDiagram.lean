import TransitDiagram.Clock
import TransitDiagram.Command.Arguments
import TransitDiagram.Command.FileFault
import TransitDiagram.Command.Host
import TransitDiagram.Command.Request
import TransitDiagram.Command.Run
import TransitDiagram.DayChart
import TransitDiagram.Decimal.Numeral
import TransitDiagram.Decimal.Reading
import TransitDiagram.Decimal.Shortest
import TransitDiagram.Diagram.Draw
import TransitDiagram.Diagram.Ribbon
import TransitDiagram.Diagram.Row
import TransitDiagram.Diagram.Size
import TransitDiagram.Diagram.Stack
import TransitDiagram.Diagram.Style
import TransitDiagram.Extent
import TransitDiagram.Fault
import TransitDiagram.Fault.Message
import TransitDiagram.Flow
import TransitDiagram.Format.Chart
import TransitDiagram.Format.Diagram
import TransitDiagram.Format.Flow
import TransitDiagram.Format.Scalar
import TransitDiagram.JourneyChart
import TransitDiagram.Json.Basic
import TransitDiagram.Json.Reader
import TransitDiagram.Json.Schema
import TransitDiagram.Json.Token
import TransitDiagram.Json.Writer
import TransitDiagram.LoadBar
import TransitDiagram.Main
import TransitDiagram.Node
import TransitDiagram.Proofs.ChartBounds
import TransitDiagram.Proofs.Charts
import TransitDiagram.Proofs.Checks
import TransitDiagram.Proofs.Clock
import TransitDiagram.Proofs.Command.Effects
import TransitDiagram.Proofs.Command.Files
import TransitDiagram.Proofs.Command.Grammar
import TransitDiagram.Proofs.Command.Piping
import TransitDiagram.Proofs.DayBlocks
import TransitDiagram.Proofs.Diagram.Acceptance
import TransitDiagram.Proofs.Diagram.Arrangement
import TransitDiagram.Proofs.Diagram.Balance
import TransitDiagram.Proofs.Diagram.Crossing
import TransitDiagram.Proofs.Diagram.Fates
import TransitDiagram.Proofs.Diagram.Isolation
import TransitDiagram.Proofs.Diagram.LeastExtents
import TransitDiagram.Proofs.Diagram.Mapping
import TransitDiagram.Proofs.Diagram.NamesAndTimes
import TransitDiagram.Proofs.Diagram.Numbering
import TransitDiagram.Proofs.Diagram.OverflowBars
import TransitDiagram.Proofs.Diagram.Packing
import TransitDiagram.Proofs.Diagram.Pairing
import TransitDiagram.Proofs.Diagram.Realignment
import TransitDiagram.Proofs.Diagram.Refusal
import TransitDiagram.Proofs.Diagram.Renaming
import TransitDiagram.Proofs.Diagram.Reordering
import TransitDiagram.Proofs.Diagram.Rows
import TransitDiagram.Proofs.Diagram.Rules
import TransitDiagram.Proofs.Diagram.Sizing
import TransitDiagram.Proofs.Diagram.Slices
import TransitDiagram.Proofs.Diagram.Stacking
import TransitDiagram.Proofs.Diagram.Tiling
import TransitDiagram.Proofs.Diagram.TimeOffsets
import TransitDiagram.Proofs.Diagram.TotalExtent
import TransitDiagram.Proofs.Diagram.Vacancy
import TransitDiagram.Proofs.Diagram.WideLinks
import TransitDiagram.Proofs.Diagram.Zoom
import TransitDiagram.Proofs.ElapsedTime
import TransitDiagram.Proofs.Exact
import TransitDiagram.Proofs.GivenSentinels
import TransitDiagram.Proofs.Grouping
import TransitDiagram.Proofs.JourneyBars
import TransitDiagram.Proofs.Json.Document
import TransitDiagram.Proofs.Json.Numeral
import TransitDiagram.Proofs.Json.Spelling
import TransitDiagram.Proofs.Keyed
import TransitDiagram.Proofs.LoadBars
import TransitDiagram.Proofs.Network
import TransitDiagram.Proofs.NetworkDrawing
import TransitDiagram.Proofs.Schema.DataModel
import TransitDiagram.Proofs.Schema.Members
import TransitDiagram.Proofs.Schema.Rearrangement
import TransitDiagram.Proofs.Schema.RoundTrip
import TransitDiagram.Proofs.Schema.Text
import TransitDiagram.Proofs.Seams
import TransitDiagram.Proofs.StableSort
import TransitDiagram.Proofs.TravelTime
import TransitDiagram.Quantity
import TransitDiagram.Text.Space
import TransitDiagram.TripSection
