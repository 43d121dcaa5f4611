import TransitDiagram.Command.Host
import TransitDiagram.Command.Request
import TransitDiagram.Fault.Message
import TransitDiagram.Json.Reader
import TransitDiagram.Json.Writer

/-!
# Running the command

A run reads a request, answers it and writes the answer as one JSON document, to the one place that
the command line names. A run that fails says why. `Command.execute` is a run on any host, and
`Command.run` is one on a file system, from its files to its outcome.
-/

namespace TransitDiagram

/-- Why a run that understood its command line fails. -/
inductive Failure where
  | file (fault : FileFault)
  /-- What is wrong with the text or with the request in it, in the words of the JSON library, is
  left out. -/
  | notJson
  | fault (fault : Fault Float)
  deriving DecidableEq

def Failure.message : Failure → String
  | file f => "I/O error: " ++ f.message
  | notJson => "JSON error"
  | fault f => f.message

/-- What comes of a run as a whole: its exit code and what it has left. -/
structure Outcome (φ : Type) extends World φ where
  code : Nat

namespace Command

def request {α : Type} (schema : Schema α) (text : String) : Except Failure α :=
  match (Json.ofText? text).bind (schema.read .strict) with
  | some request => pure request
  | none => throw .notJson

def reply {α : Type} (schema : Schema α) (answer : Except (Fault Float) α) :
    Except Failure Json :=
  match answer with
  | .ok value => pure (schema.write value)
  | .error fault => throw (.fault fault)

/-- The answer to the text of a request. -/
def answer (args : Arguments) (text : String) : Except Failure Json :=
  match args.task with
  | .layout => do
    let diagram ← request DiagramRequest.schema text
    reply Diagram.schema (diagram.answer args.preset)
  | .synthesize => do
    let network ← request NetworkRequest.schema text
    reply Network.schema network.answer
  | .timeline => do
    let chart ← request (ChartRequest.schema DayChartStyle.schema .standard) text
    reply DayChart.schema (DayChart.draw chart.trips chart.style)
  | .vertical => do
    let chart ← request (ChartRequest.schema JourneyChartStyle.schema .standard) text
    reply JourneyChart.schema (JourneyChart.draw chart.trips chart.style)

/-- The document that answers what was read, with the newline at its end. -/
def document (args : Arguments) (input : Except FileFault ByteArray) : Except Failure String := do
  let text ← (input.bind decodeText).mapError .file
  let value ← answer args text
  pure (String.ofList ((if args.pretty then value.pretty else value.compact) ++ ['\n']))

/-- The path that is read, unless the standard input is. -/
def inputFile? (args : Arguments) : Option String :=
  args.input.filter (· ≠ "-")

/-- The path that is written, unless the standard output is. -/
def outputFile? (args : Arguments) : Option String :=
  args.output.filter (· ≠ "-")

section Hosts

variable {m : Type → Type} [Monad m]

/-- Does what the arguments ask for. Nothing is written before there is an answer. -/
def perform (host : Host m) (args : Arguments) : m (Except Failure Unit) := do
  match document args (← host.read (inputFile? args)) with
  | .ok text => return (← host.write (outputFile? args) text).mapError .file
  | .error failure => return .error failure

/-- Runs the command and returns its exit code. -/
def execute (host : Host m) (words : List String) : m Nat := do
  match Arguments.parse? words with
  | none =>
    host.complain usage
    return 2
  | some args =>
    match ← perform host args with
    | .ok () => return 0
    | .error failure =>
      host.complain failure.message
      return 1

end Hosts

def run {φ : Type} (fs : FileSystem φ) (words : List String) (stdin : ByteArray) (files : φ) :
    Outcome φ :=
  let (code, world) := (execute (fs.host stdin) words).run (.start files)
  { world with code }

end Command

end TransitDiagram
