import TransitDiagram.Text.Space

/-!
# The command line

The words of a command line name a task, options and at most one input. A later task, preset or
output takes the place of an earlier one.
-/

namespace TransitDiagram

inductive Task where
  | layout
  | synthesize
  | timeline
  | vertical
  deriving DecidableEq

def Task.ofWord? : String → Option Task
  | "layout" => some layout
  | "synthesize" => some synthesize
  | "timeline" => some timeline
  | "vertical" => some vertical
  | _ => none

/-- The named styles of a diagram. -/
inductive Preset where
  | station
  | trip
  | interchange
  deriving DecidableEq

/-- The preset that a word names. White space around it and the case of its letters do not
matter. -/
def Preset.ofWord? (word : String) : Option Preset :=
  match String.ofList ((trimSpace word.toList).map Char.toLower) with
  | "station" => some station
  | "trip" => some trip
  | "interchange" => some interchange
  | _ => none

structure Arguments where
  task : Task
  /-- Where the request is read from: a file, or the standard input. -/
  input : Option String
  preset : Preset
  pretty : Bool
  verbose : Bool
  /-- Where the answer is written to: a file, or the standard output. -/
  output : Option String
  deriving DecidableEq

namespace Arguments

def default : Arguments :=
  ⟨.layout, none, .station, false, false, none⟩

/-- Sets the input, unless there is one already. -/
def withInput? (args : Arguments) (word : String) : Option Arguments :=
  if args.input.isNone then some { args with input := some word } else none

/-- A word that can name an input: a single dash, or a word that does not begin with one. -/
def isInput (word : String) : Bool :=
  decide (word = "-" ∨ word.toList.head? ≠ some '-')

def take? (args : Arguments) (word : String) : Option Arguments :=
  match Task.ofWord? word with
  | some task => some { args with task := task }
  | none =>
    if word = "--pretty" then some { args with pretty := true }
    else if word = "--verbose" ∨ word = "-v" then some { args with verbose := true }
    else if isInput word then args.withInput? word
    else none

/-- Takes the words of a command line after some others. -/
def takeAll? (args : Arguments) : List String → Option Arguments
  | [] => some args
  | ["--"] => some args
  | ["--", word] => args.withInput? word
  | "--" :: _ => none
  | "--preset" :: word :: rest =>
    (Preset.ofWord? word).bind fun preset => takeAll? { args with preset := preset } rest
  | "--out" :: word :: rest => takeAll? { args with output := some word } rest
  | word :: rest => (args.take? word).bind fun args => takeAll? args rest

/-- What a command line asks for, if it is understood. -/
def parse? (words : List String) : Option Arguments :=
  takeAll? default words

end Arguments

def usage : String :=
  "paxflow-cli\n\nUSAGE:\n" ++
  "paxflow-cli [layout] [--preset station|trip|interchange] [--pretty] [--verbose] [--out <path>] [<path>|-]\n" ++
  "paxflow-cli synthesize [--pretty] [--verbose] [--out <path>] [<path>|-]\n" ++
  "paxflow-cli timeline [--pretty] [--verbose] [--out <path>] [<path>|-]\n" ++
  "paxflow-cli vertical [--pretty] [--verbose] [--out <path>] [<path>|-]\n" ++
  "\nNOTES:\n" ++
  "- If <path> is omitted or '-', the JSON request is read from stdin.\n" ++
  "- layout accepts sourceNodes/targetNodes/links, or flows plus a window to synthesize first.\n" ++
  "- A config object in the request replaces the --preset config.\n" ++
  "- Diagnostics go to stderr; set PAXFLOW_LOG (e.g. debug) or pass --verbose.\n"

end TransitDiagram
