import TransitDiagram.Command.Run
import TransitDiagram.Proofs.Command.Files
import TransitDiagram.Proofs.Json.Document

/-!
# The effects of a run

A run goes through four stages: it reads a text, decodes it as a request, asks the engine for an
answer and writes it. An `Obstacle` at one of them is the only way to fail for a run whose command
line is understood. On a system that writes a file completely or not at all
(`FileSystem.WritesWhole`), a run that fails has no effect but its message, and one that does not
writes one document at one place (`Command.run_effect`).
-/

namespace TransitDiagram.Command

variable {φ : Type}

/-! ### Stages -/

/-- The text that a run with these arguments reads. -/
def source (fs : FileSystem φ) (args : Arguments) (stdin : ByteArray) (files : φ) :
    Except FileFault String :=
  (fs.readAt files stdin (inputFile? args)).bind decodeText

/-- What the engine says to a document, unless that is no request of the task. -/
def respond (args : Arguments) (document : Json) : Option (Except (Fault Float) Json) :=
  match args.task with
  | .layout => (DiagramRequest.schema.read .strict document).map fun request =>
      (request.answer args.preset).map Diagram.schema.write
  | .synthesize => (NetworkRequest.schema.read .strict document).map fun request =>
      request.answer.map Network.schema.write
  | .timeline =>
    ((ChartRequest.schema DayChartStyle.schema .standard).read .strict document).map fun request =>
      (DayChart.draw request.trips request.style).map DayChart.schema.write
  | .vertical =>
    ((ChartRequest.schema JourneyChartStyle.schema .standard).read .strict document).map
      fun request => (JourneyChart.draw request.trips request.style).map JourneyChart.schema.write

/-- The value with a newline at its end, in the form that is asked for. -/
def documentText (args : Arguments) (value : Json) : String :=
  String.ofList ((if args.pretty then value.pretty else value.compact) ++ ['\n'])

/-- The value is the engine's answer to what a run with these arguments reads. -/
def Answers (fs : FileSystem φ) (args : Arguments) (stdin : ByteArray) (files : φ) (value : Json) :
    Prop :=
  ∃ text, source fs args stdin files = .ok text ∧
    (Json.ofText? text).bind (respond args) = some (.ok value)

/-- What keeps a run with these arguments from its end. -/
inductive Obstacle (fs : FileSystem φ) (args : Arguments) (stdin : ByteArray) (files : φ) :
    Prop where
  | reading {fault : FileFault} (unread : source fs args stdin files = .error fault)
  | decoding {text : String} (read : source fs args stdin files = .ok text)
      (noRequest : (Json.ofText? text).bind (respond args) = none)
  | engine {text : String} {fault : Fault Float} (read : source fs args stdin files = .ok text)
      (refused : (Json.ofText? text).bind (respond args) = some (.error fault))
  | writing {value : Json} {fault : FileFault} {after : World φ}
      (answers : Answers fs args stdin files value)
      (unwritten : (fs.writeAt (outputFile? args) (documentText args value)).run (.start files) =
        (.error fault, after))

variable {fs : FileSystem φ} {args : Arguments} {stdin : ByteArray} {files : φ}

theorem request_bind_reply {α β : Type} (schema : Schema α)
    (engine : α → Except (Fault Float) β) (written : Schema β) (text : String) :
    (request schema text >>= fun asked => reply written (engine asked)) =
      ((Json.ofText? text).bind fun document =>
        (schema.read .strict document).map fun asked => (engine asked).map written.write).elim
          (throw .notJson) (Except.mapError .fault) := by
  rw [request]
  cases Json.ofText? text with
  | none => rfl
  | some document =>
    rw [Option.bind_some, Option.bind_some]
    cases schema.read .strict document with
    | none => rfl
    | some asked =>
      rw [Option.map_some]
      show reply written (engine asked) = _
      cases engine asked <;> rfl

theorem answer_eq (args : Arguments) (text : String) :
    answer args text =
      ((Json.ofText? text).bind (respond args)).elim (throw .notJson)
        (Except.mapError .fault) := by
  obtain ⟨task, input, preset, pretty, verbose, output⟩ := args
  cases task with
  | layout => exact request_bind_reply DiagramRequest.schema (·.answer preset) Diagram.schema text
  | synthesize =>
    exact request_bind_reply NetworkRequest.schema NetworkRequest.answer Network.schema text
  | timeline =>
    exact request_bind_reply (ChartRequest.schema DayChartStyle.schema .standard)
      (fun asked => DayChart.draw asked.trips asked.style) DayChart.schema text
  | vertical =>
    exact request_bind_reply (ChartRequest.schema JourneyChartStyle.schema .standard)
      (fun asked => JourneyChart.draw asked.trips asked.style) JourneyChart.schema text

theorem document_eq (args : Arguments) (input : Except FileFault ByteArray) :
    document args input =
      (input.bind decodeText).mapError .file >>= fun text =>
        (answer args text).map (documentText args) := by
  rw [document]
  cases (input.bind decodeText).mapError Failure.file with
  | error failure => rfl
  | ok text =>
    show (answer args text >>= _) = (answer args text).map _
    cases answer args text <;> rfl

/-- The first three stages end at an obstacle or with the document of an answer. -/
theorem document_cases (fs : FileSystem φ) (args : Arguments) (stdin : ByteArray) (files : φ) :
    (∃ failure, document args (fs.readAt files stdin (inputFile? args)) = .error failure ∧
      Obstacle fs args stdin files) ∨
    (∃ value, document args (fs.readAt files stdin (inputFile? args)) =
      .ok (documentText args value) ∧ Answers fs args stdin files value) := by
  rw [document_eq]
  cases read : source fs args stdin files with
  | error fault =>
    rw [source] at read
    exact .inl ⟨.file fault, by rw [read]; rfl, .reading read⟩
  | ok text =>
    have first := read
    rw [source] at first
    rw [first]
    show (∃ failure, (answer args text).map (documentText args) = .error failure ∧ _) ∨
      ∃ value, (answer args text).map (documentText args) = .ok _ ∧ _
    rw [answer_eq]
    cases asked : (Json.ofText? text).bind (respond args) with
    | none => exact .inl ⟨_, rfl, .decoding read asked⟩
    | some reply =>
      cases reply with
      | error fault => exact .inl ⟨_, rfl, .engine read asked⟩
      | ok value => exact .inr ⟨value, rfl, text, read, asked⟩

/-- A run without a document stops before it writes. -/
theorem perform_of_document_eq_error {failure : Failure} {before : World φ}
    (failed : document args (fs.readAt before.files stdin (inputFile? args)) = .error failure) :
    (perform (fs.host stdin) args).run before = (.error failure, before) := by
  rw [perform, StateT.run_bind, FileSystem.run_read_host, pure_bind, failed]
  rfl

/-- A run with a document ends as the writing of it ends. -/
theorem perform_of_document_eq_ok {text : String} {before after : World φ}
    {ended : Except FileFault Unit}
    (answered : document args (fs.readAt before.files stdin (inputFile? args)) = .ok text)
    (wrote : (fs.writeAt (outputFile? args) text).run before = (ended, after)) :
    (perform (fs.host stdin) args).run before = (ended.mapError .file, after) := by
  rw [perform, StateT.run_bind, FileSystem.run_read_host, pure_bind, answered]
  rw [StateT.run_bind, FileSystem.write_host, wrote]
  rfl

/-- What a run does depends on the document that it would write. -/
theorem perform_congr {first second : ByteArray} {before : World φ}
    (same : document args (fs.readAt before.files first (inputFile? args)) =
      document args (fs.readAt before.files second (inputFile? args))) :
    (perform (fs.host first) args).run before = (perform (fs.host second) args).run before := by
  cases made : document args (fs.readAt before.files second (inputFile? args)) with
  | error failure =>
    rw [perform_of_document_eq_error (same.trans made), perform_of_document_eq_error made]
  | ok text =>
    rw [perform_of_document_eq_ok (same.trans made) rfl, perform_of_document_eq_ok made rfl]

/-- A run meets an obstacle, before it writes or in writing, or writes the document of an answer. -/
theorem perform_cases (fs : FileSystem φ) (args : Arguments) (stdin : ByteArray) (files : φ) :
    (∃ failure after,
      (perform (fs.host stdin) args).run (.start files) = (.error failure, after) ∧
      Obstacle fs args stdin files ∧
      (after = .start files ∨ ∃ text fault,
        (fs.writeAt (outputFile? args) text).run (.start files) = (.error fault, after))) ∨
    (∃ value after, (perform (fs.host stdin) args).run (.start files) = (.ok (), after) ∧
      Answers fs args stdin files value ∧
      (fs.writeAt (outputFile? args) (documentText args value)).run (.start files) =
        (.ok (), after)) := by
  rcases document_cases fs args stdin files with
    ⟨failure, failed, obstacle⟩ | ⟨value, made, answers⟩
  · exact .inl ⟨failure, _, perform_of_document_eq_error failed, obstacle, .inl rfl⟩
  · rcases wrote : (fs.writeAt (outputFile? args) (documentText args value)).run (.start files) with
      ⟨fault | ⟨⟩, after⟩
    · exact .inl ⟨.file fault, after, perform_of_document_eq_ok made wrote,
        .writing answers wrote, .inr ⟨_, fault, wrote⟩⟩
    · exact .inr ⟨value, after, perform_of_document_eq_ok made wrote, answers, wrote⟩

/-- An answer that is written has met no obstacle. -/
theorem Answers.not_obstacle {value : Json} {after : World φ}
    (answers : Answers fs args stdin files value)
    (wrote : (fs.writeAt (outputFile? args) (documentText args value)).run (.start files) =
      (.ok (), after)) : ¬ Obstacle fs args stdin files := by
  obtain ⟨text, read, answered⟩ := answers
  intro obstacle
  cases obstacle with
  | reading unread => cases read.symm.trans unread
  | decoding other noRequest =>
    cases read.symm.trans other
    cases answered.symm.trans noRequest
  | engine other refused =>
    cases read.symm.trans other
    cases answered.symm.trans refused
  | writing others unwritten =>
    obtain ⟨other, readOther, answeredOther⟩ := others
    cases read.symm.trans readOther
    cases answered.symm.trans answeredOther
    cases wrote.symm.trans unwritten

/-! ### Documents -/

/-- The document of a value, with a newline after it and nothing else. -/
def IsDocumentOf (value : Json) (text : String) : Prop :=
  ∃ body, text = body ++ "\n" ∧ Json.ofText? body = some (value.readBack 0)

theorem spells_body (args : Arguments) (value : Json) :
    Spells (if args.pretty then value.pretty else value.compact) value.tokens := by
  split
  · exact value.spells_pretty
  · exact value.spells_compact

theorem isDocumentOf_documentText (args : Arguments) (value : Json) :
    IsDocumentOf value (documentText args value) := by
  refine ⟨String.ofList (if args.pretty then value.pretty else value.compact), ?_, ?_⟩
  · rw [documentText, String.ofList_append]
  · rw [Json.ofText?, String.toList_ofList]
    exact Json.ofChars?_of_spells (spells_body args value)

/-! ### Outcomes -/

section Outcomes

variable {words : List String} {after : World φ}

theorem run_of_parse?_eq_none (refused : Arguments.parse? words = none) :
    run fs words stdin files = ⟨⟨"", usage ++ "\n", files⟩, 2⟩ := by
  rw [run, execute, refused]
  show (⟨⟨"", "" ++ usage ++ "\n", files⟩, 2⟩ : Outcome φ) = _
  rw [String.empty_append]

theorem run_of_perform_eq_error {failure : Failure}
    (understood : Arguments.parse? words = some args)
    (failed : (perform (fs.host stdin) args).run (.start files) = (.error failure, after)) :
    run fs words stdin files =
      ⟨{ after with messages := after.messages ++ failure.message ++ "\n" }, 1⟩ := by
  rw [run, execute, understood, StateT.run_bind, failed]
  rfl

theorem run_of_perform_eq_ok (understood : Arguments.parse? words = some args)
    (performed : (perform (fs.host stdin) args).run (.start files) = (.ok (), after)) :
    run fs words stdin files = ⟨after, 0⟩ := by
  rw [run, execute, understood, StateT.run_bind, performed]
  rfl

end Outcomes

theorem outputFile?_eq_none (standard : args.output = none ∨ args.output = some "-") :
    outputFile? args = none := by
  rw [outputFile?]
  rcases standard with absent | dash
  · rw [absent]
    rfl
  · rw [dash]
    rfl

theorem outputFile?_eq_some {path : String} (output : args.output = some path)
    (other : path ≠ "-") : outputFile? args = some path := by
  rw [outputFile?, output]
  exact Option.filter_some_pos (decide_eq_true other)

/-- A request for the chart of a day without trips. -/
def emptyDay : ByteArray :=
  (String.ofList (Json.object [("sections", .array [])]).compact).toUTF8

/-- There is one file, with the request. -/
def dayFiles : String → Option ByteArray :=
  Function.update (fun _ => none) "sections/day.json" (some emptyDay)

/-- What comes of charting the day to a path. -/
def chartDay (path : String) : Outcome (String → Option ByteArray) :=
  run (.ofFolders ["/tmp/charts/"]) ["timeline", "--out", path, "sections/day.json"] .empty dayFiles

end TransitDiagram.Command
