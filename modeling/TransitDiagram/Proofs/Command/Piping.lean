import TransitDiagram.Proofs.Command.Effects
import TransitDiagram.Proofs.Schema.DataModel
import TransitDiagram.Proofs.Schema.Members
import TransitDiagram.Proofs.Schema.Text

/-!
# From synthesis to layout

A network is written as a request for a diagram. Drawing it from its text gives what drawing the
flows at once gives, as long as the numbers survive as text (`Command.run_layout_synthesize`).
-/

namespace TransitDiagram

/-! ### Requests -/

/-- A field that is there is there for a schema that lets it be absent. -/
theorem Schema.field?_optional {φ : Type} {reading : Reading} {schema : Schema φ} {name : String}
    {members : List (String × Json)} {value : φ}
    (notNull : schema.read reading .null = none)
    (found : schema.field? reading none name members = some value) :
    schema.optional.field? reading (some none) name members = some (some value) := by
  rw [field?] at found
  split at found
  case h_1 => cases found
  case h_2 v present =>
    have proper : v ≠ .null := by
      rintro rfl
      cases notNull.symm.trans found
    rw [field?_of_valuesOf_eq_singleton present, read_optional_of_ne_null reading schema proper,
      found, Option.map_some]
  case h_3 => cases found

theorem NetworkRequest.fields_of_read {members : List (String × Json)} {request : NetworkRequest}
    (asked : schema.read .strict (.object members) = some request) :
    (Schema.list Node.schema).field? .strict (some []) "sourceNodes" members =
      some request.sources ∧
    (Schema.list Node.schema).field? .strict (some []) "targetNodes" members =
      some request.targets ∧
    (Schema.list Flow.schema).field? .strict none "flows" members = some request.flows ∧
    TimeRange.schema.field? .strict none "window" members = some request.range := by
  rw [schema, Schema.read] at asked
  simp only [Fields.defaulted, Fields.required, Fields.readMembers_cons, Fields.readMembers_nil,
    Option.map_eq_some_iff, Option.bind_eq_some_iff] at asked
  obtain ⟨_, ⟨sources, atSources, _, ⟨targets, atTargets, _, ⟨flows, atFlows, _,
    ⟨range, atRange, _, -, rfl⟩, rfl⟩, rfl⟩, rfl⟩, rfl⟩ := asked
  exact ⟨atSources, atTargets, atFlows, atRange⟩

theorem DiagramRequest.read_of_fields {members : List (String × Json)} {request : DiagramRequest}
    (sources : (Schema.list Node.schema).field? .strict (some []) "sourceNodes" members =
      some request.sources)
    (targets : (Schema.list Node.schema).field? .strict (some []) "targetNodes" members =
      some request.targets)
    (links : (Schema.list Link.schema).field? .strict (some []) "links" members =
      some request.links)
    (flows : (Schema.list Flow.schema).optional.field? .strict (some none) "flows" members =
      some request.flows)
    (range : TimeRange.schema.optional.field? .strict (some none) "window" members =
      some request.range)
    (style : Style.schema.optional.field? .strict (some none) "config" members =
      some request.style) :
    schema.read .strict (.object members) = some request := by
  rw [schema, Schema.read]
  simp only [Fields.defaulted, Fields.readMembers_cons, Fields.readMembers_nil, sources, targets,
    links, flows, range, style, Option.bind_some, Option.map_some]

theorem Json.valuesOf_eq_nil {name : String} {members : List (String × Json)}
    (absent : ∀ member ∈ members, member.1 ≠ name) : valuesOf name members = [] := by
  rw [valuesOf, List.map_eq_nil_iff, List.filter_eq_nil_iff]
  intro member listed named
  exact absent member listed (of_decide_eq_true named)

/-- A request for a network is a request for its diagram. -/
theorem NetworkRequest.read_asDiagram {members : List (String × Json)} {request : NetworkRequest}
    (fields : ∀ member ∈ members,
      member.1 ∈ ["sourceNodes", "targetNodes", "flows", "window"])
    (asked : schema.read .strict (.object members) = some request) :
    DiagramRequest.schema.read .strict (.object members) =
      some ⟨request.sources, request.targets, [], some request.flows, some request.range,
        none⟩ := by
  obtain ⟨sources, targets, flows, range⟩ := fields_of_read asked
  have absent : ∀ name, name ∉ ["sourceNodes", "targetNodes", "flows", "window"] →
      Json.valuesOf name members = [] := by
    intro name other
    refine Json.valuesOf_eq_nil fun member listed named => other ?_
    rw [← named]
    exact fields member listed
  apply DiagramRequest.read_of_fields
  · exact sources
  · exact targets
  · exact Schema.field?_of_valuesOf_eq_nil (absent "links" (by decide))
  · exact Schema.field?_optional rfl flows
  · exact Schema.field?_optional rfl range
  · exact Schema.field?_of_valuesOf_eq_nil (absent "config" (by decide))

/-- A network, as it is written, is a request for its diagram. -/
theorem Network.read_asDiagram {network : Network Float}
    (finite : HeldNumber.AreFinite (schema.numbers network)) :
    DiagramRequest.schema.read .strict (schema.write network) =
      some ⟨network.sources, network.targets, network.links, none, none, none⟩ := by
  have written : schema.write network = .object [
      ("sourceNodes", (Schema.list Node.schema).write network.sources),
      ("targetNodes", (Schema.list Node.schema).write network.targets),
      ("links", (Schema.list Link.schema).write network.links)] := rfl
  have held : schema.numbers network =
      (Schema.list Node.schema).numbers network.sources ++
        ((Schema.list Node.schema).numbers network.targets ++
          ((Schema.list Link.schema).numbers network.links ++ [])) := rfl
  rw [held, HeldNumber.areFinite_append_iff, HeldNumber.areFinite_append_iff,
    List.append_nil] at finite
  rw [written]
  apply DiagramRequest.read_of_fields
  · rw [Schema.field?_of_valuesOf_eq_singleton rfl]
    exact Schema.read_write_of_areFinite _ _ (by simp) finite.1
  · rw [Schema.field?_of_valuesOf_eq_singleton rfl]
    exact Schema.read_write_of_areFinite _ _ (by simp) finite.2.1
  · rw [Schema.field?_of_valuesOf_eq_singleton rfl]
    exact Schema.read_write_of_areFinite _ _ (by simp) finite.2.2
  · exact Schema.field?_of_valuesOf_eq_nil rfl
  · exact Schema.field?_of_valuesOf_eq_nil rfl
  · exact Schema.field?_of_valuesOf_eq_nil rfl

/-- Drawing the flows that a network is made of is drawing the network. -/
theorem NetworkRequest.answer_asDiagram {request : NetworkRequest} {network : Network Float}
    (answered : request.answer = .ok network) (preset : Preset) :
    DiagramRequest.answer preset
        ⟨request.sources, request.targets, [], some request.flows, some request.range, none⟩ =
      DiagramRequest.answer preset
        ⟨network.sources, network.targets, network.links, none, none, none⟩ := by
  rw [answer] at answered
  show (Network.ofFlows request.sources request.targets request.flows request.range >>= _) = _
  rw [answered]
  rfl

/-! ### Runs -/

theorem decodeText_toUTF8 (text : String) : decodeText text.toUTF8 = .ok text := by
  have whole : String.fromUTF8? text.toUTF8 = some text := dif_pos text.isValidUTF8
  rw [decodeText, whole]
  rfl

namespace Command

/-- Two standard inputs with the same answer have the same outcome. -/
theorem run_eq_of_answer_eq {φ : Type} {words : List String} {args : Arguments}
    {first second : ByteArray} {text other : String} (fs : FileSystem φ) (files : φ)
    (understood : Arguments.parse? words = some args) (standard : inputFile? args = none)
    (firstText : decodeText first = .ok text) (secondText : decodeText second = .ok other)
    (same : answer args text = answer args other) :
    run fs words first files = run fs words second files := by
  have documents : document args (.ok first) = document args (.ok second) := by
    rw [document_eq, document_eq]
    show ((decodeText first).mapError Failure.file >>= _) =
      ((decodeText second).mapError Failure.file >>= _)
    rw [firstText, secondText]
    show (answer args text).map _ = (answer args other).map _
    rw [same]
  have performed : (perform (fs.host first) args).run (.start files) =
      (perform (fs.host second) args).run (.start files) := by
    apply perform_congr
    rw [standard]
    exact documents
  rcases ended : (perform (fs.host second) args).run (.start files) with ⟨failure | ⟨⟩, after⟩
  · rw [run_of_perform_eq_error understood (performed.trans ended),
      run_of_perform_eq_error understood ended]
  · rw [run_of_perform_eq_ok understood (performed.trans ended),
      run_of_perform_eq_ok understood ended]

/-- What `synthesize` asks for without further words. -/
def synthesis : Arguments :=
  ⟨.synthesize, none, .station, false, false, none⟩

theorem synthesize_cases {φ : Type} {fs : FileSystem φ} {stdin : ByteArray} {files : φ}
    (accepted : (run fs ["synthesize"] stdin files).code = 0) :
    ∃ text document request network, decodeText stdin = .ok text ∧
      Json.ofText? text = some document ∧
      NetworkRequest.schema.read .strict document = some request ∧
      request.answer = .ok network ∧
      (run fs ["synthesize"] stdin files).stdout =
        documentText synthesis (Network.schema.write network) := by
  have understood : Arguments.parse? ["synthesize"] = some synthesis := rfl
  rcases perform_cases fs synthesis stdin files with
    ⟨failure, after, failed, -⟩ | ⟨value, after, performed, ⟨text, read, answered⟩, wrote⟩
  · rw [run_of_perform_eq_error understood failed] at accepted
    cases accepted
  · obtain ⟨document, parsed, answered⟩ := Option.bind_eq_some_iff.mp answered
    obtain ⟨request, asked, answered⟩ := Option.map_eq_some_iff.mp answered
    cases network : request.answer with
    | error fault =>
      rw [network] at answered
      cases answered
    | ok graph =>
      rw [network] at answered
      cases answered
      refine ⟨text, document, request, graph, read, parsed, asked, network, ?_⟩
      rw [run_of_perform_eq_ok understood performed, FileSystem.eq_of_writeAt_none wrote]
      exact String.empty_append

/-- The newline at the end of a document is no part of it. -/
theorem spells_documentText (args : Arguments) (value : Json) :
    Spells (documentText args value).toList value.tokens := by
  rw [documentText, String.toList_ofList]
  exact (spells_body args value).append_newLine

/-- The network of the flows in a document. -/
def synthesized? (document : Json) : Option (Network Float) :=
  (NetworkRequest.schema.read .strict document).bind fun request => request.answer.toOption

/-- What `layout` asks for with a preset and no further words. -/
def layoutWith (preset : Preset) : Arguments :=
  ⟨.layout, none, preset, false, false, none⟩

theorem parse?_layout (word : String) :
    Arguments.parse? ["layout", "--preset", word] = (Preset.ofWord? word).map layoutWith := by
  have task : Arguments.default.take? "layout" = some Arguments.default := rfl
  rw [Arguments.parse?, Arguments.takeAll?, task, Option.bind_some, Arguments.takeAll?]
  · cases Preset.ofWord? word <;> rfl
  all_goals simp

/-- Drawing flows is drawing the network that is synthesized from them, from the text in which it is
written: the outcome is the same, whether the diagram is drawn or refused. -/
theorem run_layout_synthesize {φ : Type} {stdin : ByteArray} {text : String}
    {members : List (String × Json)} (preset : String) (fs : FileSystem φ) (files : φ)
    (decoded : decodeText stdin = .ok text)
    (parsed : Json.ofText? text = some (.object members))
    (fields : ∀ member ∈ members,
      member.1 ∈ ["sourceNodes", "targetNodes", "flows", "window"])
    (accepted : (run fs ["synthesize"] stdin files).code = 0)
    (finite : ∀ network ∈ synthesized? (.object members),
      HeldNumber.AreFinite (Network.schema.numbers network))
    (restored : ∀ network ∈ synthesized? (.object members),
      ∀ n ∈ (Network.schema.write network).numbers, n.IsRestored) :
    run fs ["layout", "--preset", preset] (run fs ["synthesize"] stdin files).stdout.toUTF8 files =
      run fs ["layout", "--preset", preset] stdin files := by
  obtain ⟨_, _, request, network, read, document, asked, answered, printed⟩ :=
    synthesize_cases accepted
  cases decoded.symm.trans read
  cases parsed.symm.trans document
  have graph : synthesized? (.object members) = some network := by
    rw [synthesized?, asked, Option.bind_some, answered]
    rfl
  have isFinite := finite network graph
  have survives := restored network graph
  cases named : Preset.ofWord? preset with
  | none =>
    have refused : Arguments.parse? ["layout", "--preset", preset] = none := by
      rw [parse?_layout, named, Option.map_none]
    rw [run_of_parse?_eq_none refused, run_of_parse?_eq_none refused]
  | some style =>
    have understood : Arguments.parse? ["layout", "--preset", preset] =
        some (layoutWith style) := by
      rw [parse?_layout, named, Option.map_some]
    refine run_eq_of_answer_eq fs files understood rfl (decodeText_toUTF8 _) decoded ?_
    have reparsed : Json.ofText? (run fs ["synthesize"] stdin files).stdout =
        some (Network.schema.write network) := by
      rw [printed, Json.ofText?]
      exact Network.schema.ofChars?_write (by decide) survives (spells_documentText synthesis _)
    have direct := NetworkRequest.read_asDiagram fields asked
    have drawn := NetworkRequest.answer_asDiagram answered style
    rw [answer_eq, answer_eq, reparsed, parsed, Option.bind_some, Option.bind_some]
    simp only [respond, layoutWith, Network.read_asDiagram isFinite, direct, Option.map_some, drawn]

/-- A flow of three passengers from a node to another one. -/
def flowRequest : Json :=
  .object [
    ("sourceNodes", .array [.array [.object [("kind", .text "real"), ("id", .text "a")],
      .integer 5, .integer 4, .integer 6]]),
    ("flows", .array [.object [
      ("from", .object [("id", .text "a"), ("time", .integer 5)]), ("to", .object []),
      ("value", .integer 3)]]),
    ("window", .object [("start", .integer 0), ("end", .integer 10)])]

/-- The request is read as it is written. -/
theorem ofText?_flowRequest :
    Json.ofText? (String.ofList flowRequest.compact) = some flowRequest := by
  have restored : ∀ n ∈ flowRequest.numbers, n.IsRestored := by decide +kernel
  rw [Json.ofText?, String.toList_ofList, Json.ofChars?_of_spells flowRequest.spells_compact,
    flowRequest.readBack_eq 0 rfl (by decide) restored]

/-- A flow is drawn as its network is. -/
theorem run_layout_synthesize_flowRequest :
    (run (.ofFolders []) ["synthesize"] (String.ofList flowRequest.compact).toUTF8
      fun _ => none).code = 0 ∧
    (run (.ofFolders []) ["layout", "--preset", "trip"] (String.ofList flowRequest.compact).toUTF8
      fun _ => none).code = 0 ∧
    run (.ofFolders []) ["layout", "--preset", "trip"]
        (run (.ofFolders []) ["synthesize"] (String.ofList flowRequest.compact).toUTF8
          fun _ => none).stdout.toUTF8 (fun _ => none) =
      run (.ofFolders []) ["layout", "--preset", "trip"]
        (String.ofList flowRequest.compact).toUTF8 (fun _ => none) := by
  have accepted : (run (.ofFolders []) ["synthesize"] (String.ofList flowRequest.compact).toUTF8
      fun _ => none).code = 0 := by
    decide +kernel
  refine ⟨accepted, by decide +kernel, ?_⟩
  apply run_layout_synthesize "trip" _ _ (decodeText_toUTF8 _) ofText?_flowRequest _ accepted
  · decide +kernel
  · decide +kernel
  · decide

end Command

end TransitDiagram
