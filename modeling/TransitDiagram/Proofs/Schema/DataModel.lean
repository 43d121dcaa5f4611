import TransitDiagram.Format.Chart
import TransitDiagram.Format.Diagram
import TransitDiagram.Format.Flow
import TransitDiagram.Proofs.Schema.RoundTrip

/-!
# The data are read back

Every schema of the formats is lawful, so `Schema.read_write` holds of all of them. Two numbers are
optional, the position of a node in time and the second load of a section. Any other number that is
not finite makes the value that holds it unreadable.
-/

namespace TransitDiagram

/-! ### How laws are put together -/

namespace Fields

variable {ρ φ τ : Type} {name : String} {rest : Fields ρ τ}

@[simp] theorem isLawful_nil : (nil : Fields ρ Unit).IsLawful := by
  simp only [IsLawful]

@[simp] theorem isLawful_required {get : ρ → φ} {schema : Schema φ} :
    (required name get schema rest).IsLawful ↔ schema.IsLawful ∧ rest.IsLawful := by
  simp [required, IsLawful]

@[simp] theorem isLawful_defaulted {get : ρ → φ} {schema : Schema φ} {default : φ} :
    (defaulted name get schema default rest).IsLawful ↔ schema.IsLawful ∧ rest.IsLawful := by
  simp [defaulted, IsLawful]

@[simp] theorem isLawful_optional {get : ρ → Option φ} {schema : Schema φ} :
    (optional name get schema rest).IsLawful ↔ schema.optional.IsLawful ∧ rest.IsLawful := by
  simp [optional, IsLawful, Schema.numbers]

end Fields

namespace Variants.IsLawful

theorem nil {α : Type} : (Variants.nil : Variants α).IsLawful := by
  rw [Variants.IsLawful]
  trivial

theorem cons {α π τ : Type} {kind : String} {payload? : α → Option π} {fields : Fields π τ}
    {build : τ → α} {rest : Variants α} (lawful : fields.IsLawful)
    (distinct : ("kind" :: fields.names).Nodup)
    (inverse : ∀ a p, payload? a = some p → build (fields.values p) = a) (below : rest.IsLawful) :
    (Variants.cons kind payload? fields build rest).IsLawful := by
  rw [Variants.IsLawful]
  exact ⟨lawful, distinct, inverse, below⟩

end Variants.IsLawful

namespace Schema

@[simp] theorem isLawful_number : number.IsLawful := by simp only [IsLawful]

@[simp] theorem isLawful_flag : flag.IsLawful := by simp only [IsLawful]

@[simp] theorem isLawful_whole : whole.IsLawful := by simp only [IsLawful]

@[simp] theorem isLawful_text : text.IsLawful := by simp only [IsLawful]

@[simp] theorem isLawful_list {α : Type} {item : Schema α} :
    item.list.IsLawful ↔ item.IsLawful := by
  rw [IsLawful]

@[simp] theorem isLawful_optional {α : Type} {value : Schema α} :
    value.optional.IsLawful ↔
      value.IsLawful ∧ (value.isNumber = true ∨ value.writesNull = false) := by
  rw [IsLawful]

theorem isLawful_union {α : Type} {variants : Variants α} (lawful : variants.IsLawful)
    (distinct : variants.kinds.Nodup) (exhaustive : ∀ a, (variants.kindOf? a).isSome) :
    (union variants).IsLawful := by
  rw [IsLawful]
  exact ⟨lawful, distinct, exhaustive⟩

theorem isLawful_record {ρ τ : Type} {fields : Fields ρ τ} {build : τ → ρ}
    (lawful : fields.IsLawful) (distinct : fields.names.Nodup)
    (built : ∀ r, build (fields.values r) = r) : (record fields build).IsLawful := by
  rw [IsLawful]
  exact ⟨lawful, distinct, built⟩

@[simp] theorem isLawful_natural : natural.IsLawful := by
  rw [natural, IsLawful]
  exact ⟨isLawful_whole, fun _ => by rw [numbers], fun _ => rfl⟩

@[simp] theorem isLawful_int64 : int64.IsLawful := by
  rw [int64, IsLawful]
  refine ⟨isLawful_whole, fun _ => by rw [numbers], fun n => ?_⟩
  rw [if_pos ⟨n.le_toInt, n.toInt_lt⟩, Int64.ofInt_toInt]

@[simp] theorem isLawful_int32 : int32.IsLawful := by
  rw [int32, IsLawful]
  refine ⟨isLawful_whole, fun _ => by rw [numbers], fun n => ?_⟩
  rw [if_pos ⟨n.le_toInt, n.toInt_lt⟩, Int32.ofInt_toInt]

@[simp] theorem writesNull_int64 : int64.writesNull = false := rfl

@[simp] theorem isLawful_uint32 : uint32.IsLawful := by
  rw [uint32, IsLawful]
  refine ⟨isLawful_whole, fun _ => by rw [numbers], fun n => ?_⟩
  have fits : (n.toNat : Int) < 4294967296 := mod_cast n.toNat_lt
  rw [if_pos ⟨Int.natCast_nonneg _, fits⟩]
  simp

end Schema

/-! ### The schemas of the formats -/

@[simp] theorem EntityKey.isLawful_schema : schema.IsLawful := by
  rw [schema, Schema.IsLawful]
  exact ⟨Schema.isLawful_text, fun _ => by rw [Schema.numbers], fun _ => rfl⟩

@[simp] theorem EntityKey.writesNull_schema : schema.writesNull = false := rfl

@[simp] theorem Sentinel.isLawful_schema : schema.IsLawful := by
  rw [schema, Schema.IsLawful]
  intro kind
  cases kind <;> rfl

@[simp] theorem Side.isLawful_schema : schema.IsLawful := by
  rw [schema, Schema.IsLawful]
  intro side
  cases side <;> rfl

@[simp] theorem NodeKey.isLawful_schema : schema.IsLawful := by
  refine Schema.isLawful_union (.cons (by simp) (by decide) ?_ <| .cons (by simp) (by decide) ?_
    .nil) (by decide) ?_
  · intro key entity given
    cases key <;> cases given
    rfl
  · intro key kind given
    cases key <;> cases given
    rfl
  · intro key
    cases key <;> rfl

@[simp] theorem Node.isLawful_schema : schema.IsLawful :=
  Schema.isLawful_record (by simp) (by decide) fun _ => rfl

@[simp] theorem Link.isLawful_schema : schema.IsLawful :=
  Schema.isLawful_record (by simp) (by decide) fun _ => rfl

@[simp] theorem TimeRange.isLawful_schema : schema.IsLawful :=
  Schema.isLawful_record (by simp) (by decide) fun _ => rfl

@[simp] theorem FlowEnd.isLawful_schema : schema.IsLawful :=
  Schema.isLawful_record (by simp) (by decide) fun _ => rfl

@[simp] theorem Flow.isLawful_schema : schema.IsLawful :=
  Schema.isLawful_record (by simp) (by decide) fun _ => rfl

@[simp] theorem Network.isLawful_schema : schema.IsLawful :=
  Schema.isLawful_record (by simp) (by decide) fun _ => rfl

@[simp] theorem ClockTime.isLawful_schema : schema.IsLawful :=
  Schema.isLawful_record (by simp) (by decide) fun _ => rfl

@[simp] theorem BarPart.isLawful_schema : schema.IsLawful :=
  Schema.isLawful_record (by simp) (by decide) fun _ => rfl

@[simp] theorem BarPart.writesNull_schema : schema.writesNull = false := rfl

@[simp] theorem LoadBar.isLawful_schema : schema.IsLawful :=
  Schema.isLawful_record (by simp) (by decide) fun _ => rfl

@[simp] theorem LoadBar.writesNull_schema : schema.writesNull = false := rfl

@[simp] theorem PlacedNode.isLawful_schema : schema.IsLawful :=
  Schema.isLawful_record (by simp [Schema.isNumber]) (by decide) fun _ => rfl

@[simp] theorem Ribbon.isLawful_schema : schema.IsLawful :=
  Schema.isLawful_record (by simp) (by decide) fun _ => rfl

@[simp] theorem LooseEnd.isLawful_schema : schema.IsLawful := by
  refine Schema.isLawful_union (.cons (by simp) (by decide) ?_ .nil) (by decide) fun _ => rfl
  intro looseEnd payload given
  cases given
  rfl

@[simp] theorem Diagram.isLawful_schema : schema.IsLawful :=
  Schema.isLawful_record (by simp [Fields.IsLawful, Schema.numbers]) (by decide) fun _ => rfl

@[simp] theorem Alignment.isLawful_schema : schema.IsLawful := by
  rw [schema, Schema.IsLawful]
  intro alignment
  cases alignment <;> rfl

@[simp] theorem TimeAxis.isLawful_schema : schema.IsLawful :=
  Schema.isLawful_record (by simp [fields]) (by decide) fun _ => rfl

@[simp] theorem Axis.isLawful_schema : schema.IsLawful := by
  refine Schema.isLawful_union (.cons (by simp) (by decide) ?_ <|
    .cons (by simp [TimeAxis.fields]) (by decide) ?_ .nil) (by decide) ?_
  · intro axis payload given
    cases axis <;> cases given
    rfl
  · intro axis payload given
    cases axis <;> cases given
    rfl
  · intro axis
    cases axis <;> rfl

@[simp] theorem Style.isLawful_schema : schema.IsLawful :=
  Schema.isLawful_record (by simp) (by decide) fun _ => rfl

@[simp] theorem TripSection.isLawful_schema : schema.IsLawful :=
  Schema.isLawful_record (by simp [Schema.isNumber]) (by decide) fun _ => rfl

@[simp] theorem DayChartStyle.isLawful_schema : schema.IsLawful :=
  Schema.isLawful_record (by simp) (by decide) fun _ => rfl

@[simp] theorem BarKind.isLawful_schema : schema.IsLawful := by
  rw [schema, Schema.IsLawful]
  intro kind
  cases kind <;> rfl

@[simp] theorem DayBar.isLawful_schema : schema.IsLawful :=
  Schema.isLawful_record (by simp) (by decide) fun _ => rfl

@[simp] theorem DayChart.isLawful_schema : schema.IsLawful :=
  Schema.isLawful_record (by simp) (by decide) fun _ => rfl

@[simp] theorem JourneyChartStyle.isLawful_schema : schema.IsLawful :=
  Schema.isLawful_record (by simp) (by decide) fun _ => rfl

@[simp] theorem JourneyBar.isLawful_schema : schema.IsLawful :=
  Schema.isLawful_record (by simp) (by decide) fun _ => rfl

@[simp] theorem JourneyChart.isLawful_schema : schema.IsLawful :=
  Schema.isLawful_record (by simp) (by decide) fun _ => rfl

/-! ### Optional numbers

A node has an optional position in time and a section an optional second load. No other number is
optional. -/

theorem Schema.pruned_optional_number (x : Option Float) :
    number.optional.pruned x = x.filter Float.isFinite := by
  cases x with
  | none => rfl
  | some x => simp [pruned, isNumber, numbers, HeldNumber.isFinite, Option.filter]

theorem NodeKey.pruned_schema (key : NodeKey) : schema.pruned key = key := by
  cases key <;> rfl

theorem LoadBar.pruned_schema (bar : LoadBar Float) : schema.pruned bar = bar := by
  obtain ⟨within, overflow, extent⟩ := bar
  cases overflow <;> rfl

theorem LoadBar.pruned_optional_schema (bar : Option (LoadBar Float)) :
    schema.optional.pruned bar = bar := by
  cases bar with
  | none => rfl
  | some bar => exact congrArg some (pruned_schema bar)

theorem PlacedNode.pruned_schema (node : PlacedNode Float) :
    schema.pruned node = { node with timeOffset := node.timeOffset.filter Float.isFinite } := by
  have fields : schema.pruned node =
      { node with
        key := NodeKey.schema.pruned node.key
        timeOffset := Schema.number.optional.pruned node.timeOffset
        overflow := LoadBar.schema.optional.pruned node.overflow } := rfl
  rw [fields, NodeKey.pruned_schema, Schema.pruned_optional_number, LoadBar.pruned_optional_schema]

theorem Ribbon.pruned_schema (ribbon : Ribbon Float) : schema.pruned ribbon = ribbon := by
  have fields : schema.pruned ribbon =
      { ribbon with
        source := NodeKey.schema.pruned ribbon.source
        target := NodeKey.schema.pruned ribbon.target } := rfl
  rw [fields, NodeKey.pruned_schema, NodeKey.pruned_schema]

theorem LooseEnd.pruned_schema (looseEnd : LooseEnd) : schema.pruned looseEnd = looseEnd := by
  have fields : schema.pruned looseEnd =
      { looseEnd with key := NodeKey.schema.pruned looseEnd.key } := rfl
  rw [fields, NodeKey.pruned_schema]

theorem Diagram.pruned_schema (diagram : Diagram Float) :
    schema.pruned diagram =
      { diagram with
        sources := diagram.sources.map PlacedNode.schema.pruned
        targets := diagram.targets.map PlacedNode.schema.pruned } := by
  have fields : schema.pruned diagram =
      { sources := diagram.sources.map PlacedNode.schema.pruned
        targets := diagram.targets.map PlacedNode.schema.pruned
        ribbons := diagram.ribbons.map Ribbon.schema.pruned
        totalExtent := diagram.totalExtent
        looseEnds := diagram.looseEnds.map LooseEnd.schema.pruned } := rfl
  rw [fields, funext Ribbon.pruned_schema, funext LooseEnd.pruned_schema, List.map_id',
    List.map_id']

theorem TripSection.pruned_schema (trip : TripSection Float) :
    schema.pruned trip = { trip with reference := trip.reference.filter Float.isFinite } := by
  have fields : schema.pruned trip =
      { trip with reference := Schema.number.optional.pruned trip.reference } := rfl
  rw [fields, Schema.pruned_optional_number]

/-! ### All of the data -/

/-- The schemas of what is written and read. -/
def dataModel : List (Sigma Schema) :=
  [⟨_, NodeKey.schema⟩, ⟨_, Node.schema⟩, ⟨_, Link.schema⟩, ⟨_, PlacedNode.schema⟩,
    ⟨_, Ribbon.schema⟩, ⟨_, LooseEnd.schema⟩, ⟨_, Diagram.schema⟩, ⟨_, Axis.schema⟩,
    ⟨_, Style.schema⟩, ⟨_, TimeRange.schema⟩, ⟨_, FlowEnd.schema⟩, ⟨_, Flow.schema⟩,
    ⟨_, Network.schema⟩, ⟨_, ClockTime.schema⟩, ⟨_, TripSection.schema⟩,
    ⟨_, DayChartStyle.schema⟩, ⟨_, DayChart.schema⟩, ⟨_, JourneyChartStyle.schema⟩,
    ⟨_, JourneyChart.schema⟩, ⟨_, LoadBar.schema⟩]

theorem isLawful_of_mem_dataModel : ∀ entry ∈ dataModel, entry.2.IsLawful := by
  simp [dataModel]

/-- What is written is read back as it was, if its numbers are finite. A number that is not finite
is written as null: if it is required nothing is read back, and if it is the position of a node in
time or the second load of a section it is absent from what is read back. -/
theorem Schema.read_write_dataModel (reading : Reading) :
    (∀ entry ∈ dataModel, ∀ value : entry.1,
      ((∀ n ∈ entry.2.numbers value, n.isFinite = true) →
        entry.2.read reading (entry.2.write value) = some value) ∧
      ((∃ n ∈ entry.2.numbers value, n.required = true ∧ n.isFinite = false) →
        entry.2.read reading (entry.2.write value) = none) ∧
      ((∀ n ∈ entry.2.numbers value, n.required = true → n.isFinite = true) →
        entry.2.read reading (entry.2.write value) = some (entry.2.pruned value))) ∧
    (∀ x : Float, x.isFinite = false → number.write x = .null) ∧
    (∀ node, PlacedNode.schema.pruned node =
      { node with timeOffset := node.timeOffset.filter Float.isFinite }) ∧
    (∀ trip, TripSection.schema.pruned trip =
      { trip with reference := trip.reference.filter Float.isFinite }) ∧
    (∀ diagram, Diagram.schema.pruned diagram =
      { diagram with
        sources := diagram.sources.map PlacedNode.schema.pruned
        targets := diagram.targets.map PlacedNode.schema.pruned }) := by
  refine ⟨fun entry listed value => ?_, fun x infinite => ?_, PlacedNode.pruned_schema,
    TripSection.pruned_schema, Diagram.pruned_schema⟩
  · have lawful := isLawful_of_mem_dataModel entry listed
    refine ⟨entry.2.read_write_of_areFinite reading lawful, ?_, ?_⟩ <;>
      rw [entry.2.read_write reading lawful]
    · rintro ⟨n, held, required, infinite⟩
      refine if_neg fun complete => ?_
      rw [HeldNumber.suffice_eq_true_iff.mp complete n held required] at infinite
      cases infinite
    · intro finite
      exact if_pos (HeldNumber.suffice_eq_true_iff.mpr finite)
  · rw [write, infinite]
    rfl

/-- A section across midnight with a second load. -/
def nightTrip (occupancy reference : Float) : TripSection Float :=
  ⟨⟨"a"⟩, ⟨23, 50⟩, ⟨0, 20⟩, occupancy, 20, some reference⟩

/-- A section is read back as it was, without its second load, or not at all. -/
theorem Schema.read_write_dataModel_nightTrip :
    TripSection.schema.read .strict (TripSection.schema.write (nightTrip 30 25)) =
      some (nightTrip 30 25) ∧
    TripSection.schema.read .strict (TripSection.schema.write (nightTrip 30 (1 / 0))) =
      some { nightTrip 30 (1 / 0) with reference := none } ∧
    TripSection.schema.read .strict (TripSection.schema.write (nightTrip (0 / 0) 25)) = none := by
  have listed : ⟨_, TripSection.schema⟩ ∈ dataModel := by simp [dataModel]
  have law := (read_write_dataModel .strict).1 _ listed
  have pruned : TripSection.schema.pruned (nightTrip 30 (1 / 0)) =
      { nightTrip 30 (1 / 0) with reference := none } := by
    rw [TripSection.pruned_schema]
    decide +kernel
  refine ⟨(law _).1 (by decide +kernel), ?_, (law _).2.1 (by decide +kernel)⟩
  rw [(law _).2.2 (by decide +kernel), pruned]

end TransitDiagram
