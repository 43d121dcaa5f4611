import TransitDiagram.Command.Request
import TransitDiagram.Json.Reader
import TransitDiagram.Proofs.Schema.DataModel
import TransitDiagram.Proofs.Schema.Members

/-!
# Rearranged objects

The members of an object can be put in another order, and an object can be given members that its
schema does not know (`Schema.Changes`). What is read stays the same (`Schema.read_of_changes`).
A record passes over a member that it does not know, whatever its value is. A union is taken in as
a whole, since its kind can be named anywhere in it, and so is everything that stands within it:
there a value that cannot be read makes the union unreadable.
-/

namespace TransitDiagram

/-! ### Another order -/

namespace Json

/-- The members of one object, wherever it stands, are put in another order. -/
inductive Reorders : Json → Json → Prop where
  | members {members members' : List (String × Json)} (same : members.Perm members') :
      Reorders (.object members) (.object members')
  | item (before after : List Json) {v v' : Json} (inner : Reorders v v') :
      Reorders (.array (before ++ v :: after)) (.array (before ++ v' :: after))
  | member (before after : List (String × Json)) (name : String) {v v' : Json}
      (inner : Reorders v v') :
      Reorders (.object (before ++ (name, v) :: after)) (.object (before ++ (name, v') :: after))

/-- Reading does not tell the members of one object from those of the other. -/
structure ReadAlike (members members' : List (String × Json)) : Prop where
  word? (reading : Reading) : (object members').word? reading = (object members).word? reading
  field? (reading : Reading) (name : String) {φ : Type} (schema : Schema φ) (default : Option φ) :
    schema.field? reading default name members' = schema.field? reading default name members
  tag? (reading : Reading) {α : Type} (variants : Variants α) :
    variants.tag? reading members' = variants.tag? reading members
  isReadable : membersReadable members' = membersReadable members

/-- An object of several members is no name. -/
theorem word?_of_several (reading : Reading) (first second : String × Json)
    (more : List (String × Json)) : (object (first :: second :: more)).word? reading = none := by
  rw [word?] <;> simp

theorem ReadAlike.of_perm {members members' : List (String × Json)}
    (same : members.Perm members') : ReadAlike members members' where
  word? reading := by
    rcases eq_or_several_of_perm same with rfl | ⟨_, _, _, _, _, _, rfl, rfl⟩
    · rfl
    · rw [word?_of_several, word?_of_several]
  field? _ _ _ _ _ := Schema.field?_perm same
  tag? _ _ variants := variants.tag?_perm same
  isReadable := (membersReadable_perm same).symm

namespace Reorders

variable {v v' : Json}

theorem ne_null (same : Reorders v v') : v ≠ .null ∧ v' ≠ .null := by
  cases same <;> exact ⟨nofun, nofun⟩

theorem isReadable_eq (same : Reorders v v') : v'.isReadable = v.isReadable := by
  induction same with
  | members same =>
    rw [isReadable, isReadable]
    exact (membersReadable_perm same).symm
  | item before after inner ih =>
    rw [isReadable, isReadable, itemsReadable_append_cons, itemsReadable_append_cons, ih]
  | member before after name inner ih =>
    rw [isReadable, isReadable, membersReadable_append_cons, membersReadable_append_cons, ih]

theorem kind?_eq (same : Reorders v v') (reading : Reading) {α : Type} (variants : Variants α) :
    variants.kind? reading v' = variants.kind? reading v := by
  cases same <;> rfl

/-- An object is empty in any order or in none. -/
theorem word?_eq (same : Reorders v v') (reading : Reading) (name : String) :
    (object [(name, v')]).word? reading = (object [(name, v)]).word? reading := by
  cases same with
  | item => rfl
  | @members members members' same =>
    rcases eq_or_several_of_perm same with rfl | ⟨_, _, _, _, _, _, rfl, rfl⟩ <;> rfl
  | member before => cases before <;> rfl

end Reorders

theorem ReadAlike.of_member {v v' : Json} (same : Reorders v v')
    (read : ∀ (reading : Reading) {α : Type} (schema : Schema α),
      schema.read reading v' = schema.read reading v)
    (before after : List (String × Json)) (name : String) :
    ReadAlike (before ++ (name, v) :: after) (before ++ (name, v') :: after) where
  word? reading := by
    rcases before with _ | ⟨first, _ | ⟨second, more⟩⟩
    · rcases after with _ | ⟨second, more⟩
      · exact same.word?_eq reading name
      · exact (word?_of_several ..).trans (word?_of_several ..).symm
    · exact (word?_of_several ..).trans (word?_of_several ..).symm
    · exact (word?_of_several ..).trans (word?_of_several ..).symm
  field? reading other φ schema default := by
    by_cases differ : name = other
    · subst differ
      rw [Schema.field?_append_cons, Schema.field?_append_cons, read]
    · refine Schema.field?_congr ?_
      rw [valuesOf_append_cons_of_ne differ, valuesOf_append_cons_of_ne differ]
  tag? reading α variants := by
    by_cases differ : name = "kind"
    · subst differ
      rw [Variants.tag?, Variants.tag?, valuesOf_append_cons_self, valuesOf_append_cons_self]
      rcases valuesOf "kind" before with _ | ⟨_, _ | _⟩ <;>
        rcases valuesOf "kind" after with _ | _ <;> first
        | exact same.kind?_eq reading variants
        | rfl
    · rw [variants.tag?_append_cons differ, variants.tag?_append_cons differ]
  isReadable := by
    rw [membersReadable_append_cons, membersReadable_append_cons, same.isReadable_eq]

end Json

theorem Schema.read_object_congr (reading : Reading) {members members' : List (String × Json)}
    (alike : Json.ReadAlike members members') : ∀ {α : Type} (schema : Schema α),
      schema.read reading (.object members') = schema.read reading (.object members)
  | _, .number => rfl
  | _, .flag => rfl
  | _, .whole => rfl
  | _, .text => rfl
  | _, .word values name => by rw [read, read, alike.word?]
  | _, .list item => rfl
  | _, .optional value => by
    rw [read_optional_of_ne_null reading value (nofun : Json.object members' ≠ .null),
      read_optional_of_ne_null reading value (nofun : Json.object members ≠ .null),
      read_object_congr reading alike value]
  | _, .record fields build => by
    rw [read_record, read_record, fields.readMembers_congr fun name _ _ schema default =>
      alike.field? reading name schema default]
  | _, .union variants => by
    rw [read_union, read_union, alike.tag?, alike.isReadable]
    refine congrArg _ (funext fun kind => ?_)
    rw [variants.readMembers_congr fun name _ _ schema default =>
      alike.field? _ name schema default]
  | _, .through base into out => by rw [read, read, read_object_congr reading alike base]

section Items

variable {v v' : Json} (read : ∀ (reading : Reading) {α : Type} (schema : Schema α),
  schema.read reading v' = schema.read reading v)
include read

theorem Fields.readItems_congr (reading : Reading) (after : List Json) :
    ∀ {ρ τ : Type} (fields : Fields ρ τ) (before : List Json),
      fields.readItems reading (before ++ v' :: after) =
        fields.readItems reading (before ++ v :: after)
  | _, _, .nil, [] => by rw [List.nil_append, List.nil_append, readItems, readItems]
  | _, _, .nil, _ :: _ => by rw [List.cons_append, List.cons_append, readItems, readItems]
  | _, _, .cons name get schema default hidden rest, [] => by
    rw [List.nil_append, List.nil_append, readItems, readItems, read]
  | _, _, .cons name get schema default hidden rest, w :: before => by
    rw [List.cons_append, List.cons_append, readItems, readItems,
      rest.readItems_congr reading after before]

theorem Variants.readItems_congr (reading : Reading) (kind : String) (before after : List Json) :
    ∀ {α : Type} (variants : Variants α),
      variants.readItems reading kind (before ++ v' :: after) =
        variants.readItems reading kind (before ++ v :: after)
  | _, .nil => by rw [readItems, readItems]
  | _, .cons name payload? fields build rest => by
    rw [readItems, readItems, fields.readItems_congr read,
      rest.readItems_congr reading kind before after]

theorem Schema.read_array_congr (same : Json.Reorders v v') (reading : Reading)
    (before after : List Json) : ∀ {α : Type} (schema : Schema α),
      schema.read reading (.array (before ++ v' :: after)) =
        schema.read reading (.array (before ++ v :: after))
  | _, .number => rfl
  | _, .flag => rfl
  | _, .whole => rfl
  | _, .text => rfl
  | _, .word values name => rfl
  | _, .list item => by
    rw [Schema.read, Schema.read]
    simp only [List.mapM_append, List.mapM_cons, read]
  | _, .optional value => by
    rw [read_optional_of_ne_null reading value (nofun : Json.array _ ≠ .null),
      read_optional_of_ne_null reading value (nofun : Json.array (before ++ v :: after) ≠ .null),
      read_array_congr same reading before after value]
  | _, .record fields build => by
    rw [Schema.read, Schema.read]
    exact congrArg _ (fields.readItems_congr read reading after before)
  | _, .union variants => by
    cases before with
    | nil =>
      rw [List.nil_append, List.nil_append, read_union_items, read_union_items, same.kind?_eq]
    | cons tag before =>
      rw [List.cons_append, List.cons_append, read_union_items, read_union_items,
        Json.itemsReadable_append_cons, Json.itemsReadable_append_cons, same.isReadable_eq]
      refine congrArg _ (funext fun kind => ?_)
      rw [variants.readItems_congr read]
  | _, .through base into out => by
    rw [Schema.read, Schema.read, read_array_congr same reading before after base]

end Items

/-- The order of members does not matter. -/
theorem Json.Reorders.read_eq {v v' : Json} (same : Reorders v v') :
    ∀ (reading : Reading) {α : Type} (schema : Schema α),
      schema.read reading v' = schema.read reading v := by
  -- What holds of a value under every schema holds of what it stands in, under every schema.
  induction same with
  | members same =>
    intro reading _ schema
    exact schema.read_object_congr reading (.of_perm same)
  | item before after inner ih =>
    intro reading _ schema
    exact schema.read_array_congr ih inner reading before after
  | member before after name inner ih =>
    intro reading _ schema
    exact schema.read_object_congr reading (.of_member inner ih before after name)

/-! ### Unknown members -/

namespace Schema

/-- One change of JSON for a value of a schema. The members of some object are put in another order,
or an object that stands for a record or for a value of a union is given a member that it has no
use for. What is inserted in a union, or within one, is fit. -/
inductive Changes (fit : Json → Prop) : Reading → {α : Type} → Schema α → Json → Json → Prop where
  | reorder {reading : Reading} {α : Type} {schema : Schema α} {v v' : Json}
      (same : v.Reorders v') : Changes fit reading schema v v'
  | insert {reading : Reading} {ρ τ : Type} {fields : Fields ρ τ} {build : τ → ρ} {name : String}
      {value : Json} (before after : List (String × Json)) (unknown : name ∉ fields.names)
      (fits : reading.insideUnion = true → fit value) :
      Changes fit reading (.record fields build) (.object (before ++ after))
        (.object (before ++ (name, value) :: after))
  | insertTagged {reading : Reading} {α : Type} {variants : Variants α} {name : String}
      {value : Json} (before after : List (String × Json)) (untagged : name ≠ "kind")
      (unknown : ∀ kind, variants.tag? reading (before ++ after) = some kind →
        name ∉ variants.names kind)
      (fits : fit value) :
      Changes fit reading (.union variants) (.object (before ++ after))
        (.object (before ++ (name, value) :: after))
  | item {reading : Reading} {α : Type} {schema : Schema α} {v v' : Json} (before after : List Json)
      (inner : Changes fit reading schema v v') :
      Changes fit reading (.list schema) (.array (before ++ v :: after))
        (.array (before ++ v' :: after))
  | optional {reading : Reading} {α : Type} {schema : Schema α} {v v' : Json}
      (inner : Changes fit reading schema v v') : Changes fit reading (.optional schema) v v'
  | through {reading : Reading} {α β : Type} {schema : Schema β} {into : β → Option α}
      {out : α → β} {v v' : Json} (inner : Changes fit reading schema v v') :
      Changes fit reading (.through schema into out) v v'
  | field {reading : Reading} {φ ρ τ : Type} {schema : Schema φ} {fields : Fields ρ τ}
      {build : τ → ρ} {name : String} {v v' : Json} (before after : List (String × Json))
      (has : fields.Has name schema) (inner : Changes fit reading schema v v') :
      Changes fit reading (.record fields build) (.object (before ++ (name, v) :: after))
        (.object (before ++ (name, v') :: after))
  | payload {reading : Reading} {φ π τ α : Type} {schema : Schema φ} {fields : Fields π τ}
      {variants : Variants α} {kind name : String} {v v' : Json}
      (before after : List (String × Json)) (has : variants.Has kind fields)
      (ofKind : ∀ other, variants.tag? reading (before ++ after) = some other → other = kind)
      (field : fields.Has name schema) (inner : Changes fit reading.ofPayload schema v v') :
      Changes fit reading (.union variants) (.object (before ++ (name, v) :: after))
        (.object (before ++ (name, v') :: after))

theorem Changes.ne_null {fit : Json → Prop} {reading : Reading} {α : Type} {schema : Schema α}
    {v v' : Json} (changes : schema.Changes fit reading v v') : v ≠ .null ∧ v' ≠ .null := by
  induction changes with
  | reorder same => exact same.ne_null
  | optional inner ih => exact ih
  | through inner ih => exact ih
  | _ => exact ⟨nofun, nofun⟩

end Schema

/-- What is read stays the same, unless it may get lost. -/
def IsKept (mayLose : Prop) {β : Type} (outcome outcome' : Option β) : Prop :=
  outcome' = outcome ∨ mayLose ∧ outcome' = none

namespace IsKept

variable {mayLose : Prop} {β γ : Type} {outcome outcome' : Option β}

theorem bind (kept : IsKept mayLose outcome outcome') (f : β → Option γ) :
    IsKept mayLose (outcome.bind f) (outcome'.bind f) := by
  rcases kept with rfl | ⟨loses, rfl⟩
  · exact .inl rfl
  · exact .inr ⟨loses, rfl⟩

theorem map (kept : IsKept mayLose outcome outcome') (f : β → γ) :
    IsKept mayLose (outcome.map f) (outcome'.map f) := by
  rcases kept with rfl | ⟨loses, rfl⟩
  · exact .inl rfl
  · exact .inr ⟨loses, rfl⟩

end IsKept

namespace Schema

/-- A change is withstood if what is read stays the same, unless it may get lost. Within a union
that depends also on whether all of the JSON can be read. -/
structure Withstands (mayLose : Prop) (reading : Reading) {α : Type} (schema : Schema α)
    (v v' : Json) : Prop where
  read : IsKept mayLose (schema.read reading v) (schema.read reading v')
  isReadable : reading.insideUnion = true →
    v'.isReadable = v.isReadable ∨ mayLose ∧ v'.isReadable = false

/-- A list is read through each of its items. -/
theorem read_list_item {α : Type} (reading : Reading) (item : Schema α) (before after : List Json) :
    ∃ others : α → Option (List α), ∀ v,
      item.list.read reading (.array (before ++ v :: after)) =
        (item.read reading v).bind others := by
  refine ⟨fun a => (before.mapM (item.read reading)).bind fun as =>
    (after.mapM (item.read reading)).map fun bs => as ++ a :: bs, fun v => ?_⟩
  rw [read, List.mapM_append, List.mapM_cons]
  cases before.mapM (item.read reading) <;> cases item.read reading v <;>
    cases after.mapM (item.read reading) <;> rfl

section Steps

variable {mayLose : Prop} {reading : Reading} {v v' : Json}

theorem isReadable_and (readable : v'.isReadable = v.isReadable ∨ mayLose ∧ v'.isReadable = false)
    (others : Bool) : (v'.isReadable && others) = (v.isReadable && others) ∨
      mayLose ∧ (v'.isReadable && others) = false := by
  rcases readable with same | ⟨loses, unreadable⟩
  · exact .inl (by rw [same])
  · exact .inr ⟨loses, by rw [unreadable, Bool.false_and]⟩

/-- A member that is inserted can be read, or the object cannot any more. -/
theorem isReadable_insert {fit : Json → Prop} {name : String} {value : Json} (fits : fit value)
    (before after : List (String × Json)) :
    (Json.object (before ++ (name, value) :: after)).isReadable =
        (Json.object (before ++ after)).isReadable ∨
      (∃ value, fit value ∧ value.isReadable = false) ∧
        (Json.object (before ++ (name, value) :: after)).isReadable = false := by
  rw [Json.isReadable, Json.isReadable, Json.membersReadable_append_cons]
  cases readable : value.isReadable
  · exact .inr ⟨⟨value, fits, readable⟩, Bool.false_and _⟩
  · exact .inl (Bool.true_and _)

theorem read_insertTagged {fit : Json → Prop} {α : Type} {variants : Variants α} {name : String}
    {value : Json} (before after : List (String × Json)) (untagged : name ≠ "kind")
    (unknown : ∀ kind, variants.tag? reading (before ++ after) = some kind →
      name ∉ variants.names kind) (fits : fit value) :
    IsKept (∃ value, fit value ∧ value.isReadable = false)
      ((union variants).read reading (.object (before ++ after)))
      ((union variants).read reading (.object (before ++ (name, value) :: after))) := by
  rw [read_union, read_union, variants.tag?_append_cons untagged, Json.membersReadable_append_cons]
  cases tagged : variants.tag? reading (before ++ after) with
  | none => exact .inl rfl
  | some kind =>
    rw [Option.bind_some, Option.bind_some, variants.readMembers_append_cons (unknown kind tagged)]
    cases readable : value.isReadable
    · exact .inr ⟨⟨value, fits, readable⟩, rfl⟩
    · exact .inl rfl

theorem read_payload {φ π τ α : Type} {schema : Schema φ} {fields : Fields π τ}
    {variants : Variants α} {kind name : String} (before after : List (String × Json))
    (distinct : variants.kinds.Nodup) (names : ("kind" :: fields.names).Nodup)
    (has : variants.Has kind fields)
    (ofKind : ∀ other, variants.tag? reading (before ++ after) = some other → other = kind)
    (field : fields.Has name schema) (inner : schema.Withstands mayLose reading.ofPayload v v') :
    IsKept mayLose ((union variants).read reading (.object (before ++ (name, v) :: after)))
      ((union variants).read reading (.object (before ++ (name, v') :: after))) := by
  obtain ⟨untagged, names⟩ := List.nodup_cons.mp names
  have differ : name ≠ "kind" := fun same => untagged (same ▸ field.mem_names)
  rw [read_union, read_union, variants.tag?_append_cons differ, variants.tag?_append_cons differ,
    Json.membersReadable_append_cons, Json.membersReadable_append_cons]
  cases tagged : variants.tag? reading (before ++ after) with
  | none => exact .inl rfl
  | some other =>
    obtain rfl := ofKind other tagged
    obtain ⟨build, reads⟩ := has.readMembers distinct
    obtain ⟨others, readsField⟩ := field.readMembers names before after
    rw [Option.bind_some, Option.bind_some, reads, reads, readsField, readsField]
    -- All members are taken in before the field is read, so it matters first whether they can be.
    rcases inner.isReadable rfl with same | ⟨loses, unreadable⟩
    · rw [same]
      split
      · exact (inner.read.bind others).map build
      · exact .inl rfl
    · rw [unreadable]
      exact .inr ⟨loses, rfl⟩

end Steps

variable {fit : Json → Prop} {reading : Reading} {α : Type} {schema : Schema α} {v v' : Json}

/-- A change is withstood. Something gets lost only if what is not readable is fit to be inserted
in a union. -/
theorem Changes.withstands (changes : schema.Changes fit reading v v') (lawful : schema.IsLawful) :
    schema.Withstands (∃ value, fit value ∧ value.isReadable = false) reading v v' := by
  -- On the place of the change, from the inside: whatever is read through a part is kept with it.
  induction changes with
  | reorder same => exact ⟨.inl (same.read_eq _ _), fun _ => .inl same.isReadable_eq⟩
  | @insert reading ρ τ fields build name value before after unknown fits =>
    refine ⟨.inl ?_, fun inside => isReadable_insert (fits inside) before after⟩
    rw [read_record, read_record, fields.readMembers_append_cons unknown]
  | insertTagged before after untagged unknown fits =>
    exact ⟨read_insertTagged before after untagged unknown fits,
      fun _ => isReadable_insert fits before after⟩
  | @item reading α schema v v' before after inner ih =>
    rw [IsLawful] at lawful
    obtain ⟨others, reads⟩ := schema.read_list_item reading before after
    refine ⟨?_, fun inside => ?_⟩
    · rw [reads, reads]
      exact (ih lawful).read.bind others
    · rw [Json.isReadable, Json.isReadable, Json.itemsReadable_append_cons,
        Json.itemsReadable_append_cons]
      exact isReadable_and ((ih lawful).isReadable inside) _
  | @optional reading α schema v v' inner ih =>
    rw [IsLawful] at lawful
    refine ⟨?_, (ih lawful.1).isReadable⟩
    rw [read_optional_of_ne_null reading schema inner.ne_null.1,
      read_optional_of_ne_null reading schema inner.ne_null.2]
    exact (ih lawful.1).read.map some
  | @through reading α β schema into out v v' inner ih =>
    rw [IsLawful] at lawful
    refine ⟨?_, (ih lawful.1).isReadable⟩
    rw [Schema.read, Schema.read]
    exact (ih lawful.1).read.bind into
  | @field reading φ ρ τ schema fields build name v v' before after has inner ih =>
    rw [IsLawful] at lawful
    have withstands := ih (has.isLawful lawful.1)
    obtain ⟨others, reads⟩ := has.readMembers lawful.2.1 before after
    refine ⟨?_, fun inside => ?_⟩
    · rw [read_record, read_record, reads, reads]
      exact (withstands.read.bind others).map build
    · rw [Json.isReadable, Json.isReadable, Json.membersReadable_append_cons,
        Json.membersReadable_append_cons]
      exact isReadable_and (withstands.isReadable inside) _
  | @payload reading φ π τ α schema fields variants kind name v v' before after has ofKind field
      inner ih =>
    rw [IsLawful] at lawful
    obtain ⟨lawfulFields, names⟩ := has.isLawful lawful.1
    have withstands := ih (field.isLawful lawfulFields)
    refine ⟨read_payload before after lawful.2.1 names has ofKind field withstands, fun _ => ?_⟩
    rw [Json.isReadable, Json.isReadable, Json.membersReadable_append_cons,
      Json.membersReadable_append_cons]
    exact isReadable_and (withstands.isReadable rfl) _

/-- Changes that insert readable values in unions, and any values in other records, make no
difference. -/
theorem read_of_changes (lawful : schema.IsLawful)
    (changes : Relation.ReflTransGen (schema.Changes (fun value => value.isReadable = true) reading)
      v v') : schema.read reading v' = schema.read reading v := by
  induction changes with
  | refl => rfl
  | tail _ step ih =>
    rcases (step.withstands lawful).read with same | ⟨⟨value, readable, unreadable⟩, -⟩
    · rw [same, ih]
    · rw [readable] at unreadable
      cases unreadable

/-- Whatever is inserted, a value that is still read is the same. -/
theorem read_of_changes_any (lawful : schema.IsLawful)
    (changes : Relation.ReflTransGen (schema.Changes (fun _ => True) reading) v v') :
    schema.read reading v' = schema.read reading v ∨ schema.read reading v' = none := by
  induction changes with
  | refl => exact .inl rfl
  | tail _ step ih =>
    rcases (step.withstands lawful).read with same | ⟨-, lost⟩
    · rw [same]
      exact ih
    · exact .inr lost

end Schema

/-! ### Everything that is read -/

@[simp] theorem TimeRange.writesNull_schema : schema.writesNull = false := rfl

@[simp] theorem Style.writesNull_schema : schema.writesNull = false := rfl

@[simp] theorem Schema.writesNull_list {α : Type} {item : Schema α} :
    item.list.writesNull = false := rfl

@[simp] theorem DiagramRequest.isLawful_schema : schema.IsLawful :=
  Schema.isLawful_record (by simp) (by decide) fun _ => rfl

@[simp] theorem NetworkRequest.isLawful_schema : schema.IsLawful :=
  Schema.isLawful_record (by simp) (by decide) fun _ => rfl

theorem ChartRequest.isLawful_schema {σ : Type} {style : Schema σ} (lawful : style.IsLawful)
    (standard : σ) : (schema style standard).IsLawful :=
  Schema.isLawful_record (by simpa using lawful) (by decide : ["sections", "config"].Nodup)
    fun _ => rfl

/-- The schemas of the parts of the data. -/
def dataParts : List (Sigma Schema) :=
  [⟨_, EntityKey.schema⟩, ⟨_, Sentinel.schema⟩, ⟨_, Side.schema⟩, ⟨_, Alignment.schema⟩,
    ⟨_, TimeAxis.schema⟩, ⟨_, BarPart.schema⟩, ⟨_, BarKind.schema⟩, ⟨_, DayBar.schema⟩,
    ⟨_, JourneyBar.schema⟩]

/-- The schemas of requests. -/
def requestModel : List (Sigma Schema) :=
  [⟨_, DiagramRequest.schema⟩, ⟨_, NetworkRequest.schema⟩,
    ⟨_, ChartRequest.schema DayChartStyle.schema .standard⟩,
    ⟨_, ChartRequest.schema JourneyChartStyle.schema .standard⟩]

theorem isLawful_of_isRead :
    ∀ entry ∈ dataModel ++ dataParts ++ requestModel, entry.2.IsLawful := by
  simp [dataModel, dataParts, requestModel, ChartRequest.isLawful_schema]

/-- The number `1e400` is beyond the largest double. -/
theorem Json.ofNumeral_large :
    ofNumeral ⟨false, ['1'], [], some ⟨false, ['4', '0', '0']⟩⟩ = .unreadable := by
  have tooLarge : (Numeral.number?
      ⟨false, ['1'], [], some ⟨false, ['4', '0', '0']⟩⟩).isNone = true := by decide +kernel
  rw [ofNumeral, Option.isNone_iff_eq_none.mp tooLarge]

end TransitDiagram
