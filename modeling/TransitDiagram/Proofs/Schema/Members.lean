import TransitDiagram.Proofs.Schema.RoundTrip

/-!
# Reading an object

An object is read field by field. What is found for a field depends on the values under its name
alone (`Schema.field?`), so neither the order of the members matters nor what stands under names
that no field has. A record is read through each of its fields: what it is depends on a member of
the name of a field as far as the schema of the field tells (`Fields.Has.readMembers`).
-/

namespace TransitDiagram

/-- A list in another order is the same list, or there are several items in both. -/
theorem eq_or_several_of_perm {α : Type} {as bs : List α} (same : as.Perm bs) :
    bs = as ∨ ∃ a b more a' b' more', as = a :: b :: more ∧ bs = a' :: b' :: more' := by
  rcases as with _ | ⟨a, _ | ⟨b, more⟩⟩
  · exact .inl same.nil_eq.symm
  · exact .inl same.singleton_eq.symm
  · rcases bs with _ | ⟨a', _ | ⟨b', more'⟩⟩
    · cases same.length_eq
    · cases same.length_eq
    · exact .inr ⟨a, b, more, a', b', more', rfl, rfl⟩

namespace Json

variable {name : String} {members members' before after : List (String × Json)} {v : Json}

theorem valuesOf_append : valuesOf name (members ++ members') =
    valuesOf name members ++ valuesOf name members' := by
  simp [valuesOf]

/-- In another order there are the same values under a name, or several in both. -/
theorem valuesOf_eq_or_several (same : members.Perm members') :
    valuesOf name members' = valuesOf name members ∨
      ∃ v w more v' w' more', valuesOf name members = v :: w :: more ∧
        valuesOf name members' = v' :: w' :: more' :=
  eq_or_several_of_perm ((same.filter _).map _)

theorem valuesOf_append_cons_of_ne {other : String} (differ : other ≠ name) :
    valuesOf name (before ++ (other, v) :: after) = valuesOf name (before ++ after) := by
  rw [valuesOf_append, valuesOf_cons_of_ne differ, valuesOf_append]

/-- The values under a name, when one of them stands between other members. -/
theorem valuesOf_append_cons_self : valuesOf name (before ++ (name, v) :: after) =
    valuesOf name before ++ v :: valuesOf name after := by
  rw [valuesOf_append, valuesOf_cons_self]

theorem itemsReadable_eq_all (items : List Json) : itemsReadable items = items.all isReadable := by
  induction items with
  | nil => rfl
  | cons item items ih => rw [itemsReadable, ih, List.all_cons]

theorem membersReadable_eq_all (members : List (String × Json)) :
    membersReadable members = members.all fun member => member.2.isReadable := by
  induction members with
  | nil => rfl
  | cons member members ih => rw [membersReadable, ih, List.all_cons]

theorem membersReadable_perm (same : members.Perm members') :
    membersReadable members = membersReadable members' := by
  rw [membersReadable_eq_all, membersReadable_eq_all, same.all_eq]

theorem itemsReadable_append_cons (before after : List Json) :
    itemsReadable (before ++ v :: after) = (v.isReadable && itemsReadable (before ++ after)) := by
  simp only [itemsReadable_eq_all, List.all_append, List.all_cons, Bool.and_left_comm]

theorem membersReadable_append_cons : membersReadable (before ++ (name, v) :: after) =
    (v.isReadable && membersReadable (before ++ after)) := by
  simp only [membersReadable_eq_all, List.all_append, List.all_cons, Bool.and_left_comm]

end Json

/-! ### Fields of an object -/

section Fields

variable {φ ρ τ : Type} (reading : Reading) (schema : Schema φ) (default : Option φ)
  (name : String) (members : List (String × Json))

/-- The value of a field, if it stands there once at most. -/
def Schema.field? : Option φ :=
  match Json.valuesOf name members with
  | [] => default
  | [v] => schema.read reading v
  | _ => none

theorem Fields.readMembers_cons (get : ρ → φ) (hidden : φ → Bool) (rest : Fields ρ τ) :
    (Fields.cons name get schema default hidden rest).readMembers reading members =
      (schema.field? reading default name members).bind fun value =>
        (rest.readMembers reading members).map (value, ·) := by
  rw [readMembers, Schema.field?]
  obtain _ | ⟨v, _ | ⟨other, more⟩⟩ := Json.valuesOf name members
  · cases rest.readMembers reading members <;> rfl
  · cases rest.readMembers reading members <;> rfl
  · rfl

theorem Fields.readMembers_nil :
    (Fields.nil : Fields ρ Unit).readMembers reading members = some () := by
  rw [readMembers]

variable {reading schema default name members}

theorem Schema.field?_of_valuesOf_eq_nil (absent : Json.valuesOf name members = []) :
    schema.field? reading default name members = default := by
  rw [field?, absent]

theorem Schema.field?_of_valuesOf_eq_singleton {v : Json}
    (present : Json.valuesOf name members = [v]) :
    schema.field? reading default name members = schema.read reading v := by
  rw [field?, present]

variable {members' before after : List (String × Json)} {v : Json}

theorem Schema.field?_congr (same : Json.valuesOf name members' = Json.valuesOf name members) :
    schema.field? reading default name members' = schema.field? reading default name members := by
  rw [field?, field?, same]

theorem Schema.field?_perm (same : members.Perm members') :
    schema.field? reading default name members' = schema.field? reading default name members := by
  rcases Json.valuesOf_eq_or_several same with values | ⟨_, _, _, _, _, _, several, several'⟩
  · rw [field?_congr values]
  · rw [field?, field?, several, several']

/-- A member of the name of a field is its value, unless there are others. -/
theorem Schema.field?_append_cons : schema.field? reading default name
    (before ++ (name, v) :: after) =
      if (Json.valuesOf name (before ++ after)).isEmpty then schema.read reading v else none := by
  rw [field?, Json.valuesOf_append_cons_self, Json.valuesOf_append]
  rcases Json.valuesOf name before with _ | ⟨x, _ | ⟨y, more⟩⟩ <;>
    rcases Json.valuesOf name after with _ | ⟨z, rest⟩ <;> rfl

end Fields

namespace Fields

variable {ρ τ : Type} {reading : Reading} {name : String} {v : Json}
  {members members' before after : List (String × Json)}

/-- A record is the same among members where the same is found for every field. -/
theorem readMembers_congr : ∀ {ρ τ : Type} (fields : Fields ρ τ),
    (∀ name ∈ fields.names, ∀ {φ : Type} (schema : Schema φ) (default : Option φ),
      schema.field? reading default name members' =
        schema.field? reading default name members) →
    fields.readMembers reading members' = fields.readMembers reading members
  | _, _, .nil, _ => by rw [readMembers_nil, readMembers_nil]
  | _, _, .cons name get schema default hidden rest, same => by
    rw [names, List.forall_mem_cons] at same
    rw [readMembers_cons, readMembers_cons, same.1, rest.readMembers_congr same.2]

/-- A member that no field is named after is passed over. -/
theorem readMembers_append_cons (fields : Fields ρ τ) (unknown : name ∉ fields.names) :
    fields.readMembers reading (before ++ (name, v) :: after) =
      fields.readMembers reading (before ++ after) := by
  refine fields.readMembers_congr fun field member _ schema default => Schema.field?_congr ?_
  exact Json.valuesOf_append_cons_of_ne fun same => unknown (same ▸ member)

/-- There is a field of this name and this schema. -/
inductive Has (name : String) {φ : Type} (schema : Schema φ) :
    {ρ τ : Type} → Fields ρ τ → Prop where
  | here {ρ τ : Type} (get : ρ → φ) (default : Option φ) (hidden : φ → Bool) (rest : Fields ρ τ) :
      Has name schema (.cons name get schema default hidden rest)
  | later {ρ ψ τ : Type} (other : String) (get : ρ → ψ) (schema' : Schema ψ) (default : Option ψ)
      (hidden : ψ → Bool) {rest : Fields ρ τ} (below : Has name schema rest) :
      Has name schema (.cons other get schema' default hidden rest)

namespace Has

variable {φ : Type} {schema : Schema φ} {fields : Fields ρ τ}

theorem mem_names (has : fields.Has name schema) : name ∈ fields.names := by
  induction has with
  | here => exact List.mem_cons_self
  | later other get schema' default hidden below ih => exact List.mem_cons_of_mem _ ih

theorem isLawful (has : fields.Has name schema) (lawful : fields.IsLawful) :
    schema.IsLawful := by
  induction has with
  | here =>
    rw [IsLawful] at lawful
    exact lawful.1
  | later other get schema' default hidden below ih =>
    rw [IsLawful] at lawful
    exact ih lawful.2.2

/-- A record is read through each of its fields. -/
theorem readMembers (has : fields.Has name schema) (distinct : fields.names.Nodup)
    (before after : List (String × Json)) : ∃ others : φ → Option τ, ∀ v,
      fields.readMembers reading (before ++ (name, v) :: after) =
        (schema.read reading v).bind others := by
  induction has with
  | here get default hidden rest =>
    rw [names, List.nodup_cons] at distinct
    -- Nothing is read if there is another member of this name, and no other field sees this one.
    refine ⟨fun value => if (Json.valuesOf name (before ++ after)).isEmpty then
      (rest.readMembers reading (before ++ after)).map (value, ·) else none, fun v => ?_⟩
    rw [readMembers_cons, rest.readMembers_append_cons distinct.1, Schema.field?_append_cons]
    split
    · rfl
    · exact (Option.bind_fun_none _).symm
  | later other get schema' default hidden below ih =>
    rw [names, List.nodup_cons] at distinct
    have differ : name ≠ other := fun same => distinct.1 (same ▸ below.mem_names)
    obtain ⟨others, reads⟩ := ih distinct.2
    refine ⟨fun value => (schema'.field? reading default other (before ++ after)).bind fun first =>
      (others value).map (first, ·), fun v => ?_⟩
    rw [readMembers_cons, reads, Schema.field?_congr (Json.valuesOf_append_cons_of_ne differ)]
    cases schema.read reading v <;>
      cases schema'.field? reading default other (before ++ after) <;> rfl

end Has

end Fields

namespace Variants

variable {α : Type} {reading : Reading} {kind name : String} {v : Json}
  {members members' before after : List (String × Json)}

/-- The kind that the members of an object name. -/
def tag? (reading : Reading) (variants : Variants α) (members : List (String × Json)) :
    Option String :=
  match Json.valuesOf "kind" members with
  | [tag] => variants.kind? reading tag
  | _ => none

end Variants

theorem Schema.read_record {ρ τ : Type} (reading : Reading) (fields : Fields ρ τ) (build : τ → ρ)
    (members : List (String × Json)) :
    (Schema.record fields build).read reading (.object members) =
      (fields.readMembers reading members).map build := by
  rw [read]

theorem Schema.read_union {α : Type} (reading : Reading) (variants : Variants α)
    (members : List (String × Json)) :
    (Schema.union variants).read reading (.object members) =
      (variants.tag? reading members).bind fun kind =>
        if Json.membersReadable members then variants.readMembers reading.ofPayload kind members
        else none := by
  rw [read, Variants.tag?]
  rcases Json.valuesOf "kind" members with _ | ⟨tag, _ | ⟨other, more⟩⟩ <;> rfl

theorem Schema.read_union_items {α : Type} (reading : Reading) (variants : Variants α) (tag : Json)
    (items : List Json) :
    (Schema.union variants).read reading (.array (tag :: items)) =
      (variants.kind? reading tag).bind fun kind =>
        if Json.itemsReadable items then variants.readItems reading.ofPayload kind items
        else none := by
  rw [read]
  rfl

namespace Variants

variable {α : Type} {reading : Reading} {kind name : String} {v : Json}
  {members members' before after : List (String × Json)}

theorem tag?_perm (variants : Variants α) (same : members.Perm members') :
    variants.tag? reading members' = variants.tag? reading members := by
  rw [tag?, tag?]
  rcases Json.valuesOf_eq_or_several same with values | ⟨_, _, _, _, _, _, several, several'⟩
  · rw [values]
  · rw [several, several']

theorem tag?_append_cons (variants : Variants α) (differ : name ≠ "kind") :
    variants.tag? reading (before ++ (name, v) :: after) =
      variants.tag? reading (before ++ after) := by
  rw [tag?, tag?, Json.valuesOf_append_cons_of_ne differ]

/-- The names of the fields of the variant of a kind. -/
def names : {α : Type} → Variants α → String → List String
  | _, .nil, _ => []
  | _, .cons name _ fields _ rest, kind => if kind = name then fields.names else rest.names kind

theorem readMembers_congr : ∀ {α : Type} (variants : Variants α),
    (∀ name ∈ variants.names kind, ∀ {φ : Type} (schema : Schema φ) (default : Option φ),
      schema.field? reading default name members' =
        schema.field? reading default name members) →
    variants.readMembers reading kind members' = variants.readMembers reading kind members
  | _, .nil, _ => by rw [readMembers, readMembers]
  | _, .cons other payload? fields build rest, same => by
    rw [names] at same
    rw [readMembers, readMembers]
    split
    case isTrue own =>
      rw [if_pos own] at same
      rw [fields.readMembers_congr same]
    case isFalse differ =>
      rw [if_neg differ] at same
      exact rest.readMembers_congr same

theorem readMembers_append_cons (variants : Variants α) (unknown : name ∉ variants.names kind) :
    variants.readMembers reading kind (before ++ (name, v) :: after) =
      variants.readMembers reading kind (before ++ after) := by
  refine variants.readMembers_congr fun field member _ schema default => Schema.field?_congr ?_
  exact Json.valuesOf_append_cons_of_ne fun same => unknown (same ▸ member)

/-- There is a variant of this kind with these fields. -/
inductive Has (kind : String) {π τ : Type} (fields : Fields π τ) :
    {α : Type} → Variants α → Prop where
  | here {α : Type} (payload? : α → Option π) (build : τ → α) (rest : Variants α) :
      Has kind fields (.cons kind payload? fields build rest)
  | later {α π' τ' : Type} (other : String) (payload? : α → Option π') (fields' : Fields π' τ')
      (build : τ' → α) {rest : Variants α} (below : Has kind fields rest) :
      Has kind fields (.cons other payload? fields' build rest)

namespace Has

variable {π τ : Type} {fields : Fields π τ} {variants : Variants α}

theorem mem_kinds (has : variants.Has kind fields) : kind ∈ variants.kinds := by
  induction has with
  | here => exact List.mem_cons_self
  | later other payload? fields' build below ih => exact List.mem_cons_of_mem _ ih

theorem isLawful (has : variants.Has kind fields) (lawful : variants.IsLawful) :
    fields.IsLawful ∧ ("kind" :: fields.names).Nodup := by
  induction has with
  | here =>
    rw [IsLawful] at lawful
    exact ⟨lawful.1, lawful.2.1⟩
  | later other payload? fields' build below ih =>
    rw [IsLawful] at lawful
    exact ih lawful.2.2.2

theorem readMembers (has : variants.Has kind fields) (distinct : variants.kinds.Nodup) :
    ∃ build : τ → α, ∀ members, variants.readMembers reading kind members =
      (fields.readMembers reading members).map build := by
  induction has with
  | here payload? build rest =>
    refine ⟨build, fun members => ?_⟩
    rw [Variants.readMembers, if_pos rfl]
  | later other payload? fields' build below ih =>
    rw [kinds, List.nodup_cons] at distinct
    have differ : kind ≠ other := fun same => distinct.1 (same ▸ below.mem_kinds)
    obtain ⟨build, reads⟩ := ih distinct.2
    refine ⟨build, fun members => ?_⟩
    rw [Variants.readMembers, if_neg differ, reads]

end Has

end Variants

end TransitDiagram
