import Mathlib
import TransitDiagram.Json.Schema

/-!
# Reading what was written

What a lawful schema writes, it reads back. Numbers that are not finite are the exception: JSON has
only null for them. Where such a number is required nothing is read back, and where it is optional
it is absent from then on (`Schema.read_write`).

The laws say of every part of a schema that reading is left inverse to writing there: fields have
names of their own, a record is built from the values of its fields, every value belongs to a
variant, and nothing but an absent value is written as null where null means absence.
-/

namespace TransitDiagram

/-! ### The numbers in a value -/

/-- A number in a value. One that is not required may be absent. -/
structure HeldNumber where
  value : Float
  required : Bool

namespace HeldNumber

def isFinite (n : HeldNumber) : Bool :=
  n.value.isFinite

def optional (n : HeldNumber) : HeldNumber :=
  { n with required := false }

end HeldNumber

def Schema.isNumber : {α : Type} → Schema α → Bool
  | _, .number => true
  | _, _ => false

mutual

/-- The numbers in a value, in the order in which they are written. -/
def Schema.numbers : {α : Type} → Schema α → α → List HeldNumber
  | _, .number, x => [⟨x, true⟩]
  | _, .flag, _ => []
  | _, .whole, _ => []
  | _, .text, _ => []
  | _, .word _ _, _ => []
  | _, .list item, as => as.flatMap item.numbers
  | _, .optional value, x =>
    let held := x.toList.flatMap value.numbers
    if value.isNumber then held.map HeldNumber.optional else held
  | _, .record fields _, r => fields.numbers r
  | _, .union variants, a => variants.numbers a
  | _, .through base _ out, a => base.numbers (out a)

def Fields.numbers : {ρ τ : Type} → Fields ρ τ → ρ → List HeldNumber
  | _, _, .nil, _ => []
  | _, _, .cons _ get schema _ _ rest, r => schema.numbers (get r) ++ rest.numbers r

def Variants.numbers : {α : Type} → Variants α → α → List HeldNumber
  | _, .nil, _ => []
  | _, .cons _ payload? fields _ rest, a =>
    match payload? a with
    | some p => fields.numbers p
    | none => rest.numbers a

end

mutual

/-- The value without its optional numbers that are not finite. -/
def Schema.pruned : {α : Type} → Schema α → α → α
  | _, .number, x => x
  | _, .flag, b => b
  | _, .whole, n => n
  | _, .text, s => s
  | _, .word _ _, a => a
  | _, .list item, as => as.map item.pruned
  | _, .optional value, x =>
    if value.isNumber then x.filter fun a => (value.numbers a).all HeldNumber.isFinite
    else x.map value.pruned
  | _, .record fields build, r => build (fields.pruned r)
  | _, .union variants, a => variants.pruned a
  | _, .through _ _ _, a => a

/-- The values of the fields of a record, without optional numbers that are not finite. -/
def Fields.pruned : {ρ τ : Type} → Fields ρ τ → ρ → τ
  | _, _, .nil, _ => ()
  | _, _, .cons _ get schema _ _ rest, r => (schema.pruned (get r), rest.pruned r)

def Variants.pruned : {α : Type} → Variants α → α → α
  | _, .nil, a => a
  | _, .cons _ payload? fields build rest, a =>
    match payload? a with
    | some p => build (fields.pruned p)
    | none => rest.pruned a

end

/-! ### Lawful schemas -/

def Fields.names : {ρ τ : Type} → Fields ρ τ → List String
  | _, _, .nil => []
  | _, _, .cons name _ _ _ _ rest => name :: rest.names

/-- The values of the fields of a record. -/
def Fields.values : {ρ τ : Type} → Fields ρ τ → ρ → τ
  | _, _, .nil, _ => ()
  | _, _, .cons _ get _ _ _ rest, r => (get r, rest.values r)

def Variants.kinds : {α : Type} → Variants α → List String
  | _, .nil => []
  | _, .cons kind _ _ _ rest => kind :: rest.kinds

/-- The name of the variant that a value belongs to. -/
def Variants.kindOf? : {α : Type} → Variants α → α → Option String
  | _, .nil, _ => none
  | _, .cons kind payload? _ _ rest, a =>
    match payload? a with
    | some _ => some kind
    | none => rest.kindOf? a

/-- Some value may be written as null. -/
def Schema.writesNull : {α : Type} → Schema α → Bool
  | _, .number => true
  | _, .optional _ => true
  | _, .through base _ _ => base.writesNull
  | _, _ => false

mutual

def Schema.IsLawful : {α : Type} → Schema α → Prop
  | _, .number => True
  | _, .flag => True
  | _, .whole => True
  | _, .text => True
  | α, .word values name => ∀ a : α, values.find? (fun b => name b = name a) = some a
  | _, .list item => item.IsLawful
  | _, .optional value => value.IsLawful ∧ (value.isNumber = true ∨ value.writesNull = false)
  | _, .record fields build =>
    fields.IsLawful ∧ fields.names.Nodup ∧ ∀ r, build (fields.values r) = r
  | _, .union variants =>
    variants.IsLawful ∧ variants.kinds.Nodup ∧ ∀ a, (variants.kindOf? a).isSome
  | _, .through base into out =>
    base.IsLawful ∧ (∀ a, base.numbers (out a) = []) ∧ ∀ a, into (out a) = some a

/-- What is hidden is what stands for an absent field, and it holds no number. -/
def Fields.IsLawful : {ρ τ : Type} → Fields ρ τ → Prop
  | _, _, .nil => True
  | _, _, .cons _ _ schema default hidden rest =>
    schema.IsLawful ∧ (∀ x, hidden x = true → default = some x ∧ schema.numbers x = []) ∧
      rest.IsLawful

def Variants.IsLawful : {α : Type} → Variants α → Prop
  | _, .nil => True
  | _, .cons _ payload? fields build rest =>
    fields.IsLawful ∧ ("kind" :: fields.names).Nodup ∧
      (∀ a p, payload? a = some p → build (fields.values p) = a) ∧ rest.IsLawful

end

/-! ### What is written -/

theorem Json.itemsReadable_map {α : Type} {f : α → Json} (readable : ∀ a, (f a).isReadable = true)
    (as : List α) : itemsReadable (as.map f) = true := by
  induction as with
  | nil => rfl
  | cons a as ih => rw [List.map_cons, itemsReadable, readable, ih, Bool.and_self]

mutual

theorem Schema.isReadable_write :
    ∀ {α : Type} (schema : Schema α) (a : α), (schema.write a).isReadable = true
  | _, .number, x => by
    rw [Schema.write]
    split <;> rfl
  | _, .flag, _ => by rw [Schema.write]; rfl
  | _, .whole, _ => by rw [Schema.write]; rfl
  | _, .text, _ => by rw [Schema.write]; rfl
  | _, .word _ _, _ => by rw [Schema.write]; rfl
  | _, .list item, as => by
    rw [Schema.write, Json.isReadable]
    exact Json.itemsReadable_map item.isReadable_write as
  | _, .optional _, none => by rw [Schema.write]; rfl
  | _, .optional value, some a => by
    rw [Schema.write]
    exact value.isReadable_write a
  | _, .record fields _, r => by
    rw [Schema.write, Json.isReadable]
    exact fields.membersReadable_write r
  | _, .union variants, a => by
    rw [Schema.write, Json.isReadable]
    exact variants.membersReadable_write a
  | _, .through base _ out, a => by
    rw [Schema.write]
    exact base.isReadable_write (out a)

theorem Fields.membersReadable_write :
    ∀ {ρ τ : Type} (fields : Fields ρ τ) (r : ρ), Json.membersReadable (fields.write r) = true
  | _, _, .nil, _ => by rw [Fields.write]; rfl
  | _, _, .cons name get schema default hidden rest, r => by
    rw [Fields.write]
    split
    · exact rest.membersReadable_write r
    · rw [Json.membersReadable, schema.isReadable_write, rest.membersReadable_write, Bool.and_self]

theorem Variants.membersReadable_write :
    ∀ {α : Type} (variants : Variants α) (a : α),
      Json.membersReadable (variants.write a) = true
  | _, .nil, _ => by rw [Variants.write]; rfl
  | _, .cons kind payload? fields build rest, a => by
    rw [Variants.write]
    split
    · rw [Json.membersReadable, fields.membersReadable_write]
      rfl
    · exact rest.membersReadable_write a

end

theorem Schema.write_ne_null :
    ∀ {α : Type} (schema : Schema α), schema.writesNull = false → ∀ a, schema.write a ≠ .null
  | _, .number, never, _ => by simp [writesNull] at never
  | _, .flag, _, _ => by simp [write]
  | _, .whole, _, _ => by simp [write]
  | _, .text, _, _ => by simp [write]
  | _, .word _ _, _, _ => by simp [write]
  | _, .list _, _, _ => by simp [write]
  | _, .optional _, never, _ => by simp [writesNull] at never
  | _, .record _ _, _, _ => by simp [write]
  | _, .union _, _, _ => by simp [write]
  | _, .through base _ out, never, a => by
    rw [writesNull] at never
    rw [write]
    exact base.write_ne_null never (out a)

namespace Json

theorem valuesOf_cons_self (name : String) (value : Json) (members : List (String × Json)) :
    valuesOf name ((name, value) :: members) = value :: valuesOf name members := by
  simp [valuesOf]

theorem valuesOf_cons_of_ne {name other : String} (differ : other ≠ name) (value : Json)
    (members : List (String × Json)) :
    valuesOf name ((other, value) :: members) = valuesOf name members := by
  simp [valuesOf, differ]

end Json

/-- Nothing is written under a name that no field has. -/
theorem Fields.valuesOf_write_eq_nil {name : String} :
    ∀ {ρ τ : Type} (fields : Fields ρ τ) (r : ρ), name ∉ fields.names →
      Json.valuesOf name (fields.write r) = []
  | _, _, .nil, _, _ => by rw [write]; rfl
  | _, _, .cons other get schema default hidden rest, r, absent => by
    rw [names, List.mem_cons, not_or] at absent
    have below := rest.valuesOf_write_eq_nil r absent.2
    rw [write]
    split
    · exact below
    · rw [Json.valuesOf_cons_of_ne (Ne.symm absent.1), below]

/-! ### What is read back -/

/-- Every required number can be written. -/
def HeldNumber.suffice (ns : List HeldNumber) : Bool :=
  ns.all fun n => !n.required || n.isFinite

namespace HeldNumber

theorem suffice_append (ms ns : List HeldNumber) :
    suffice (ms ++ ns) = (suffice ms && suffice ns) :=
  List.all_append

theorem suffice_eq_true_iff {ns : List HeldNumber} :
    suffice ns = true ↔ ∀ n ∈ ns, n.required = true → n.isFinite = true := by
  simp only [suffice, List.all_eq_true, Bool.or_eq_true, Bool.not_eq_true', ← Bool.not_eq_true,
    imp_iff_not_or]

end HeldNumber

/-- Everything in the list is finite. -/
def HeldNumber.AreFinite (ns : List HeldNumber) : Prop :=
  ∀ n ∈ ns, n.isFinite = true

instance (ns : List HeldNumber) : Decidable (HeldNumber.AreFinite ns) :=
  inferInstanceAs (Decidable (∀ n ∈ ns, n.isFinite = true))

namespace HeldNumber

variable {ms ns : List HeldNumber}

theorem areFinite_append_iff : AreFinite (ms ++ ns) ↔ AreFinite ms ∧ AreFinite ns :=
  List.forall_mem_append

theorem AreFinite.suffice (finite : AreFinite ns) : suffice ns = true :=
  suffice_eq_true_iff.mpr fun n member _ => finite n member

theorem areFinite_map_optional_iff : AreFinite (ns.map optional) ↔ AreFinite ns :=
  List.forall_mem_map

/-- Optional numbers are never missed. -/
theorem suffice_map_optional (ns : List HeldNumber) :
    HeldNumber.suffice (ns.map optional) = true := by
  rw [suffice_eq_true_iff, List.forall_mem_map]
  intro n _ required
  cases required

end HeldNumber

/-- An optional value holds finite numbers if the value does. -/
theorem Schema.areFinite_numbers_some {α : Type} {value : Schema α} {a : α}
    (finite : HeldNumber.AreFinite (value.optional.numbers (some a))) :
    HeldNumber.AreFinite (value.numbers a) := by
  rw [numbers, Option.toList_some, List.flatMap_singleton] at finite
  split at finite
  · exact HeldNumber.areFinite_map_optional_iff.mp finite
  · exact finite

mutual

theorem Schema.pruned_eq :
    ∀ {α : Type} (schema : Schema α), schema.IsLawful → ∀ a,
      HeldNumber.AreFinite (schema.numbers a) → schema.pruned a = a
  | _, .number, _, _, _ => by rw [Schema.pruned]
  | _, .flag, _, _, _ => by rw [Schema.pruned]
  | _, .whole, _, _, _ => by rw [Schema.pruned]
  | _, .text, _, _, _ => by rw [Schema.pruned]
  | _, .word _ _, _, _, _ => by rw [Schema.pruned]
  | _, .list item, lawful, as, finite => by
    rw [Schema.IsLawful] at lawful
    rw [Schema.numbers] at finite
    rw [Schema.pruned]
    refine (List.map_congr_left fun a member => ?_).trans (List.map_id as)
    exact item.pruned_eq lawful a fun n held => finite n (List.mem_flatMap.mpr ⟨a, member, held⟩)
  | _, .optional value, lawful, none, finite => by
    rw [Schema.pruned]
    split <;> rfl
  | _, .optional value, lawful, some a, finite => by
    rw [Schema.IsLawful] at lawful
    have held := Schema.areFinite_numbers_some finite
    rw [Schema.pruned]
    split
    · exact Option.filter_some_pos (List.all_eq_true.mpr held)
    · rw [Option.map_some, value.pruned_eq lawful.1 a held]
  | _, .record fields build, lawful, r, finite => by
    rw [Schema.IsLawful] at lawful
    rw [Schema.numbers] at finite
    rw [Schema.pruned, fields.pruned_eq lawful.1 r finite, lawful.2.2]
  | _, .union variants, lawful, a, finite => by
    rw [Schema.IsLawful] at lawful
    rw [Schema.numbers] at finite
    rw [Schema.pruned, variants.pruned_eq lawful.1 a finite]
  | _, .through _ _ _, _, _, _ => by rw [Schema.pruned]

theorem Fields.pruned_eq :
    ∀ {ρ τ : Type} (fields : Fields ρ τ), fields.IsLawful → ∀ r,
      HeldNumber.AreFinite (fields.numbers r) → fields.pruned r = fields.values r
  | _, _, .nil, _, _, _ => by rw [Fields.pruned, Fields.values]
  | _, _, .cons name get schema default hidden rest, lawful, r, finite => by
    rw [Fields.IsLawful] at lawful
    rw [Fields.numbers, HeldNumber.areFinite_append_iff] at finite
    rw [Fields.pruned, Fields.values, schema.pruned_eq lawful.1 _ finite.1,
      rest.pruned_eq lawful.2.2 r finite.2]

theorem Variants.pruned_eq :
    ∀ {α : Type} (variants : Variants α), variants.IsLawful → ∀ a,
      HeldNumber.AreFinite (variants.numbers a) → variants.pruned a = a
  | _, .nil, _, _, _ => by rw [Variants.pruned]
  | _, .cons kind payload? fields build rest, lawful, a, finite => by
    rw [Variants.IsLawful] at lawful
    obtain ⟨lawful, -, inverse, below⟩ := lawful
    rw [Variants.numbers] at finite
    rw [Variants.pruned]
    cases belongs : payload? a with
    | some p =>
      rw [belongs] at finite
      simp only
      rw [fields.pruned_eq lawful p finite, inverse a p belongs]
    | none =>
      rw [belongs] at finite
      exact rest.pruned_eq below a finite

end

/-- A list is read back item by item. -/
theorem mapM_read_map_write {α : Type} {read : Json → Option α} {write : α → Json}
    {numbers : α → List HeldNumber} {pruned : α → α}
    (item : ∀ a, read (write a) = if HeldNumber.suffice (numbers a) then some (pruned a) else none)
    (as : List α) :
    (as.map write).mapM read =
      if HeldNumber.suffice (as.flatMap numbers) then some (as.map pruned) else none := by
  induction as with
  | nil => rfl
  | cons a as ih =>
    rw [List.map_cons, List.mapM_cons, item, ih, List.flatMap_cons, HeldNumber.suffice_append]
    cases HeldNumber.suffice (numbers a) <;>
      cases HeldNumber.suffice (as.flatMap numbers) <;> rfl

theorem Schema.isNumber_eq_false {α : Type} (schema : Schema α)
    (never : schema.writesNull = false) : schema.isNumber = false := by
  cases schema
  case number => cases never
  all_goals rfl

/-! Absent values are written as null, and a number that is not finite is read back as one. -/

theorem Schema.read_optional_of_ne_null {α : Type} (reading : Reading) (value : Schema α) {v : Json}
    (present : v ≠ .null) : value.optional.read reading v = (value.read reading v).map some := by
  rw [read]
  exact present

theorem Schema.read_optional_number {α : Type} (reading : Reading) {value : Schema α}
    (isNumber : value.isNumber = true) (a : α) :
    value.optional.read reading (value.write a) =
      some ((some a).filter fun a => (value.numbers a).all HeldNumber.isFinite) := by
  cases value
  case number =>
    rw [write]
    cases finite : a.isFinite <;>
      simp [read, Json.number?, numbers, HeldNumber.isFinite, finite, Option.filter]
  all_goals cases isNumber

/-! The variant of a value is found by its name. -/

theorem Variants.mem_kinds_of_kindOf? {kind : String} :
    ∀ {α : Type} (variants : Variants α) {a : α}, variants.kindOf? a = some kind →
      kind ∈ variants.kinds
  | _, .nil, _, belongs => by cases belongs
  | _, .cons name payload? fields build rest, a, belongs => by
    rw [kindOf?] at belongs
    rw [kinds, List.mem_cons]
    split at belongs
    · exact .inl (Option.some.inj belongs).symm
    · exact .inr (rest.mem_kinds_of_kindOf? belongs)

theorem Variants.valuesOf_kind_write {kind : String} :
    ∀ {α : Type} (variants : Variants α), variants.IsLawful → ∀ {a : α},
      variants.kindOf? a = some kind → Json.valuesOf "kind" (variants.write a) = [.text kind]
  | _, .nil, _, _, belongs => by cases belongs
  | _, .cons name payload? fields build rest, lawful, a, belongs => by
    rw [IsLawful] at lawful
    obtain ⟨-, distinct, -, below⟩ := lawful
    rw [kindOf?] at belongs
    rw [write]
    cases payload : payload? a with
    | some p =>
      rw [payload] at belongs
      obtain rfl := Option.some.inj belongs
      rw [Json.valuesOf_cons_self, fields.valuesOf_write_eq_nil p (List.nodup_cons.mp distinct).1]
    | none =>
      rw [payload] at belongs
      exact rest.valuesOf_kind_write below belongs

theorem Schema.read_union_object {α : Type} (reading : Reading) (variants : Variants α)
    {members : List (String × Json)} {kind : String}
    (tagged : Json.valuesOf "kind" members = [.text kind])
    (readable : Json.membersReadable members = true) :
    (Schema.union variants).read reading (.object members) =
      variants.readMembers reading.ofPayload kind members := by
  simp only [read, tagged]
  exact if_pos readable

mutual

theorem Schema.read_write (reading : Reading) :
    ∀ {α : Type} (schema : Schema α), schema.IsLawful → ∀ a,
      schema.read reading (schema.write a) =
        if HeldNumber.suffice (schema.numbers a) then some (schema.pruned a) else none
  | _, .number, _, x => by
    rw [Schema.write, Schema.numbers, Schema.pruned]
    cases finite : x.isFinite <;>
      simp [Schema.read, Json.number?, HeldNumber.suffice, HeldNumber.isFinite, finite]
  | _, .flag, _, _ => by rw [Schema.write, Schema.read, Schema.numbers, Schema.pruned]; rfl
  | _, .whole, _, _ => by rw [Schema.write, Schema.read, Schema.numbers, Schema.pruned]; rfl
  | _, .text, _, _ => by rw [Schema.write, Schema.read, Schema.numbers, Schema.pruned]; rfl
  | _, .word values name, lawful, a => by
    rw [Schema.IsLawful] at lawful
    rw [Schema.write, Schema.read, Schema.numbers, Schema.pruned]
    exact lawful a
  | _, .list item, lawful, as => by
    rw [Schema.IsLawful] at lawful
    rw [Schema.write, Schema.read, Schema.numbers, Schema.pruned]
    exact mapM_read_map_write (item.read_write reading lawful) as
  | _, .optional value, lawful, none => by
    rw [Schema.write, Schema.read, Schema.numbers, Schema.pruned]
    cases value.isNumber <;> rfl
  | _, .optional value, lawful, some a => by
    rw [Schema.IsLawful] at lawful
    obtain ⟨lawful, isNumber | neverNull⟩ := lawful
    · rw [Schema.write, Schema.read_optional_number reading isNumber, Schema.numbers, Schema.pruned,
        if_pos isNumber, if_pos isNumber, HeldNumber.suffice_map_optional]
      rfl
    · have present := value.write_ne_null neverNull a
      rw [Schema.write, Schema.read_optional_of_ne_null reading value present,
        value.read_write reading lawful, Schema.numbers, Schema.pruned,
        value.isNumber_eq_false neverNull, Option.toList_some, List.flatMap_singleton,
        Option.map_some]
      cases held : HeldNumber.suffice (value.numbers a) <;> simp [held]
  | _, .record fields build, lawful, r => by
    rw [Schema.IsLawful] at lawful
    rw [Schema.write, Schema.read, Schema.numbers, Schema.pruned]
    show (fields.readMembers reading (fields.write r)).map build = _
    rw [fields.readMembers_write reading lawful.1 lawful.2.1 r _ fun _ _ => rfl]
    split <;> rfl
  | _, .union variants, lawful, a => by
    rw [Schema.IsLawful] at lawful
    obtain ⟨lawful, distinct, exhaustive⟩ := lawful
    obtain ⟨kind, belongs⟩ := Option.isSome_iff_exists.mp (exhaustive a)
    rw [Schema.write, Schema.read_union_object reading variants
      (variants.valuesOf_kind_write lawful belongs) (variants.membersReadable_write a),
      Schema.numbers, Schema.pruned]
    exact variants.readMembers_write _ lawful distinct a belongs
  | _, .through base into out, lawful, a => by
    rw [Schema.IsLawful] at lawful
    obtain ⟨lawful, numberless, inverse⟩ := lawful
    have finite : HeldNumber.AreFinite (base.numbers (out a)) := by
      rw [numberless]
      exact List.forall_mem_nil _
    rw [Schema.write, Schema.read, Schema.numbers, Schema.pruned, base.read_write reading lawful,
      base.pruned_eq lawful _ finite, if_pos finite.suffice, if_pos finite.suffice,
      Option.bind_some, inverse]

theorem Fields.readMembers_write (reading : Reading) :
    ∀ {ρ τ : Type} (fields : Fields ρ τ), fields.IsLawful → fields.names.Nodup → ∀ r members,
      (∀ name ∈ fields.names, Json.valuesOf name members = Json.valuesOf name (fields.write r)) →
      fields.readMembers reading members =
        if HeldNumber.suffice (fields.numbers r) then some (fields.pruned r) else none
  | _, _, .nil, _, _, _, _, _ => by rw [Fields.readMembers]; rfl
  | _, _, .cons name get schema default hidden rest, lawful, distinct, r, members,
      same => by
    rw [Fields.IsLawful] at lawful
    obtain ⟨lawful, absent, below⟩ := lawful
    rw [Fields.names, List.nodup_cons] at distinct
    obtain ⟨own, distinct⟩ := distinct
    rw [Fields.names, List.forall_mem_cons] at same
    obtain ⟨here, same⟩ := same
    -- The members of the other fields are not affected by what this field writes.
    have others := rest.readMembers_write reading below distinct r members fun other member => by
      have differ : name ≠ other := fun eq => own (eq ▸ member)
      rw [same other member, Fields.write]
      split
      · rfl
      · exact Json.valuesOf_cons_of_ne differ _ _
    have none := rest.valuesOf_write_eq_nil r own
    rw [Fields.readMembers, others, here, Fields.write, Fields.numbers, Fields.pruned]
    cases hides : hidden (get r) with
    | false =>
      rw [if_neg Bool.false_ne_true, Json.valuesOf_cons_self, none]
      show ((schema.read reading (schema.write (get r))).bind _) = _
      rw [schema.read_write reading lawful, HeldNumber.suffice_append]
      cases HeldNumber.suffice (schema.numbers (get r)) <;>
        cases HeldNumber.suffice (rest.numbers r) <;> rfl
    | true =>
      obtain ⟨standard, numberless⟩ := absent (get r) hides
      have nothing : HeldNumber.AreFinite (schema.numbers (get r)) := by
        rw [numberless]
        exact List.forall_mem_nil _
      rw [if_pos rfl, none, numberless, List.nil_append, schema.pruned_eq lawful _ nothing]
      show (default.bind _) = _
      rw [standard]
      cases HeldNumber.suffice (rest.numbers r) <;> rfl

theorem Variants.readMembers_write (reading : Reading) {kind : String} :
    ∀ {α : Type} (variants : Variants α), variants.IsLawful → variants.kinds.Nodup → ∀ (a : α),
      variants.kindOf? a = some kind →
      variants.readMembers reading kind (variants.write a) =
        if HeldNumber.suffice (variants.numbers a) then some (variants.pruned a) else none
  | _, .nil, _, _, _, belongs => by cases belongs
  | _, .cons name payload? fields build rest, lawful, distinct, a, belongs => by
    rw [Variants.IsLawful] at lawful
    obtain ⟨lawful, named, -, below⟩ := lawful
    rw [Variants.kinds, List.nodup_cons] at distinct
    rw [Variants.kindOf?] at belongs
    rw [Variants.readMembers, Variants.write, Variants.numbers, Variants.pruned]
    cases payload : payload? a with
    | some p =>
      rw [payload] at belongs
      obtain rfl := Option.some.inj belongs
      obtain ⟨untagged, distinct⟩ := List.nodup_cons.mp named
      have untouched : ∀ field ∈ fields.names,
          Json.valuesOf field (("kind", .text name) :: fields.write p) =
            Json.valuesOf field (fields.write p) := by
        intro field member
        have differ : "kind" ≠ field := fun eq => untagged (eq ▸ member)
        exact Json.valuesOf_cons_of_ne differ _ _
      rw [if_pos rfl, fields.readMembers_write reading lawful distinct p _ untouched]
      cases HeldNumber.suffice (fields.numbers p) <;> rfl
    | none =>
      rw [payload] at belongs
      have other : kind ≠ name := fun eq =>
        distinct.1 (eq ▸ rest.mem_kinds_of_kindOf? belongs)
      rw [if_neg other]
      exact rest.readMembers_write reading below distinct.2 a belongs

end

/-- A value whose numbers are finite is read back as it was. -/
theorem Schema.read_write_of_areFinite (reading : Reading) {α : Type} (schema : Schema α)
    (lawful : schema.IsLawful) {a : α} (finite : HeldNumber.AreFinite (schema.numbers a)) :
    schema.read reading (schema.write a) = some a := by
  rw [schema.read_write reading lawful, if_pos finite.suffice, schema.pruned_eq lawful a finite]

end TransitDiagram
