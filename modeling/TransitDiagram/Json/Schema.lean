import TransitDiagram.Json.Basic

/-!
# Schemas

A schema says how the values of a type stand in JSON. It is read in two directions: `Schema.write`
gives the JSON of a value and `Schema.read` takes a value from JSON.

A record is an object of its fields, or an array of them in their order. In an object the order of
the members does not matter and members without a meaning are passed over, but a field must not
occur twice. A union is a record with a member `kind` that names the variant. A plain name is a
string.
-/

namespace TransitDiagram

mutual

/-- How values of a type stand in JSON. -/
inductive Schema : Type → Type 1 where
  | number : Schema Float
  | flag : Schema Bool
  | whole : Schema Int
  | text : Schema String
  /-- One of some values, by its name. -/
  | word {α : Type} (values : List α) (name : α → String) : Schema α
  | list {α : Type} (item : Schema α) : Schema (List α)
  /-- A value or null. -/
  | optional {α : Type} (value : Schema α) : Schema (Option α)
  | record {ρ τ : Type} (fields : Fields ρ τ) (build : τ → ρ) : Schema ρ
  | union {α : Type} (variants : Variants α) : Schema α
  /-- Values that stand for values of another type. -/
  | through {α β : Type} (base : Schema β) (into : β → Option α) (out : α → β) : Schema α

/-- The fields of records of type `ρ`, whose values make up a tuple of type `τ`. -/
inductive Fields : Type → Type → Type 1 where
  | nil {ρ : Type} : Fields ρ Unit
  /-- A field has a name and a schema. If it is absent its value is `default`, if there is one. It
  is not written when `hidden` holds of it. -/
  | cons {ρ φ τ : Type} (name : String) (get : ρ → φ) (schema : Schema φ)
      (default : Option φ) (hidden : φ → Bool) (rest : Fields ρ τ) : Fields ρ (φ × τ)

inductive Variants : Type → Type 1 where
  | nil {α : Type} : Variants α
  /-- A variant has a name and the fields of its payload. -/
  | cons {α π τ : Type} (kind : String) (payload? : α → Option π) (fields : Fields π τ)
      (build : τ → α) (rest : Variants α) : Variants α

end

/-- What is accepted in reading. -/
structure Reading where
  /-- The words `NaN`, `inf` and `-inf` stand for the numbers that JSON cannot write. They are for
  tests of the library: the command does not accept them. -/
  numberWords : Bool
  /-- The value stands inside a union, where a variant may also be given by its number, and an
  empty object does as well as null beside a plain name. -/
  insideUnion : Bool

namespace Reading

/-- How the command reads. -/
def strict : Reading := ⟨false, false⟩

/-- JSON with words for the numbers that it cannot write, as tests of the library are given. The
command always reads `strict`. -/
def withNumberWords : Reading := ⟨true, false⟩

/-- How the payload of a union is read. -/
def ofPayload (reading : Reading) : Reading :=
  { reading with insideUnion := true }

def number? (reading : Reading) (word : String) : Option Float :=
  if reading.numberWords then
    match word with
    | "NaN" => some (0 / 0)
    | "inf" => some (1 / 0)
    | "-inf" => some (-1 / 0)
    | _ => none
  else none

end Reading

namespace Fields

variable {ρ φ τ : Type}

def required (name : String) (get : ρ → φ) (schema : Schema φ) (rest : Fields ρ τ) :
    Fields ρ (φ × τ) :=
  cons name get schema none (fun _ => false) rest

/-- A field with a value for when it is absent. -/
def defaulted (name : String) (get : ρ → φ) (schema : Schema φ) (default : φ)
    (rest : Fields ρ τ) : Fields ρ (φ × τ) :=
  cons name get schema (some default) (fun _ => false) rest

/-- A field that is written only if it has a value. -/
def optional (name : String) (get : ρ → Option φ) (schema : Schema φ) (rest : Fields ρ τ) :
    Fields ρ (Option φ × τ) :=
  cons name get (.optional schema) (some none) Option.isNone rest

end Fields

namespace Variants

/-- The name of the variant with a number, counted from zero. -/
def kindAt? : {α : Type} → Variants α → Nat → Option String
  | _, .nil, _ => none
  | _, .cons kind _ _ _ _, 0 => some kind
  | _, .cons _ _ _ _ rest, n + 1 => rest.kindAt? n

/-- The name of the variant that JSON stands for. -/
def kind? {α : Type} (reading : Reading) (variants : Variants α) : Json → Option String
  | .text kind => some kind
  | .integer n => if reading.insideUnion then n.toNat?.bind variants.kindAt? else none
  | _ => none

end Variants

mutual

def Schema.write : {α : Type} → Schema α → α → Json
  | _, .number, x => if x.isFinite then .real x else .null
  | _, .flag, b => .boolean b
  | _, .whole, n => .integer n
  | _, .text, s => .text s
  | _, .word _ name, a => .text (name a)
  | _, .list item, as => .array (as.map item.write)
  | _, .optional _, none => .null
  | _, .optional value, some a => value.write a
  | _, .record fields _, r => .object (fields.write r)
  | _, .union variants, a => .object (variants.write a)
  | _, .through base _ out, a => base.write (out a)

def Fields.write : {ρ τ : Type} → Fields ρ τ → ρ → List (String × Json)
  | _, _, .nil, _ => []
  | _, _, .cons name get schema _ hidden rest, r =>
    if hidden (get r) then rest.write r else (name, schema.write (get r)) :: rest.write r

/-- The members for a value of a union. -/
def Variants.write : {α : Type} → Variants α → α → List (String × Json)
  | _, .nil, _ => []
  | _, .cons kind payload? fields _ rest, a =>
    match payload? a with
    | some p => ("kind", .text kind) :: fields.write p
    | none => rest.write a

end

namespace Json

/-- The number that JSON stands for. -/
def number? (reading : Reading) : Json → Option Float
  | real x => some x
  | integer n => some (Float.ofInt n)
  | text s => reading.number? s
  | _ => none

def flag? : Json → Option Bool
  | boolean b => some b
  | _ => none

def whole? : Json → Option Int
  | integer n => some n
  | _ => none

def text? : Json → Option String
  | text s => some s
  | _ => none

/-- The plain name that JSON stands for: a string, or an object with nothing but a name. -/
def word? (reading : Reading) : Json → Option String
  | text s => some s
  | object [(s, null)] => some s
  | object [(s, object [])] => if reading.insideUnion then some s else none
  | _ => none

end Json

mutual

def Schema.read (reading : Reading) : {α : Type} → Schema α → Json → Option α
  | _, .number, v => v.number? reading
  | _, .flag, v => v.flag?
  | _, .whole, v => v.whole?
  | _, .text, v => v.text?
  | _, .word values name, v => (v.word? reading).bind fun s => values.find? fun a => name a = s
  | _, .list item, v =>
    match v with
    | .array vs => vs.mapM (item.read reading)
    | _ => none
  | _, .optional value, v =>
    match v with
    | .null => some none
    | v => (value.read reading v).map some
  | _, .record fields build, v =>
    match v with
    | .object members => (fields.readMembers reading members).map build
    | .array items => (fields.readItems reading items).map build
    | _ => none
  | _, .union variants, v =>
    match v with
    | .object members =>
      match Json.valuesOf "kind" members with
      | [tag] => do
        let kind ← variants.kind? reading tag
        if Json.membersReadable members then
          variants.readMembers reading.ofPayload kind members
        else none
      | _ => none
    | .array (tag :: items) => do
      let kind ← variants.kind? reading tag
      if Json.itemsReadable items then variants.readItems reading.ofPayload kind items else none
    | _ => none
  | _, .through base into _, v => (base.read reading v).bind into

/-- The values of fields among the members of an object. -/
def Fields.readMembers (reading : Reading) :
    {ρ τ : Type} → Fields ρ τ → List (String × Json) → Option τ
  | _, _, .nil, _ => some ()
  | _, _, .cons name _ schema default _ rest, members => do
    let value ←
      match Json.valuesOf name members with
      | [] => default
      | [v] => schema.read reading v
      | _ => none
    let values ← rest.readMembers reading members
    pure (value, values)

/-- The values of fields that stand in an array, in their order. Absent ones can only be left out
at the end. -/
def Fields.readItems (reading : Reading) : {ρ τ : Type} → Fields ρ τ → List Json → Option τ
  | _, _, .nil, [] => some ()
  | _, _, .nil, _ :: _ => none
  | _, _, .cons _ _ _ default _ rest, [] => do
    let value ← default
    let values ← rest.readItems reading []
    pure (value, values)
  | _, _, .cons _ _ schema _ _ rest, v :: vs => do
    let value ← schema.read reading v
    let values ← rest.readItems reading vs
    pure (value, values)

/-- The variant of a kind, with its payload among the members of an object. -/
def Variants.readMembers (reading : Reading) :
    {α : Type} → Variants α → String → List (String × Json) → Option α
  | _, .nil, _, _ => none
  | _, .cons name _ fields build rest, kind, members =>
    if kind = name then (fields.readMembers reading members).map build
    else rest.readMembers reading kind members

/-- The variant of a kind, with its payload in the items of an array. -/
def Variants.readItems (reading : Reading) :
    {α : Type} → Variants α → String → List Json → Option α
  | _, .nil, _, _ => none
  | _, .cons name _ fields build rest, kind, items =>
    if kind = name then (fields.readItems reading items).map build
    else rest.readItems reading kind items

end

end TransitDiagram
