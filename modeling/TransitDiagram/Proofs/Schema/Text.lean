import TransitDiagram.Proofs.Json.Document
import TransitDiagram.Proofs.Schema.RoundTrip

/-!
# Written values as text

The text of a value that is written is read as what was written, if the numerals in it restore its
numbers. How deeply the text is nested depends on the schema alone.
-/

namespace TransitDiagram

mutual

/-- How many containers are within each other in what is written, at most. -/
def Schema.nesting : {α : Type} → Schema α → Nat
  | _, .number => 0
  | _, .flag => 0
  | _, .whole => 0
  | _, .text => 0
  | _, .word _ _ => 0
  | _, .list item => item.nesting + 1
  | _, .optional value => value.nesting
  | _, .record fields _ => fields.nesting + 1
  | _, .union variants => variants.nesting + 1
  | _, .through base _ _ => base.nesting

def Fields.nesting : {ρ τ : Type} → Fields ρ τ → Nat
  | _, _, .nil => 0
  | _, _, .cons _ _ schema _ _ rest => max schema.nesting rest.nesting

def Variants.nesting : {α : Type} → Variants α → Nat
  | _, .nil => 0
  | _, .cons _ _ fields _ rest => max fields.nesting rest.nesting

end

theorem Json.itemsNesting_map_le {α : Type} {f : α → Json} {bound : Nat}
    (shallow : ∀ a, (f a).nesting ≤ bound) (as : List α) : itemsNesting (as.map f) ≤ bound := by
  induction as with
  | nil => exact Nat.zero_le _
  | cons a as ih => exact max_le (shallow a) ih

mutual

theorem Schema.nesting_write_le :
    ∀ {α : Type} (schema : Schema α) (a : α), (schema.write a).nesting ≤ schema.nesting
  | _, .number, x => by
    rw [Schema.write]
    split <;> exact Nat.zero_le _
  | _, .flag, _ => Nat.zero_le _
  | _, .whole, _ => Nat.zero_le _
  | _, .text, _ => Nat.zero_le _
  | _, .word _ _, _ => Nat.zero_le _
  | _, .list item, as => by
    rw [Schema.write, Schema.nesting, Json.nesting]
    exact Nat.succ_le_succ (Json.itemsNesting_map_le item.nesting_write_le as)
  | _, .optional _, none => Nat.zero_le _
  | _, .optional value, some a => by
    rw [Schema.write, Schema.nesting]
    exact value.nesting_write_le a
  | _, .record fields _, r => by
    rw [Schema.write, Schema.nesting, Json.nesting]
    exact Nat.succ_le_succ (fields.membersNesting_write_le r)
  | _, .union variants, a => by
    rw [Schema.write, Schema.nesting, Json.nesting]
    exact Nat.succ_le_succ (variants.membersNesting_write_le a)
  | _, .through base _ out, a => by
    rw [Schema.write, Schema.nesting]
    exact base.nesting_write_le (out a)

theorem Fields.membersNesting_write_le :
    ∀ {ρ τ : Type} (fields : Fields ρ τ) (r : ρ),
      Json.membersNesting (fields.write r) ≤ fields.nesting
  | _, _, .nil, _ => by rw [Fields.write]; exact Nat.zero_le _
  | _, _, .cons _ get schema _ _ rest, r => by
    have below := rest.membersNesting_write_le r
    rw [Fields.write, Fields.nesting]
    split
    · exact below.trans (le_max_right _ _)
    · exact max_le_max (schema.nesting_write_le (get r)) below

theorem Variants.membersNesting_write_le :
    ∀ {α : Type} (variants : Variants α) (a : α),
      Json.membersNesting (variants.write a) ≤ variants.nesting
  | _, .nil, _ => by rw [Variants.write]; exact Nat.zero_le _
  | _, .cons _ payload? fields _ rest, a => by
    rw [Variants.write, Variants.nesting]
    split
    case h_1 p _ =>
      refine max_le (Nat.zero_le _) ?_
      exact (fields.membersNesting_write_le p).trans (le_max_left _ _)
    case h_2 => exact (rest.membersNesting_write_le a).trans (le_max_right _ _)

end

namespace Schema

variable {α : Type} (schema : Schema α) {a : α} {cs : List Char}

/-- What is written comes back from its text. -/
theorem ofChars?_write (shallow : schema.nesting ≤ Json.deepest)
    (restored : ∀ n ∈ (schema.write a).numbers, n.IsRestored)
    (spells : Spells cs (schema.write a).tokens) : Json.ofChars? cs = some (schema.write a) := by
  have nesting : 0 + (schema.write a).nesting ≤ Json.deepest := by
    have := schema.nesting_write_le a
    omega
  rw [Json.ofChars?_of_spells spells,
    (schema.write a).readBack_eq 0 (schema.isReadable_write a) nesting restored]

end Schema

end TransitDiagram
