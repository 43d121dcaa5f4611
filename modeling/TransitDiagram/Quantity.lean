/-!
# Quantities

Passenger counts and lengths on the drawing are measured in one number type. `Quantity` names
what a layout asks of it: the four operations, comparison, whole constants, and a test for being
finite. `Float` is the number type the program runs with; `Rat` is exact arithmetic, in which the
geometry of a drawing can be stated without rounding.
-/

namespace TransitDiagram

/-- A number type in which passengers are counted and lengths are measured. -/
class Quantity (α : Type) extends Add α, Sub α, Mul α, Div α, LT α, LE α, BEq α where
  ofNat : Nat → α
  /-- Neither infinite nor undefined. -/
  isFinite : α → Bool
  [decidableLT : DecidableLT α]
  [decidableLE : DecidableLE α]

namespace Quantity

attribute [reducible, instance] decidableLT decidableLE

variable {α : Type} [Quantity α]

instance (priority := low) {n : Nat} : OfNat α n := ⟨Quantity.ofNat n⟩

/-- The larger of two quantities. An undefined operand, which differs from itself, gives way to
the other one; of two equal operands the first is taken. -/
def larger (a b : α) : α :=
  if a < b then b else if a == a then a else b

/-- A positive quantity as it is, and zero for every other one. -/
def positivePart (x : α) : α :=
  if 0 < x then x else 0

/-- The value held between zero and one. An undefined value stays undefined. -/
def clampToUnit (x : α) : α :=
  let raised := if x < 0 then 0 else x
  if 1 < raised then 1 else raised

/-- The sum of a list, taken from left to right. -/
def total (xs : List α) : α :=
  xs.foldl (· + ·) 0

/-- The largest of zero and the members of a list. -/
def largest (xs : List α) : α :=
  xs.foldl larger 0

/-- A quantity that a diagram can show. -/
def IsCount (x : α) : Prop :=
  isFinite x = true ∧ ¬ x < 0

/-- A scale or a length that must not vanish. -/
def IsPositive (x : α) : Prop :=
  isFinite x = true ∧ 0 < x

def IsNonNegative (x : α) : Prop :=
  isFinite x = true ∧ 0 ≤ x

instance (x : α) : Decidable (IsPositive x) := inferInstanceAs (Decidable (_ ∧ _))

instance (x : α) : Decidable (IsNonNegative x) := inferInstanceAs (Decidable (_ ∧ _))

instance (x : α) : Decidable (IsCount x) := inferInstanceAs (Decidable (_ ∧ _))

instance : Quantity Float where
  ofNat := Float.ofNat
  isFinite := Float.isFinite

instance : Quantity Rat where
  ofNat n := n
  isFinite _ := true

end Quantity

end TransitDiagram
