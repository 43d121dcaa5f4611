import TransitDiagram.Clock
import TransitDiagram.Node

/-!
# Faults

Why a request gets no drawing. A fault names its cause; how it is worded is said elsewhere
(`Fault.message`).
-/

namespace TransitDiagram

open Quantity

inductive Measure where
  | occupancy
  | capacity
  | value
  | referenceOccupancy
  deriving DecidableEq

/-- What a checked quantity belongs to. -/
inductive Owner where
  | node (side : Side) (key : NodeKey)
  | link (id : Nat)
  | flow (index : Nat)
  | trip (key : EntityKey)
  deriving DecidableEq

/-- A moment that has to be shown on a clock. -/
inductive Moment where
  | displayTime (key : NodeKey)
  | departure (key : EntityKey)
  | arrival (key : EntityKey)
  deriving DecidableEq

inductive StyleFault (α : Type) where
  | notPositive (setting : String) (value : α)
  | negative (setting : String) (value : α)
  | nodeExceedsLink (node link : α)
  deriving DecidableEq

inductive Fault (α : Type) where
  | negative (measure : Measure) (owner : Owner) (value : α)
  | notFinite (measure : Measure) (owner : Owner) (value : α)
  | repeatedNode (side : Side) (key : NodeKey)
  | style (fault : StyleFault α)
  | clock (time : ClockTime)
  | noDate (moment : Moment) (seconds : Int64)
  | noRange
  deriving DecidableEq

namespace Fault

variable {α : Type} [Quantity α]

/-- Accepts a finite quantity that is not negative. -/
def checkCount (measure : Measure) (owner : Owner) (value : α) : Except (Fault α) Unit :=
  if isFinite value then
    if value < 0 then throw (negative measure owner value) else pure ()
  else throw (notFinite measure owner value)

/-- Accepts a setting that is positive and finite. -/
def checkPositive (setting : String) (value : α) : Except (Fault α) Unit :=
  if IsPositive value then pure () else throw (style (.notPositive setting value))

/-- Accepts a setting that is finite and not negative. -/
def checkNonNegative (setting : String) (value : α) : Except (Fault α) Unit :=
  if IsNonNegative value then pure () else throw (style (.negative setting value))

omit [Quantity α] in
/-- Accepts a time that a clock can show. -/
def checkClock (time : ClockTime) : Except (Fault α) Unit :=
  if time.IsValid then pure () else throw (clock time)

/-! ### What the checks accept -/

theorem checkCount_eq_ok_iff {measure : Measure} {owner : Owner} {value : α} :
    checkCount measure owner value = .ok () ↔ IsCount value := by
  by_cases finite : isFinite value = true <;> by_cases negative : value < 0 <;>
    simp [checkCount, IsCount, finite, negative, pure, Except.pure, throw, throwThe,
      MonadExceptOf.throw]

theorem checkPositive_eq_ok_iff {setting : String} {value : α} :
    checkPositive setting value = .ok () ↔ IsPositive value := by
  by_cases accepted : IsPositive value <;>
    simp [checkPositive, accepted, pure, Except.pure, throw, throwThe, MonadExceptOf.throw]

theorem checkNonNegative_eq_ok_iff {setting : String} {value : α} :
    checkNonNegative setting value = .ok () ↔ IsNonNegative value := by
  by_cases accepted : IsNonNegative value <;>
    simp [checkNonNegative, accepted, pure, Except.pure, throw, throwThe, MonadExceptOf.throw]

omit [Quantity α] in
theorem checkClock_eq_ok_iff {time : ClockTime} :
    checkClock (α := α) time = .ok () ↔ time.IsValid := by
  by_cases accepted : time.IsValid <;>
    simp [checkClock, accepted, pure, Except.pure, throw, throwThe, MonadExceptOf.throw]

end Fault

end TransitDiagram
