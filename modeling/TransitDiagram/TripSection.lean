import TransitDiagram.Fault

/-!
# Sections of a trip

A section is the leg of a trip between two consecutive stops, with its clock times and its load.
-/

namespace TransitDiagram

open Quantity

structure TripSection (α : Type) where
  key : EntityKey
  departure : ClockTime
  arrival : ClockTime
  occupancy : α
  capacity : α
  /-- A second load, shown behind the first one. -/
  reference : Option α
  deriving DecidableEq

namespace TripSection

variable {α : Type} [Quantity α]

omit [Quantity α] in
def spans (trip : TripSection α) : List DaySpan :=
  DaySpan.between trip.departure trip.arrival

omit [Quantity α] in
/-- The section crosses midnight. -/
def wrapsMidnight (trip : TripSection α) : Bool :=
  decide (1 < trip.spans.length)

omit [Quantity α] in
/-- Minutes from departure to arrival. An arrival that is earlier on the clock is on the next
day. -/
def travelledMinutes (trip : TripSection α) : Nat :=
  let departure := trip.departure.minutes
  let arrival := trip.arrival.minutes
  if arrival < departure then arrival + 1440 - departure else arrival - departure

/-- Accepts a section with proper times and quantities. -/
def check (trip : TripSection α) : Except (Fault α) Unit := do
  Fault.checkClock trip.departure
  Fault.checkClock trip.arrival
  Fault.checkCount .occupancy (.trip trip.key) trip.occupancy
  Fault.checkCount .capacity (.trip trip.key) trip.capacity
  match trip.reference with
  | some reference => Fault.checkCount .referenceOccupancy (.trip trip.key) reference
  | none => pure ()

omit [Quantity α] in
/-- The clock time of a moment, or the fault that it has none. -/
def clockAt (moment : Moment) (seconds : Int64) (utcOffset : Int32) :
    Except (Fault α) ClockTime :=
  match ClockTime.ofMoment? seconds utcOffset with
  | some time => pure time
  | none => throw (.noDate moment seconds)

omit [Quantity α] in
/-- A section between two moments, in seconds since 1970, read on a clock at an offset from
universal time. -/
def ofMoments (key : EntityKey) (departure arrival : Int64) (utcOffset : Int32)
    (occupancy capacity : α) : Except (Fault α) (TripSection α) := do
  let start ← clockAt (.departure key) departure utcOffset
  let stop ← clockAt (.arrival key) arrival utcOffset
  pure ⟨key, start, stop, occupancy, capacity, none⟩

end TripSection

end TransitDiagram
