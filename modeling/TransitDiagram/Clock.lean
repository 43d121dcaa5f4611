import TransitDiagram.Quantity

/-!
# Clock times

The wall clock of the time-of-day charts. `24:00` is allowed as the end of a day. A stretch of
time that crosses midnight is cut into the span before and the span after it
(`DaySpan.between`).
-/

namespace TransitDiagram

open Quantity

structure ClockTime where
  hour : UInt32
  minute : UInt32
  deriving DecidableEq

namespace ClockTime

def midnight : ClockTime := ⟨0, 0⟩

/-- The end of a day, `24:00`. -/
def dayEnd : ClockTime := ⟨24, 0⟩

/-- A time of a day, or its end. -/
def IsValid (t : ClockTime) : Prop :=
  (t.hour < 24 ∧ t.minute < 60) ∨ t = dayEnd

instance (t : ClockTime) : Decidable t.IsValid :=
  inferInstanceAs (Decidable (_ ∨ _))

/-- The order of the clock: by hour, then by minute. -/
def Before (s t : ClockTime) : Prop :=
  s.hour < t.hour ∨ s.hour = t.hour ∧ s.minute < t.minute

instance (s t : ClockTime) : Decidable (s.Before t) :=
  inferInstanceAs (Decidable (_ ∨ _))

def minutes (t : ClockTime) : Nat :=
  t.hour.toNat * 60 + t.minute.toNat

/-- A number with at least two digits. -/
def twoDigits (n : UInt32) : String :=
  if n < 10 then "0" ++ toString n.toNat else toString n.toNat

/-- The time as `HH:MM`. -/
def text (t : ClockTime) : String :=
  twoDigits t.hour ++ ":" ++ twoDigits t.minute

/-- Moments, in seconds since 1970, that have a calendar date: the years -262143 to 262142. -/
def HasDate (seconds : Int64) : Prop :=
  -8334601228800 ≤ seconds.toInt ∧ seconds.toInt ≤ 8210266876799

instance (seconds : Int64) : Decidable (HasDate seconds) :=
  inferInstanceAs (Decidable (_ ∧ _))

/-- Offsets from universal time that a clock can have: less than a day either way. -/
def IsOffset (seconds : Int32) : Prop :=
  -86400 < seconds.toInt ∧ seconds.toInt < 86400

instance (seconds : Int32) : Decidable (IsOffset seconds) :=
  inferInstanceAs (Decidable (_ ∧ _))

/-- The time of day so many minutes after some midnight, or before it. -/
def ofMinutes (minutes : Int) : ClockTime :=
  let ofDay := (minutes % 1440).toNat
  ⟨.ofNat (ofDay / 60), .ofNat (ofDay % 60)⟩

/-- The wall-clock time of a moment, in seconds since 1970, at an offset from universal time. The
clock shows the minute that has started, also before 1970. -/
def ofMoment? (seconds : Int64) (utcOffset : Int32) : Option ClockTime :=
  if IsOffset utcOffset ∧ HasDate seconds then
    some (ofMinutes ((seconds.toInt + utcOffset.toInt) / 60))
  else none

/-- The position of a clock time on an axis `width` long that covers `frameHours` hours. -/
def position {α : Type} [Quantity α] (t : ClockTime) (width frameHours : α) : α :=
  width * (ofNat t.hour.toNat / frameHours + ofNat t.minute.toNat / (60 * frameHours))

end ClockTime

structure DaySpan where
  departure : ClockTime
  arrival : ClockTime
  /-- It starts at `00:00` because the whole stretch crossed midnight. -/
  wrapped : Bool
  deriving DecidableEq

namespace DaySpan

/-- The stretches of days between two clock times, cut at midnight. A departure at `24:00` counts
as `00:00` of the next day and an arrival at `00:00` as `24:00` of the departure day, so no half
is ever empty. -/
def between (departure arrival : ClockTime) : List DaySpan :=
  let start := if departure = .dayEnd then .midnight else departure
  let stop := if arrival = .midnight ∧ arrival.Before start then .dayEnd else arrival
  if stop.Before start then
    [⟨start, .dayEnd, false⟩, ⟨.midnight, stop, true⟩]
  else
    [⟨start, stop, false⟩]

/-- The length of the span on an axis `width` long that covers `frameHours` hours. -/
def extent {α : Type} [Quantity α] (span : DaySpan) (width frameHours : α) : α :=
  span.arrival.position width frameHours - span.departure.position width frameHours

end DaySpan

end TransitDiagram
