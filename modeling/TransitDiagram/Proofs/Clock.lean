import Mathlib
import TransitDiagram.Clock

/-!
# Minutes of the clock

The times of a clock are ordered by their minutes since midnight, from 0 at `00:00` to 1440 at
`24:00`. A stretch of time keeps its minutes when it is cut at midnight, and in exact arithmetic
the spans of it are as long on an axis as they last.
-/

namespace TransitDiagram

open Quantity

namespace ClockTime

variable {s t : ClockTime}

theorem eq_iff : s = t ↔ s.hour.toNat = t.hour.toNat ∧ s.minute.toNat = t.minute.toNat := by
  cases s
  cases t
  rw [mk.injEq, UInt32.toNat_inj, UInt32.toNat_inj]

theorem isValid_iff :
    t.IsValid ↔ (t.hour.toNat < 24 ∧ t.minute.toNat < 60) ∨
      (t.hour.toNat = 24 ∧ t.minute.toNat = 0) := by
  have hour : t.hour < 24 ↔ t.hour.toNat < 24 := UInt32.lt_iff_toNat_lt
  have minute : t.minute < 60 ↔ t.minute.toNat < 60 := UInt32.lt_iff_toNat_lt
  have dayEnd : t = .dayEnd ↔ t.hour.toNat = 24 ∧ t.minute.toNat = 0 := eq_iff
  rw [IsValid, hour, minute, dayEnd]

theorem isValid_midnight : midnight.IsValid :=
  .inl (by decide)

theorem isValid_dayEnd : dayEnd.IsValid :=
  .inr rfl

@[simp] theorem minutes_midnight : midnight.minutes = 0 := rfl

@[simp] theorem minutes_dayEnd : dayEnd.minutes = 1440 := rfl

theorem minutes_le (valid : t.IsValid) : t.minutes ≤ 1440 := by
  rw [isValid_iff] at valid
  rw [minutes]
  omega

theorem minutes_inj (valid : s.IsValid) (valid' : t.IsValid) : s.minutes = t.minutes ↔ s = t := by
  rw [isValid_iff] at valid valid'
  rw [eq_iff]
  simp only [minutes]
  omega

/-- The order of the clock is the order of the minutes. -/
theorem before_iff (valid : s.IsValid) (valid' : t.IsValid) :
    s.Before t ↔ s.minutes < t.minutes := by
  rw [isValid_iff] at valid valid'
  rw [Before, UInt32.lt_iff_toNat_lt, UInt32.lt_iff_toNat_lt, ← UInt32.toNat_inj]
  simp only [minutes]
  omega

/-- Where a time stands on an axis. -/
theorem position_rat {width frameHours : Rat} (positive : 0 < frameHours) :
    t.position width frameHours = width * t.minutes / (60 * frameHours) := by
  have hours : frameHours ≠ 0 := ne_of_gt positive
  have minutes : (t.minutes : Rat) = t.hour.toNat * 60 + t.minute.toNat := by
    rw [ClockTime.minutes]
    push_cast
    rfl
  show width * ((t.hour.toNat : Rat) / frameHours + (t.minute.toNat : Rat) / (60 * frameHours)) = _
  rw [minutes]
  field_simp

end ClockTime

namespace DaySpan

/-- How long a span lasts. -/
def minutes (span : DaySpan) : Int :=
  span.arrival.minutes - span.departure.minutes

/-- How long spans last together. -/
def totalMinutes (spans : List DaySpan) : Int :=
  (spans.map minutes).sum

theorem totalMinutes_cons (span : DaySpan) (rest : List DaySpan) :
    totalMinutes (span :: rest) = span.minutes + totalMinutes rest :=
  List.sum_cons

theorem extent_rat {span : DaySpan} {width frameHours : Rat} (positive : 0 < frameHours) :
    span.extent width frameHours = width * span.minutes / (60 * frameHours) := by
  rw [extent, ClockTime.position_rat positive, ClockTime.position_rat positive, minutes]
  push_cast
  ring

/-- Spans are together as long as they last together. -/
theorem sum_extent_rat {spans : List DaySpan} {width frameHours : Rat} (positive : 0 < frameHours) :
    (spans.map fun span => span.extent width frameHours).sum =
      width * totalMinutes spans / (60 * frameHours) := by
  induction spans with
  | nil => simp [totalMinutes]
  | cons span rest ih =>
    rw [List.map_cons, List.sum_cons, ih, extent_rat positive, totalMinutes_cons]
    push_cast
    ring

variable {start stop departure arrival : ClockTime}

/-- The spans of a stretch of time that begins before `24:00`. -/
def cut (start stop : ClockTime) : List DaySpan :=
  if stop.Before start then [⟨start, .dayEnd, false⟩, ⟨.midnight, stop, true⟩]
  else [⟨start, stop, false⟩]

theorem between_dayEnd (valid : arrival.IsValid) :
    between .dayEnd arrival = cut .midnight arrival := by
  have first : ¬ (arrival = .midnight ∧ arrival.Before .midnight) := by
    rw [ClockTime.before_iff valid ClockTime.isValid_midnight]
    exact fun h => Nat.not_lt_zero _ h.2
  rw [between, if_pos rfl, if_neg first]
  rfl

theorem between_of_ne_dayEnd (early : departure ≠ .dayEnd) :
    between departure arrival =
      cut departure (if arrival = .midnight ∧ arrival.Before departure then .dayEnd else arrival) := by
  rw [between, if_neg early]
  rfl

/-- Cutting a stretch of time at midnight adds the minutes of a day to what the clock says. -/
theorem totalMinutes_cut (valid : start.IsValid) (valid' : stop.IsValid) :
    totalMinutes (cut start stop) =
      stop.minutes - start.minutes + if stop.minutes < start.minutes then 1440 else 0 := by
  simp only [cut, ClockTime.before_iff valid' valid]
  split
  · rw [totalMinutes_cons, totalMinutes_cons, minutes, minutes]
    show ((1440 : Nat) : Int) - start.minutes + (stop.minutes - (0 : Nat) + 0) = _
    omega
  · rw [totalMinutes_cons, minutes]
    rfl

/-- The spans between two times last until the clock shows the second one next. Only from
`24:00` to `24:00` do they last a day, although the clock says the same at both ends. -/
theorem totalMinutes_between (valid : departure.IsValid) (valid' : arrival.IsValid) :
    totalMinutes (between departure arrival) =
      (if arrival.minutes < departure.minutes then arrival.minutes + 1440 - departure.minutes
        else arrival.minutes - departure.minutes : Int) +
      if departure = .dayEnd ∧ arrival = .dayEnd then 1440 else 0 := by
  have early := ClockTime.minutes_le valid
  have late := ClockTime.minutes_le valid'
  by_cases fromEnd : departure = .dayEnd
  · -- The first span begins at `00:00`, and nothing is before that.
    subst fromEnd
    rw [between_dayEnd valid', totalMinutes_cut ClockTime.isValid_midnight valid']
    simp only [← ClockTime.minutes_inj valid' ClockTime.isValid_dayEnd,
      ClockTime.minutes_midnight, ClockTime.minutes_dayEnd, true_and]
    split_ifs <;> omega
  have apart : ¬ (departure = .dayEnd ∧ arrival = .dayEnd) := fun h => fromEnd h.1
  rw [if_neg apart, between_of_ne_dayEnd fromEnd]
  by_cases toEnd : arrival = .midnight ∧ arrival.Before departure
  · -- An arrival at `00:00` ends the day, so there is nothing to cut.
    rw [if_pos toEnd, totalMinutes_cut valid ClockTime.isValid_dayEnd]
    obtain ⟨rfl, before⟩ := toEnd
    rw [ClockTime.before_iff valid' valid] at before
    simp only [ClockTime.minutes_midnight, ClockTime.minutes_dayEnd] at before ⊢
    split_ifs <;> omega
  · rw [if_neg toEnd, totalMinutes_cut valid valid']
    split_ifs <;> omega

end DaySpan

end TransitDiagram
