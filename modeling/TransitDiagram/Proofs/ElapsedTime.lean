import TransitDiagram.Proofs.DayBlocks
import TransitDiagram.Proofs.TravelTime

/-!
# Sections between moments

A section between two moments is read on a clock that shows the minute that has started, so that it
keeps the time between them up to whole days (`TripSection.KeepsTime`). The two rules for midnight,
that of the spans and that of the travel time, agree on it, since no moment is read as `24:00`.
-/

namespace TransitDiagram

namespace ClockTime

/-- How many minutes a clock at an offset from universal time has begun since it showed the first
midnight of 1970, less than zero before that. -/
def minuteAt (seconds : Int64) (utcOffset : Int32) : Int :=
  ⌊((seconds.toInt + utcOffset.toInt : Int) : Rat) / 60⌋

theorem minuteAt_eq (seconds : Int64) (utcOffset : Int32) :
    minuteAt seconds utcOffset = (seconds.toInt + utcOffset.toInt) / 60 :=
  Rat.floor_intCast_div_natCast _ 60

theorem hour_ofMinutes (minutes : Int) :
    (ofMinutes minutes).hour.toNat = (minutes % 1440).toNat / 60 :=
  UInt32.toNat_ofNat_of_lt' (by rw [UInt32.size]; omega)

theorem minute_ofMinutes (minutes : Int) :
    (ofMinutes minutes).minute.toNat = (minutes % 1440).toNat % 60 :=
  UInt32.toNat_ofNat_of_lt' (by rw [UInt32.size]; omega)

theorem minutes_ofMinutes (minutes : Int) :
    ((ofMinutes minutes).minutes : Int) = minutes % 1440 := by
  rw [ClockTime.minutes, hour_ofMinutes, minute_ofMinutes]
  omega

theorem isValid_ofMinutes (minutes : Int) : (ofMinutes minutes).IsValid := by
  rw [isValid_iff, hour_ofMinutes, minute_ofMinutes]
  omega

/-- The minutes of a day end before `24:00`. -/
theorem ofMinutes_ne_dayEnd (minutes : Int) : ofMinutes minutes ≠ .dayEnd := by
  intro dayEnd
  have late := minutes_ofMinutes minutes
  rw [dayEnd, minutes_dayEnd] at late
  omega

/-- The moment has a date, and the offset from universal time is one that a clock can have. -/
def IsShown (seconds : Int64) (utcOffset : Int32) : Prop :=
  IsOffset utcOffset ∧ HasDate seconds

instance (seconds : Int64) (utcOffset : Int32) : Decidable (IsShown seconds utcOffset) :=
  inferInstanceAs (Decidable (_ ∧ _))

theorem ofMoment?_eq (seconds : Int64) (utcOffset : Int32) :
    ofMoment? seconds utcOffset =
      if IsShown seconds utcOffset then some (ofMinutes (minuteAt seconds utcOffset))
      else none := by
  rw [minuteAt_eq]
  rfl

end ClockTime

namespace TripSection

variable {α : Type} {trip : TripSection α}

/-! ### Midnight -/

theorem wrapsMidnight_iff (departure : trip.departure.IsValid) (arrival : trip.arrival.IsValid) :
    trip.wrapsMidnight = true ↔ trip.IsOvernight := by
  rw [wrapsMidnight, decide_eq_true_iff]
  by_cases overnight : trip.IsOvernight
  · rw [spans_of_isOvernight departure arrival overnight]
    exact iff_of_true Nat.one_lt_two overnight
  · rw [spans_of_not_isOvernight departure arrival overnight]
    exact iff_of_false (Nat.lt_irrefl 1) overnight

/-- A section that does not begin at the end of a day is cut at midnight if it arrives earlier on
the clock, unless it arrives just then. -/
theorem isOvernight_iff (departure : trip.departure.IsValid) (early : trip.departure ≠ .dayEnd) :
    trip.IsOvernight ↔
      trip.arrival.minutes < trip.departure.minutes ∧ trip.arrival ≠ .midnight := by
  have start : trip.drawnFrom = trip.departure := if_neg early
  have end_of_day := ClockTime.minutes_le departure
  rw [IsOvernight, drawnTo, start]
  by_cases midnight : trip.arrival = .midnight
  · refine iff_of_false ?_ fun both => both.2 midnight
    split
    · exact Nat.not_lt.mpr end_of_day
    · next late => exact fun before => late ⟨midnight, Nat.zero_lt_of_lt before⟩
  · rw [if_neg fun late => midnight late.1]
    exact (and_iff_left midnight).symm

/-! ### Moments -/

/-- What a section is like that is read between two moments: no time of it is `24:00`, it lasts as
many minutes as the clock has begun in between, up to whole days, and it is cut at midnight if the
clock shows an earlier time at its end, other than `00:00`. -/
structure KeepsTime (trip : TripSection α) (departure arrival : Int64) (utcOffset : Int32) :
    Prop where
  isValid_departure : trip.departure.IsValid
  departure_ne_dayEnd : trip.departure ≠ .dayEnd
  isValid_arrival : trip.arrival.IsValid
  arrival_ne_dayEnd : trip.arrival ≠ .dayEnd
  minutes_departure :
    (trip.departure.minutes : Int) = ClockTime.minuteAt departure utcOffset % 1440
  minutes_arrival : (trip.arrival.minutes : Int) = ClockTime.minuteAt arrival utcOffset % 1440
  travelledMinutes_eq : (trip.travelledMinutes : Int) =
    (ClockTime.minuteAt arrival utcOffset - ClockTime.minuteAt departure utcOffset) % 1440
  totalMinutes_eq : DaySpan.totalMinutes trip.spans = trip.travelledMinutes
  wrapsMidnight_iff : trip.wrapsMidnight = true ↔
    trip.arrival.minutes < trip.departure.minutes ∧ trip.arrival ≠ .midnight

theorem keepsTime_of_minuteAt {departure arrival : Int64} {utcOffset : Int32}
    (start : trip.departure = .ofMinutes (ClockTime.minuteAt departure utcOffset))
    (stop : trip.arrival = .ofMinutes (ClockTime.minuteAt arrival utcOffset)) :
    trip.KeepsTime departure arrival utcOffset := by
  have departureValid : trip.departure.IsValid := start ▸ ClockTime.isValid_ofMinutes _
  have arrivalValid : trip.arrival.IsValid := stop ▸ ClockTime.isValid_ofMinutes _
  have early : trip.departure ≠ .dayEnd := start ▸ ClockTime.ofMinutes_ne_dayEnd _
  have from_minutes := start ▸ ClockTime.minutes_ofMinutes (ClockTime.minuteAt departure utcOffset)
  have to_minutes := stop ▸ ClockTime.minutes_ofMinutes (ClockTime.minuteAt arrival utcOffset)
  have reported : trip.unreportedMinutes = 0 := if_neg fun dayEnds => early dayEnds.1
  refine
    { isValid_departure := departureValid
      departure_ne_dayEnd := early
      isValid_arrival := arrivalValid
      arrival_ne_dayEnd := stop ▸ ClockTime.ofMinutes_ne_dayEnd _
      minutes_departure := from_minutes
      minutes_arrival := to_minutes
      travelledMinutes_eq := ?_
      totalMinutes_eq := ?_
      wrapsMidnight_iff := ?_ }
  · rw [travelledMinutes]
    split <;> omega
  · rw [totalMinutes_spans departureValid arrivalValid, reported, Nat.cast_zero, add_zero]
  · exact (trip.wrapsMidnight_iff departureValid arrivalValid).trans
      (isOvernight_iff departureValid early)

open ClockTime (IsShown)

theorem clockAt_of_isShown {seconds : Int64} {utcOffset : Int32} (moment : Moment)
    (shown : IsShown seconds utcOffset) :
    clockAt (α := α) moment seconds utcOffset =
      .ok (.ofMinutes (ClockTime.minuteAt seconds utcOffset)) := by
  rw [clockAt, ClockTime.ofMoment?_eq, if_pos shown]
  rfl

theorem clockAt_of_not_isShown {seconds : Int64} {utcOffset : Int32} (moment : Moment)
    (hidden : ¬ IsShown seconds utcOffset) :
    clockAt (α := α) moment seconds utcOffset = .error (.noDate moment seconds) := by
  rw [clockAt, ClockTime.ofMoment?_eq, if_neg hidden]
  rfl

/-- A section between two moments keeps the time between them, and there is one exactly if a clock
can show both. Of two moments that cannot be shown the departure is the fault. -/
theorem ofMoments_keepsTime (key : EntityKey) (departure arrival : Int64) (utcOffset : Int32)
    (occupancy capacity : α) :
    (IsShown departure utcOffset → IsShown arrival utcOffset →
      ∃ trip, ofMoments key departure arrival utcOffset occupancy capacity = .ok trip ∧
        trip.key = key ∧ trip.occupancy = occupancy ∧ trip.capacity = capacity ∧
        trip.reference = none ∧ trip.KeepsTime departure arrival utcOffset) ∧
    ∀ fault, ofMoments key departure arrival utcOffset occupancy capacity = .error fault ↔
      (¬ IsShown departure utcOffset ∧ fault = .noDate (.departure key) departure) ∨
        (IsShown departure utcOffset ∧ ¬ IsShown arrival utcOffset ∧
          fault = .noDate (.arrival key) arrival) := by
  by_cases start : IsShown departure utcOffset
  · by_cases stop : IsShown arrival utcOffset
    · have made : ofMoments key departure arrival utcOffset occupancy capacity =
          .ok ⟨key, .ofMinutes (ClockTime.minuteAt departure utcOffset),
            .ofMinutes (ClockTime.minuteAt arrival utcOffset), occupancy, capacity, none⟩ := by
        rw [ofMoments, clockAt_of_isShown _ start, clockAt_of_isShown _ stop]
        rfl
      refine ⟨fun _ _ => ⟨_, made, rfl, rfl, rfl, rfl, keepsTime_of_minuteAt rfl rfl⟩, ?_⟩
      simp [made, start, stop]
    · have refused : ofMoments key departure arrival utcOffset occupancy capacity =
          .error (.noDate (.arrival key) arrival) := by
        rw [ofMoments, clockAt_of_isShown _ start, clockAt_of_not_isShown _ stop]
        rfl
      refine ⟨fun _ shown => absurd shown stop, fun fault => ?_⟩
      simp [refused, start, stop, eq_comm]
  · have refused : ofMoments key departure arrival utcOffset occupancy capacity =
        .error (.noDate (.departure key) departure) := by
      rw [ofMoments, clockAt_of_not_isShown _ start]
      rfl
    refine ⟨fun shown => absurd shown start, fun fault => ?_⟩
    simp [refused, start, eq_comm]

/-- Less than three minutes around the first midnight of 1970, at half a minute behind universal
time, go from 23:58 to 00:01. A moment after the last date is refused, and with an offset of a whole
day the departure is. -/
theorem ofMoments_keepsTime_newYear :
    (∃ trip, ofMoments ⟨"a"⟩ (-65) 100 (-30) (30 : Rat) 20 = .ok trip ∧
      trip.travelledMinutes = 3 ∧ trip.wrapsMidnight = true ∧
      trip.KeepsTime (-65) 100 (-30)) ∧
    ofMoments ⟨"a"⟩ (-65) 8210266876800 (-30) (30 : Rat) 20 =
      .error (.noDate (.arrival ⟨"a"⟩) 8210266876800) ∧
    ofMoments ⟨"a"⟩ (-65) 8210266876800 86400 (30 : Rat) 20 =
      .error (.noDate (.departure ⟨"a"⟩) (-65)) := by
  obtain ⟨trip, made, -, -, -, -, keeps⟩ :=
    (ofMoments_keepsTime ⟨"a"⟩ (-65) 100 (-30) (30 : Rat) 20).1 (by decide) (by decide)
  have start : ClockTime.minuteAt (-65) (-30) = -2 := by
    rw [ClockTime.minuteAt_eq]
    decide
  have stop : ClockTime.minuteAt 100 (-30) = 1 := by
    rw [ClockTime.minuteAt_eq]
    decide
  have departs := keeps.minutes_departure
  have arrives := keeps.minutes_arrival
  have travelled := keeps.travelledMinutes_eq
  rw [start] at departs travelled
  rw [stop] at arrives travelled
  have later : trip.arrival ≠ .midnight := by
    intro midnight
    rw [midnight, ClockTime.minutes_midnight] at arrives
    omega
  refine ⟨⟨trip, made, by omega, keeps.wrapsMidnight_iff.mpr ⟨by omega, later⟩, keeps⟩, ?_, ?_⟩
  · exact ((ofMoments_keepsTime _ _ _ _ _ _).2 _).mpr (.inr ⟨by decide, by decide, rfl⟩)
  · exact ((ofMoments_keepsTime _ _ _ _ _ _).2 _).mpr (.inl ⟨by decide, rfl⟩)

end TripSection

end TransitDiagram
