import EventRelay.Timestamp

/-!
# Timestamps that a clock can show

A clock shows days that timestamps reach and seconds of a day.  Nanoseconds
run past one thousand million only in the last second of a minute, which a
leap second prolongs.
-/

namespace EventRelay.Timestamp

/-- What a timestamp that a clock shows keeps to. -/
structure Valid (timestamp : Timestamp) : Prop where
  reached : reaches timestamp.day = true
  second_lt : timestamp.second < 86400
  nano_lt : timestamp.nano < 2000000000
  leap : 1000000000 ≤ timestamp.nano → timestamp.second % 60 = 59

instance (timestamp : Timestamp) : Decidable timestamp.Valid :=
  decidable_of_iff
    (reaches timestamp.day = true ∧ timestamp.second < 86400 ∧
      timestamp.nano < 2000000000 ∧
      (1000000000 ≤ timestamp.nano → timestamp.second % 60 = 59))
    ⟨fun ⟨reached, second_lt, nano_lt, leap⟩ =>
      ⟨reached, second_lt, nano_lt, leap⟩, fun valid =>
        ⟨valid.reached, valid.second_lt, valid.nano_lt, valid.leap⟩⟩

/-- The days that timestamps reach. -/
theorem reaches_iff (day : Int) :
    reaches day = true ↔ -96465292 ≤ day ∧ day ≤ 95026236 := by
  have first : (Date.mk firstYear 1 1).toDays = -96465292 := by decide
  have last : (Date.mk lastYear 12 31).toDays = 95026236 := by decide
  simp [reaches, first, last]

/-- The milliseconds of a timestamp fit a signed whole number of 64 bits. -/
theorem Valid.toMillis_range {timestamp : Timestamp} (valid : timestamp.Valid) :
    -0x8000000000000000 ≤ timestamp.toMillis ∧
      timestamp.toMillis < 0x8000000000000000 := by
  have reached := (reaches_iff timestamp.day).mp valid.reached
  have second := valid.second_lt
  have nano := valid.nano_lt
  unfold toMillis
  omega

end EventRelay.Timestamp
