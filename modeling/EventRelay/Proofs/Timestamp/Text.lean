import EventRelay.Proofs.Calendar
import EventRelay.Proofs.Number.Digits
import EventRelay.Proofs.Timestamp

/-!
# Written timestamps read again

Every timestamp that is read from a text could have been shown by a clock, and
the written form of such a timestamp is read as itself.
-/

namespace EventRelay.Timestamp

open EventRelay.Text EventRelay.Number

/-! ## Digits of a fixed width -/

theorem isDigit_paddedDigits {count value : Nat} {char : Char}
    (member : char ∈ paddedDigits count value) : char.isDigit = true := by
  induction count generalizing value with
  | zero => cases member
  | succ count induction =>
      rcases List.mem_append.mp member with earlier | last
      · exact induction earlier
      · rw [List.mem_singleton.mp last]
        simp [Nat.mod_lt]

theorem length_paddedDigits (count value : Nat) :
    (paddedDigits count value).length = count := by
  induction count generalizing value with
  | zero => rfl
  | succ count induction =>
      rw [paddedDigits, List.length_append, induction, List.length_singleton]

theorem digitsValue_paddedDigits (count value : Nat) :
    digitsValue (paddedDigits count value) 0 = value % Nat.pow 10 count := by
  induction count generalizing value with
  | zero => exact (Nat.mod_one value).symm
  | succ count induction =>
      have last : digitValue (Nat.digitChar (value % 10)) = value % 10 := by
        unfold digitValue
        rw [Nat.toNat_digitChar_of_lt_ten (Nat.mod_lt value (by decide))]
        exact Nat.add_sub_cancel_left (n := 48) (m := value % 10)
      rw [paddedDigits, digitsValue_append, induction]
      show value / 10 % Nat.pow 10 count * 10 +
        digitValue (Nat.digitChar (value % 10)) = _
      rw [last]
      show _ = value % Nat.pow 10 count.succ
      rw [show Nat.pow 10 count.succ = 10 * Nat.pow 10 count from Nat.pow_succ',
        Nat.mod_mul]
      omega

/-- Digits are read up to their number, or up to where no digit follows. -/
theorem readDigits?_append
    {most : Nat} {digits rest : List Char} (nonempty : digits ≠ [])
    (decimal : ∀ char ∈ digits, char.isDigit = true)
    (bounded : digits.length = most ∨ (digits.length ≤ most ∧ Stops rest)) :
    readDigits? most (digits ++ rest) = some (digitsValue digits 0, rest) := by
  have stops : Stops (rest.take (most - digits.length)) := by
    rcases bounded with same | ⟨_, stops⟩
    · rw [same, Nat.sub_self, List.take_zero]
      exact stops_nil
    · intro char member
      rw [List.head?_take] at member
      split at member
      · cases member
      · exact stops char member
  have enough : digits.length ≤ most := by
    rcases bounded with same | ⟨few, _⟩
    · exact Nat.le_of_eq same
    · exact few
  have taken :
      ((digits ++ rest).take most).takeWhile Char.isDigit = digits := by
    rw [List.take_append, List.take_of_length_le enough]
    exact congrArg Prod.fst (spanDigits_append decimal stops)
  unfold readDigits?
  rw [taken]
  dsimp only
  rw [if_neg (by simpa using nonempty), List.drop_left]

theorem isBlank_of_isDigit {char : Char} (digit : char.isDigit = true) :
    isBlank char = false := by
  have range : 48 ≤ char.toNat ∧ char.toNat ≤ 57 := by
    simp only [Char.isDigit, Bool.and_eq_true, decide_eq_true_eq, ge_iff_le,
      UInt32.le_iff_toNat_le] at digit
    exact digit
  unfold isBlank
  simp
  omega

/-! ## The parts of a timestamp -/

theorem paddedDigits_cons (count value : Nat) :
    ∃ first rest,
      paddedDigits (count + 1) value = first :: rest ∧
        first.isDigit = true := by
  have long := length_paddedDigits (count + 1) value
  cases spelled : paddedDigits (count + 1) value with
  | nil =>
      rw [spelled] at long
      cases long
  | cons first rest =>
      exact ⟨first, rest, rfl, isDigit_paddedDigits
        (spelled ▸ List.mem_cons_self)⟩

/-- Padded digits are read as their value, and no blank stands before them. -/
theorem readDigits?_padded
    {count value : Nat} (small : value < Nat.pow 10 (count + 1))
    (rest : List Char) :
    readDigits? (count + 1)
        (trimStart (paddedDigits (count + 1) value ++ rest)) =
      some (value, rest) := by
  obtain ⟨first, others, spelled, digit⟩ := paddedDigits_cons count value
  have trimmed : trimStart (paddedDigits (count + 1) value ++ rest) =
      paddedDigits (count + 1) value ++ rest := by
    rw [spelled]
    exact trimStart_cons (isBlank_of_isDigit digit) _
  have nonempty : paddedDigits (count + 1) value ≠ [] := by
    rw [spelled]
    exact List.cons_ne_nil first others
  rw [trimmed, readDigits?_append nonempty (fun _ => isDigit_paddedDigits)
    (.inl (length_paddedDigits _ _)), digitsValue_paddedDigits,
      Nat.mod_eq_of_lt small]

theorem readShort?_padded
    {value : Nat} (small : value < 100) (rest : List Char) :
    readShort? (paddedDigits 2 value ++ rest) = some (value, rest) :=
  readDigits?_padded small rest

theorem readMark?_cons
    {mark : Char} (visible : isBlank mark = false) (rest : List Char) :
    readMark? mark (mark :: rest) = some rest := by
  unfold readMark?
  rw [trimStart_cons visible]
  exact if_pos rfl

/-- The digits of a year that needs a sign. -/
theorem readDigits?_year (year : Nat) (rest : List Char) :
    readDigits? (List.replicate (4 - (Nat.toDigits 10 year).length) '0' ++
      Nat.toDigits 10 year ++ '-' ::
      rest).length (List.replicate (4 - (Nat.toDigits 10 year).length) '0' ++
        Nat.toDigits 10 year ++ '-' :: rest) =
      some (year, '-' :: rest) := by
  obtain ⟨first, others, spelled, _⟩ := toDigits_cons year
  rw [readDigits?_append]
  · rw [digitsValue_append, digitsValue_zeros, Nat.zero_mul,
      digitsValue_toDigits]
  · simp [spelled]
  · intro char member
    rcases List.mem_append.mp member with zero | digit
    · rw [(List.mem_replicate.mp zero).2]
      rfl
    · exact isDigit_toDigits digit
  · right
    refine ⟨?_, stops_cons rfl rest⟩
    exact (List.sublist_append_left _ _).length_le

theorem readYear?_yearText (year : Int) (rest : List Char) :
    readYear? (yearText year ++ '-' :: rest) = some (year, '-' :: rest) := by
  unfold yearText
  split
  · next plain =>
      obtain ⟨first, others, spelled, digit⟩ := paddedDigits_cons 3 year.toNat
      have small : year.toNat < Nat.pow 10 (3 + 1) := by
        show year.toNat < 10000
        omega
      have read := readDigits?_padded small ('-' :: rest)
      have unsigned : readYear? (paddedDigits 4 year.toNat ++ '-' :: rest) =
          (readDigits? 4 (trimStart (paddedDigits 4 year.toNat ++ '-' ::
            rest))).map fun result => ((result.1 : Int), result.2) := by
        unfold readYear?
        rw [spelled, List.cons_append,
          trimStart_cons (isBlank_of_isDigit digit)]
        split
        · next same =>
            rw [(List.cons.inj same).1] at digit
            cases digit
        · next same =>
            rw [(List.cons.inj same).1] at digit
            cases digit
        · rfl
      rw [unsigned, read]
      show some ((year.toNat : Int), '-' :: rest) = _
      rw [Int.toNat_of_nonneg plain.1]
  · have read := readDigits?_year year.natAbs rest
    by_cases below : year < 0
    · rw [if_pos below, List.cons_append]
      show (readDigits? _ _).map _ = _
      rw [read]
      show some (-(year.natAbs : Int), '-' :: rest) = _
      rw [← Int.eq_neg_natAbs_of_nonpos (Int.le_of_lt below)]
    · rw [if_neg below, List.cons_append]
      show (readDigits? _ _).map _ = _
      rw [read]
      show some ((year.natAbs : Int), '-' :: rest) = _
      rw [Int.natAbs_of_nonneg (Int.not_lt.mp below)]

/-- A date that exists in a year that timestamps reach is read as itself. -/
theorem readDate?_written
    {date : Date} (valid : date.isValid = true) (low : firstYear ≤ date.year)
    (high : date.year ≤ lastYear) (rest : List Char) :
    readDate? (yearText date.year ++ '-' :: (paddedDigits 2 date.month ++
      '-' :: (paddedDigits 2 date.day ++ rest))) = some (date, rest) := by
  obtain ⟨year, month, day⟩ := date
  have parts :
      (1 ≤ month ∧ month ≤ 12) ∧ 1 ≤ day ∧
        day ≤ Date.daysInMonth year month := by
    simpa [Date.isValid, and_assoc] using valid
  have month31 : Date.daysInMonth year month ≤ 31 := by
    unfold Date.daysInMonth
    split
    · split
      · decide
      · decide
    · split
      · decide
      · decide
  unfold readDate?
  simp only [Option.bind_eq_bind]
  rw [readYear?_yearText, Option.bind_some]
  dsimp only
  rw [readMark?_cons (by decide), Option.bind_some,
      readShort?_padded (by omega),
    Option.bind_some]
  dsimp only
  rw [readMark?_cons (by decide), Option.bind_some,
      readShort?_padded (by omega),
    Option.bind_some]
  exact if_pos ⟨valid, low, high⟩

theorem readPlaces?_padded
    {count value : Nat} (small : value < Nat.pow 10 (count + 1))
    (few : count < 9) :
    readPlaces? ('.' :: paddedDigits (count + 1) value ++ ['Z']) =
      some (value * Nat.pow 10 (9 - (count + 1)), ['Z']) := by
  have long := length_paddedDigits (count + 1) value
  have decimal : ∀ char ∈ paddedDigits (count + 1) value, char.isDigit = true :=
    fun _ => isDigit_paddedDigits
  have scanned :
      (paddedDigits (count + 1) value ++ ['Z']).takeWhile Char.isDigit =
        paddedDigits (count + 1) value :=
    congrArg Prod.fst (spanDigits_append decimal (stops_cons rfl []))
  have spelled := digitsValue_paddedDigits (count + 1) value
  rw [Nat.mod_eq_of_lt small] at spelled
  have nonempty : (paddedDigits (count + 1) value).isEmpty = false := by
    obtain ⟨first, others, written, _⟩ := paddedDigits_cons count value
    rw [written]
    rfl
  have opened : ∀ rest, readPlaces? ('.' :: rest) =
      if (rest.takeWhile Char.isDigit).isEmpty then none
      else some (digitsValue ((rest.takeWhile Char.isDigit).take 9) 0 *
        Nat.pow 10 (9 - ((rest.takeWhile Char.isDigit).take 9).length),
          rest.drop (rest.takeWhile Char.isDigit).length) := fun _ => rfl
  rw [List.cons_append, opened, scanned, List.take_of_length_le (by omega),
      nonempty,
    if_neg Bool.false_ne_true, List.drop_left, long, spelled]

/-- As few places as lose nothing are read as all of them. -/
theorem readPlaces?_placesText {nano : Nat} (small : nano < 1000000000) :
    readPlaces? (placesText nano ++ ['Z']) = some (nano, ['Z']) := by
  unfold placesText
  split
  · next whole =>
      rw [whole]
      rfl
  · split
    · next thousandths =>
        rw [readPlaces?_padded (by show _ < 1000; omega) (by decide)]
        show some (nano / 1000000 * 1000000, ['Z']) = _
        rw [Nat.div_mul_cancel (Nat.dvd_of_mod_eq_zero thousandths)]
    · split
      · next millionths =>
          rw [readPlaces?_padded (by show _ < 1000000; omega) (by decide)]
          show some (nano / 1000 * 1000, ['Z']) = _
          rw [Nat.div_mul_cancel (Nat.dvd_of_mod_eq_zero millionths)]
      · rw [readPlaces?_padded (by show _ < 1000000000; omega) (by decide)]
        show some (nano * 1, ['Z']) = _
        rw [Nat.mul_one]

/-- The time of day is read as itself, also inside a leap second. -/
theorem readTime?_written {timestamp : Timestamp} (valid : timestamp.Valid) :
    readTime? (paddedDigits 2 (timestamp.second / 3600) ++ ':' ::
      (paddedDigits 2 (timestamp.second / 60 % 60) ++ ':' ::
        (paddedDigits 2 (timestamp.second % 60 + timestamp.nano / 1000000000) ++
          (placesText (timestamp.nano % 1000000000) ++ ['Z'])))) =
      some (timestamp.second, timestamp.nano, ['Z']) := by
  obtain ⟨_, second, nano, leap⟩ := valid
  unfold readTime?
  simp only [Option.bind_eq_bind]
  rw [readShort?_padded (by omega), Option.bind_some]
  dsimp only
  rw [readMark?_cons (by decide), Option.bind_some,
    readShort?_padded (by omega), Option.bind_some]
  dsimp only
  rw [readMark?_cons (by decide), Option.bind_some,
    readShort?_padded (by omega), Option.bind_some]
  dsimp only
  rw [readPlaces?_placesText (Nat.mod_lt _ (by decide)), Option.bind_some]
  dsimp only
  rw [if_pos (by omega)]
  by_cases prolonged : 1000000000 ≤ timestamp.nano
  · have last := leap prolonged
    have minute : timestamp.second / 3600 * 3600 +
        timestamp.second / 60 % 60 * 60 + 59 =
        timestamp.second := by omega
    have whole : 1000000000 + timestamp.nano % 1000000000 =
      timestamp.nano := by omega
    rw [if_pos (by omega), minute, whole]
  · have minute : timestamp.second / 3600 * 3600 +
        timestamp.second / 60 % 60 * 60 +
        (timestamp.second % 60 + timestamp.nano / 1000000000) =
          timestamp.second := by omega
    have whole : timestamp.nano % 1000000000 = timestamp.nano := by omega
    rw [if_neg (by omega), minute, whole]

/-- The written form of a timestamp that a clock shows is read as itself. -/
theorem parse?_toText {timestamp : Timestamp} (valid : timestamp.Valid) :
    parse? timestamp.toText = some timestamp := by
  have reached := (reaches_iff timestamp.day).mp valid.reached
  obtain ⟨low, high⟩ := Date.year_bounds reached.1 reached.2
  have written : timestamp.toText.toList =
      yearText (Date.ofDays timestamp.day).year ++
        '-' :: (paddedDigits 2 (Date.ofDays timestamp.day).month ++
          '-' :: (paddedDigits 2 (Date.ofDays timestamp.day).day ++
            'T' :: (paddedDigits 2 (timestamp.second / 3600) ++
              ':' :: (paddedDigits 2 (timestamp.second / 60 % 60) ++
                ':' :: (paddedDigits 2
                    (timestamp.second % 60 + timestamp.nano / 1000000000) ++
                  (placesText (timestamp.nano % 1000000000) ++
                    ['Z'])))))) := by
    simp [toText]
  have second := valid.second_lt
  have early : Int.fdiv ((timestamp.second : Int) - 0) 86400 = 0 := by
    rw [Int.fdiv_eq_ediv_of_nonneg _ (by decide)]
    omega
  have rest :
      (Int.fmod ((timestamp.second : Int) - 0) 86400).toNat =
        timestamp.second := by
    rw [Int.fmod_eq_emod_of_nonneg _ (by decide)]
    omega
  unfold parse?
  simp only [Option.bind_eq_bind]
  rw [written, readDate?_written (Date.isValid_ofDays timestamp.day) low high,
    Option.bind_some]
  dsimp only
  rw [if_pos (.inl rfl), Option.bind_some, readTime?_written valid,
    Option.bind_some]
  dsimp only
  rw [show readZone? (trimStart ['Z']) = some (0, [])
    by decide, Option.bind_some]
  dsimp only
  rw [early, rest, Date.toDays_ofDays, Int.add_zero,
    if_pos ⟨rfl, valid.reached⟩]

/-! ## Timestamps that were read -/

theorem readPlaces?_lt {input rest : List Char} {nano : Nat}
    (read : readPlaces? input = some (nano, rest)) : nano < 1000000000 := by
  unfold readPlaces? at read
  split at read
  · next after =>
      dsimp only at read
      split at read
      · cases read
      · cases read
        have decimal :
            ∀ char ∈ (after.takeWhile Char.isDigit).take 9,
              char.isDigit = true :=
          fun char member =>
            List.all_eq_true.mp List.all_takeWhile char
              (List.mem_of_mem_take member)
        have few : ((after.takeWhile Char.isDigit).take 9).length ≤ 9 :=
          List.length_take_le _ _
        have bound := digitsValue_lt decimal 0
        generalize (after.takeWhile Char.isDigit).take 9 = kept at few bound ⊢
        rw [Nat.zero_add, Nat.one_mul] at bound
        calc digitsValue kept 0 * Nat.pow 10 (9 - kept.length)
            < Nat.pow 10 kept.length * Nat.pow 10 (9 - kept.length) :=
              Nat.mul_lt_mul_of_pos_right bound (Nat.pow_pos (by decide))
          _ = Nat.pow 10 (kept.length + (9 - kept.length)) :=
            (Nat.pow_add 10 _ _).symm
          _ = Nat.pow 10 9 := congrArg (Nat.pow 10) (Nat.add_sub_cancel' few)
  · cases read
    decide

theorem readTime?_bounds {input rest : List Char} {second nano : Nat}
    (read : readTime? input = some (second, nano, rest)) :
    nano < 2000000000 ∧ (1000000000 ≤ nano → second % 60 = 59) := by
  unfold readTime? at read
  simp only [Option.bind_eq_bind] at read
  obtain ⟨⟨hour, input⟩, _, read⟩ := Option.bind_eq_some_iff.mp read
  obtain ⟨input, _, read⟩ := Option.bind_eq_some_iff.mp read
  obtain ⟨⟨minute, input⟩, _, read⟩ := Option.bind_eq_some_iff.mp read
  obtain ⟨input, _, read⟩ := Option.bind_eq_some_iff.mp read
  obtain ⟨⟨last, input⟩, _, read⟩ := Option.bind_eq_some_iff.mp read
  obtain ⟨⟨places, input⟩, small, read⟩ := Option.bind_eq_some_iff.mp read
  have bound := readPlaces?_lt small
  dsimp only at read
  split at read
  · split at read
    · cases read
      omega
    · cases read
      omega
  · cases read

theorem readOffset?_minutes {input rest : List Char} {offset : Int}
    (read : readOffset? input = some (offset, rest)) : offset % 60 = 0 := by
  unfold readOffset? at read
  simp only [Option.bind_eq_bind] at read
  obtain ⟨⟨hours, input⟩, _, read⟩ := Option.bind_eq_some_iff.mp read
  obtain ⟨⟨minutes, input⟩, _, read⟩ := Option.bind_eq_some_iff.mp read
  dsimp only at read
  split at read
  · cases read
    omega
  · cases read

theorem readZone?_minutes {input rest : List Char} {offset : Int}
    (read : readZone? input = some (offset, rest)) : offset % 60 = 0 := by
  have negated :
      ∀ input,
        (readOffset? input).map (fun result => (-result.1, result.2)) =
          some (offset, rest) →
          offset % 60 = 0 := by
    intro input back
    obtain ⟨⟨forward, after⟩, inner, same⟩ := Option.map_eq_some_iff.mp back
    have minutes := readOffset?_minutes inner
    cases same
    omega
  unfold readZone? at read
  split at read
  · cases read
    rfl
  · split at read
    · cases read
      rfl
    · cases read
      rfl
    · exact readOffset?_minutes read
    · exact negated _ read
    · exact negated _ read
    · cases read

/-- A timestamp that was read is one that a clock can show. -/
theorem valid_of_parse? {text : String} {timestamp : Timestamp}
    (read : parse? text = some timestamp) : timestamp.Valid := by
  unfold parse? at read
  simp only [Option.bind_eq_bind] at read
  obtain ⟨⟨date, input⟩, _, read⟩ := Option.bind_eq_some_iff.mp read
  dsimp only at read
  split at read
  case h_2 => cases read
  split at read
  case isFalse => cases read
  rw [Option.bind_some] at read
  obtain ⟨⟨second, nano, input⟩, time, read⟩ := Option.bind_eq_some_iff.mp read
  obtain ⟨⟨offset, input⟩, zone, read⟩ := Option.bind_eq_some_iff.mp read
  obtain ⟨nanoBound, leap⟩ := readTime?_bounds time
  have minutes := readZone?_minutes zone
  dsimp only at read
  split at read
  · next reached =>
      cases read
      have remainder : Int.fmod ((second : Int) - offset) 86400 =
          ((second : Int) - offset) % 86400 :=
            Int.fmod_eq_emod_of_nonneg _ (by decide)
      refine ⟨reached.2, ?_, nanoBound, ?_⟩
      · show (Int.fmod ((second : Int) - offset) 86400).toNat < 86400
        rw [remainder]
        omega
      · intro prolonged
        have last := leap prolonged
        show (Int.fmod ((second : Int) - offset) 86400).toNat % 60 = 59
        rw [remainder]
        omega
  · cases read

end EventRelay.Timestamp
