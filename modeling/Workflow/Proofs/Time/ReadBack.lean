import Mathlib.Data.List.TakeWhile
import Workflow.Proofs.Time.Calendar
import Workflow.Time.Reader

namespace Workflow

/-!
# Reading back the text of an instant

Every instant that is read from a text is sound: its day is one that dates can have, and only the
last second of a minute is ever a leap second.  The text of a sound instant, which is always written
in UTC, reads back as the same instant.

A number does not show where it ends, so it is said of each part that it is read back whatever
follows, as long as that begins with no digit.
-/

namespace Text

theorem toNat_of_isDigit {c : Char} (digit : c.isDigit = true) :
    48 ≤ c.toNat ∧ c.toNat ≤ 57 := by
  simpa [Char.isDigit, UInt32.le_iff_toNat_le] using digit

theorem isBlankChar_of_isDigit {c : Char} (digit : c.isDigit = true) :
    isBlankChar c = false := by
  have bounds := toNat_of_isDigit digit
  unfold isBlankChar
  simp only [Bool.or_eq_false_iff, Bool.and_eq_false_iff, decide_eq_false_iff_not,
    beq_eq_false_iff_ne]
  omega

theorem trimStart_cons {c : Char} (visible : isBlankChar c = false) (rest : List Char) :
    trimStart (c :: rest) = c :: rest :=
  List.dropWhile_cons_of_neg (by simp [visible])

end Text

namespace Instant

/-! ## Numbers -/

section Numbers

variable {ds rest : List Char} {c : Char}

theorem takeWhile_digits (all : ∀ d ∈ ds, d.isDigit = true) (noDigit : c.isDigit = false) :
    (ds ++ c :: rest).takeWhile Char.isDigit = ds := by
  rw [List.takeWhile_append_of_pos all, List.takeWhile_cons_of_neg (by simp [noDigit]),
    List.append_nil]

theorem dropWhile_digits (all : ∀ d ∈ ds, d.isDigit = true) (noDigit : c.isDigit = false) :
    (ds ++ c :: rest).dropWhile Char.isDigit = c :: rest := by
  rw [List.dropWhile_append_of_pos all, List.dropWhile_cons_of_neg (by simp [noDigit])]

/-- As many digits as there are before a mark are read, if so many are allowed. -/
theorem digits_append {most : Nat} (all : ∀ d ∈ ds, d.isDigit = true) (nonempty : ds ≠ [])
    (few : ds.length ≤ most) (noDigit : c.isDigit = false) :
    digits most (ds ++ c :: rest) = some (Nat.ofDigitChars 10 ds 0, c :: rest) := by
  unfold digits
  dsimp only
  rw [takeWhile_digits all noDigit, List.take_of_length_le few, List.drop_left,
    if_neg (by simpa using nonempty)]
  rfl

end Numbers

section Padded

variable {width n : Nat}

theorem toList_padded (width n : Nat) :
    (padded width n).toList =
      List.replicate (width - (Nat.toDigits 10 n).length) '0' ++ Nat.toDigits 10 n :=
  String.toList_ofList

theorem isDigit_of_mem_padded {c : Char} (member : c ∈ (padded width n).toList) :
    c.isDigit = true := by
  rw [toList_padded] at member
  rcases List.mem_append.mp member with zero | digit
  · obtain rfl := List.eq_of_mem_replicate zero
    rfl
  · exact Nat.isDigit_of_mem_toDigits (by decide) (by decide) digit

theorem padded_ne_nil : (padded width n).toList ≠ [] := by
  rw [toList_padded]
  exact List.append_ne_nil_of_right_ne_nil _ Nat.toDigits_ne_nil

/-- Zeros before a number do not change it. -/
theorem ofDigitChars_padded : Nat.ofDigitChars 10 (padded width n).toList 0 = n := by
  rw [toList_padded, Nat.ofDigitChars_append, Nat.ofDigitChars_replicate_zero, Nat.mul_zero,
    Nat.ofDigitChars_ten_toDigits]

theorem length_padded (positive : 0 < width) (few : n < Nat.pow 10 width) :
    (padded width n).toList.length = width := by
  have short : (Nat.toDigits 10 n).length ≤ width :=
    (Nat.length_toDigits_le_iff (by decide) positive).mpr few
  rw [toList_padded, List.length_append, List.length_replicate, Nat.sub_add_cancel short]

variable {most : Nat} {c : Char}

theorem digits_padded (few : (padded width n).toList.length ≤ most) (noDigit : c.isDigit = false)
    (rest : List Char) :
    digits most ((padded width n).toList ++ c :: rest) = some (n, c :: rest) := by
  rw [digits_append (fun _ member => isDigit_of_mem_padded member) padded_ne_nil few noDigit,
    ofDigitChars_padded]

/-- Nothing is passed over before a number. -/
theorem exists_trimStart_padded (width n : Nat) (rest : List Char) :
    ∃ d others, d.isDigit = true ∧ (padded width n).toList ++ rest = d :: others ∧
      Text.trimStart ((padded width n).toList ++ rest) = (padded width n).toList ++ rest := by
  cases written : (padded width n).toList with
  | nil => exact absurd written padded_ne_nil
  | cons d others =>
      have member : d ∈ (padded width n).toList := by
        rw [written]
        exact List.mem_cons_self
      have digit := isDigit_of_mem_padded member
      have visible := Text.isBlankChar_of_isDigit digit
      exact ⟨d, others ++ rest, digit, rfl, Text.trimStart_cons visible _⟩

/-- A number of two digits is read back. -/
theorem number_padded (few : n < 100) (noDigit : c.isDigit = false) (rest : List Char) :
    number 2 ((padded 2 n).toList ++ c :: rest) = some (n, c :: rest) := by
  have two : (padded 2 n).toList.length = 2 := length_padded (by decide) few
  rcases exists_trimStart_padded 2 n (c :: rest) with ⟨_, _, _, _, same⟩
  unfold number
  rw [same, digits_padded (Nat.le_of_eq two) noDigit]

end Padded

/-! ## Marks -/

theorem toList_minus : "-".toList = ['-'] := rfl

theorem toList_plus : "+".toList = ['+'] := rfl

theorem toList_colon : ":".toList = [':'] := rfl

theorem toList_point : ".".toList = ['.'] := rfl

theorem mark_cons {c : Char} (visible : Text.isBlankChar c = false) (rest : List Char) :
    mark c (c :: rest) = some rest := by
  unfold mark
  rw [Text.trimStart_cons visible]
  exact if_pos rfl

/-! ## Dates -/

/-- A year as it stands in a date. -/
def yearText (year : Int) : String :=
  if 0 ≤ year ∧ year ≤ 9999 then padded 4 year.toNat
  else (if year < 0 then "-" else "+") ++ padded 4 year.natAbs

section Years

variable {n : Nat} {after rest : List Char}

theorem yearNumber_minus (read : digits rest.length rest = some (n, after)) :
    yearNumber ('-' :: rest) = some (-(n : Int), after) := by
  change (digits rest.length rest).map _ = _
  rw [read]
  rfl

theorem yearNumber_plus (read : digits rest.length rest = some (n, after)) :
    yearNumber ('+' :: rest) = some ((n : Int), after) := by
  change (digits rest.length rest).map _ = _
  rw [read]
  rfl

theorem yearNumber_unsigned {d : Char} (digit : d.isDigit = true)
    (read : digits 4 (d :: rest) = some (n, after)) :
    yearNumber (d :: rest) = some ((n : Int), after) := by
  unfold yearNumber
  rw [Text.trimStart_cons (Text.isBlankChar_of_isDigit digit)]
  split
  · next same =>
    obtain rfl := (List.cons.inj same).1
    cases digit
  · next same =>
    obtain rfl := (List.cons.inj same).1
    cases digit
  · rw [read]
    rfl

end Years

theorem yearNumber_yearText (year : Int) {c : Char} (noDigit : c.isDigit = false)
    (rest : List Char) :
    yearNumber ((yearText year).toList ++ c :: rest) = some (year, c :: rest) := by
  unfold yearText
  by_cases plain : 0 ≤ year ∧ year ≤ 9999
  · have size : year.toNat < 10000 := by omega
    have four : (padded 4 year.toNat).toList.length = 4 := length_padded (by decide) size
    rcases exists_trimStart_padded 4 year.toNat (c :: rest) with ⟨d, others, digit, written, _⟩
    have read := digits_padded (Nat.le_of_eq four) noDigit rest
    rw [written] at read
    rw [if_pos plain, written, yearNumber_unsigned digit read, Int.toNat_of_nonneg plain.1]
  · -- A sign lifts the bound on the digits: there are no more than characters.
    have few : (padded 4 year.natAbs).toList.length ≤
        ((padded 4 year.natAbs).toList ++ c :: rest).length := by
      rw [List.length_append]
      exact Nat.le_add_right _ _
    have read := digits_padded few noDigit rest
    rw [if_neg plain, String.toList_append, List.append_assoc]
    by_cases negative : year < 0
    · have size : -(year.natAbs : Int) = year := by omega
      rw [if_pos negative, toList_minus, List.singleton_append, yearNumber_minus read, size]
    · have size : (year.natAbs : Int) = year := by omega
      rw [if_neg negative, toList_plus, List.singleton_append, yearNumber_plus read, size]

/-- The text of a date. -/
def writtenDate (date : Date) : String :=
  yearText date.year ++ "-" ++ padded 2 date.month ++ "-" ++ padded 2 date.day

theorem dateText_eq (i : Instant) : i.dateText = writtenDate (Date.ofDay i.day) := rfl

/-- A date that exists is read back. -/
theorem dateReader_writtenDate {date : Date} (valid : date.isValid = true) {c : Char}
    (noDigit : c.isDigit = false) (rest : List Char) :
    dateReader ((writtenDate date).toList ++ c :: rest) = some (date, c :: rest) := by
  rcases date with ⟨year, month, day⟩
  have parts := valid
  unfold Date.isValid at parts
  simp only [Bool.and_eq_true, decide_eq_true_eq] at parts
  have monthBound : month < 100 := by omega
  have dayBound : day < 100 := by
    have short := Date.daysInMonth_le year month
    omega
  have written : (writtenDate ⟨year, month, day⟩).toList ++ c :: rest = (yearText year).toList ++
      '-' :: ((padded 2 month).toList ++ '-' :: ((padded 2 day).toList ++ c :: rest)) := by
    unfold writtenDate
    simp only [String.toList_append, List.append_assoc, toList_minus, List.cons_append,
      List.nil_append]
  have dash : Text.isBlankChar '-' = false := rfl
  have minus : Char.isDigit '-' = false := rfl
  rw [written]
  unfold dateReader
  simp only [yearNumber_yearText _ minus, mark_cons dash, number_padded monthBound minus,
    number_padded dayBound noDigit, Option.bind_eq_bind, Option.bind_some]
  exact if_pos valid

/-! ## Times -/

/-- The nanoseconds as they stand in a time. -/
def fractionText (nano : Nat) : String :=
  if nano = 0 then ""
  else if nano % 1000000 = 0 then "." ++ padded 3 (nano / 1000000)
  else if nano % 1000 = 0 then "." ++ padded 6 (nano / 1000)
  else "." ++ padded 9 nano

section Fractions

variable {c : Char}

/-- Up to nine places are read as so many nanoseconds. -/
theorem fraction_padded {places n nano : Nat} (positive : 0 < places) (few : places ≤ 9)
    (bound : n < Nat.pow 10 places) (scaled : n * Nat.pow 10 (9 - places) = nano)
    (noDigit : c.isDigit = false) (rest : List Char) :
    fraction (("." ++ padded places n).toList ++ c :: rest) = some (nano, c :: rest) := by
  have all : ∀ d ∈ (padded places n).toList, d.isDigit = true :=
    fun _ member => isDigit_of_mem_padded member
  have length := length_padded positive bound
  have short : (padded places n).toList.length ≤ 9 := length.symm ▸ few
  have written : ("." ++ padded places n).toList ++ c :: rest =
      '.' :: ((padded places n).toList ++ c :: rest) := by
    rw [String.toList_append, List.append_assoc, toList_point, List.singleton_append]
  rw [written]
  unfold fraction
  simp only [takeWhile_digits all noDigit, dropWhile_digits all noDigit,
    List.take_of_length_le short, digits_padded short noDigit, length, Option.bind_eq_bind,
    Option.bind_some, scaled]

theorem fraction_fractionText {nano : Nat} (bound : nano < nanosPerSecond)
    (noDigit : c.isDigit = false) (noPoint : c ≠ '.') (rest : List Char) :
    fraction ((fractionText nano).toList ++ c :: rest) = some (nano, c :: rest) := by
  unfold nanosPerSecond at bound
  unfold fractionText
  by_cases none : nano = 0
  · rw [if_pos none, none]
    change fraction (c :: rest) = _
    unfold fraction
    split
    · next same => exact absurd (List.cons.inj same).1 noPoint
    · rfl
  by_cases millis : nano % 1000000 = 0
  · have scaled : nano / 1000000 * Nat.pow 10 (9 - 3) = nano :=
      Nat.div_mul_cancel (Nat.dvd_of_mod_eq_zero millis)
    have size : nano / 1000000 < 1000 := by omega
    rw [if_neg none, if_pos millis]
    exact fraction_padded (by decide) (by decide) size scaled noDigit rest
  by_cases micros : nano % 1000 = 0
  · have scaled : nano / 1000 * Nat.pow 10 (9 - 6) = nano :=
      Nat.div_mul_cancel (Nat.dvd_of_mod_eq_zero micros)
    have size : nano / 1000 < 1000000 := by omega
    rw [if_neg none, if_neg millis, if_pos micros]
    exact fraction_padded (by decide) (by decide) size scaled noDigit rest
  · rw [if_neg none, if_neg millis, if_neg micros]
    exact fraction_padded (by decide) (by decide) bound (Nat.mul_one nano) noDigit rest

/-- No digit follows the seconds, with a fraction or without. -/
theorem exists_fractionText (nano : Nat) (noDigit : c.isDigit = false) (rest : List Char) :
    ∃ d others, d.isDigit = false ∧ (fractionText nano).toList ++ c :: rest = d :: others := by
  have point : ∀ text : String, ∃ d others, d.isDigit = false ∧
      ("." ++ text).toList ++ c :: rest = d :: others := by
    intro text
    refine ⟨'.', text.toList ++ c :: rest, rfl, ?_⟩
    rw [String.toList_append, List.append_assoc, toList_point, List.singleton_append]
  unfold fractionText
  split
  · exact ⟨c, rest, noDigit, rfl⟩
  · split
    · exact point _
    · split <;> exact point _

end Fractions

/-- The text of a time of day. -/
def writtenTime (hour minute second nano : Nat) : String :=
  padded 2 hour ++ ":" ++ padded 2 minute ++ ":" ++ padded 2 second ++ fractionText nano

theorem timeText_eq (i : Instant) : i.timeText =
    writtenTime (i.second / 3600) (i.second / 60 % 60)
      (i.second % 60 + if nanosPerSecond ≤ i.nano then 1 else 0)
      (if nanosPerSecond ≤ i.nano then i.nano - nanosPerSecond else i.nano) := rfl

/-- A time of day is read back, a sixtieth second as a leap second. -/
theorem timeReader_writtenTime {hour minute second nano : Nat} (hours : hour ≤ 23)
    (minutes : minute ≤ 59) (seconds : second ≤ 60) (bound : nano < nanosPerSecond) {c : Char}
    (noDigit : c.isDigit = false) (noPoint : c ≠ '.') (rest : List Char) :
    timeReader ((writtenTime hour minute second nano).toList ++ c :: rest) =
      some (if second = 60 then (hour * 3600 + minute * 60 + 59, nano + nanosPerSecond)
        else (hour * 3600 + minute * 60 + second, nano), c :: rest) := by
  have written : (writtenTime hour minute second nano).toList ++ c :: rest =
      (padded 2 hour).toList ++ ':' :: ((padded 2 minute).toList ++ ':' ::
        ((padded 2 second).toList ++ ((fractionText nano).toList ++ c :: rest))) := by
    unfold writtenTime
    simp only [String.toList_append, List.append_assoc, toList_colon, List.cons_append,
      List.nil_append]
  have visible : Text.isBlankChar ':' = false := rfl
  have colon : Char.isDigit ':' = false := rfl
  have hourBound : hour < 100 := by omega
  have minuteBound : minute < 100 := by omega
  have secondBound : second < 100 := by omega
  have read := fraction_fractionText bound noDigit noPoint rest
  rcases exists_fractionText nano noDigit rest with ⟨d, others, ends, following⟩
  rw [following] at read
  rw [written, following]
  unfold timeReader
  simp only [number_padded hourBound colon, number_padded minuteBound colon,
    number_padded secondBound ends, mark_cons visible, read, Option.bind_eq_bind,
    Option.bind_some]
  rw [if_neg (by omega)]
  split <;> rfl

/-! ## Instants -/

/-- The day is one that dates can have, and only the last second of a minute is a leap second. -/
structure Sound (i : Instant) : Prop where
  low : Date.firstDay ≤ i.day
  high : i.day ≤ Date.lastDay
  second : i.second < 86400
  nano : i.nano < 2 * nanosPerSecond
  leap : nanosPerSecond ≤ i.nano → i.second % 60 = 59

/-! ### What is read is sound -/

theorem ofDigitChars_lt {ds : List Char} (all : ∀ d ∈ ds, d.isDigit = true) {start places : Nat}
    (bound : start < Nat.pow 10 places) :
    Nat.ofDigitChars 10 ds start < Nat.pow 10 (places + ds.length) := by
  induction ds generalizing start places with
  | nil => exact bound
  | cons d others inductionHypothesis =>
      have digit := Text.toNat_of_isDigit (all d List.mem_cons_self)
      have next : 10 * start + (d.toNat - '0'.toNat) < Nat.pow 10 (places + 1) := by
        have zero : '0'.toNat = 48 := rfl
        change _ < Nat.pow 10 places * 10
        rw [zero]
        omega
      rw [Nat.ofDigitChars_cons, List.length_cons, Nat.add_comm others.length, ← Nat.add_assoc]
      exact inductionHypothesis (fun e member => all e (List.mem_cons_of_mem _ member)) next

theorem lt_of_digits {most : Nat} {cs rest : List Char} {n : Nat}
    (read : digits most cs = some (n, rest)) :
    n < Nat.pow 10 ((cs.takeWhile Char.isDigit).take most).length := by
  have all : ∀ d ∈ (cs.takeWhile Char.isDigit).take most, d.isDigit = true :=
    fun d member => List.mem_takeWhile_imp (List.mem_of_mem_take member)
  have none : 0 < Nat.pow 10 0 := by decide
  have bound := ofDigitChars_lt all none
  unfold digits at read
  dsimp only at read
  split at read
  · cases read
  · obtain ⟨rfl, _⟩ := Prod.mk.inj (Option.some.inj read)
    rwa [Nat.zero_add] at bound

/-- A fraction is less than a second. -/
theorem lt_of_fraction {cs rest : List Char} {nano : Nat} (read : fraction cs = some (nano, rest)) :
    nano < nanosPerSecond := by
  unfold fraction at read
  split at read
  · next places =>
    rcases Option.bind_eq_some_iff.mp read with ⟨⟨n, after⟩, number, scaled⟩
    obtain ⟨rfl, rfl⟩ := Prod.mk.inj (Option.some.inj scaled)
    have bound := lt_of_digits number
    have few : ((places.takeWhile Char.isDigit).take 9).length ≤ 9 := List.length_take_le _ _
    calc
      n * Nat.pow 10 (9 - ((places.takeWhile Char.isDigit).take 9).length)
        < Nat.pow 10 ((places.takeWhile Char.isDigit).take 9).length *
            Nat.pow 10 (9 - ((places.takeWhile Char.isDigit).take 9).length) :=
          Nat.mul_lt_mul_of_pos_right bound (Nat.pow_pos (by decide))
      _ = Nat.pow 10 9 := by
          refine (Nat.pow_add _ _ _).symm.trans ?_
          rw [Nat.add_sub_cancel' few]
  · obtain ⟨rfl, rfl⟩ := Prod.mk.inj (Option.some.inj read)
    decide

theorem bounds_of_timeReader {cs rest : List Char} {second nano : Nat}
    (read : timeReader cs = some ((second, nano), rest)) :
    second < 86400 ∧ nano < 2 * nanosPerSecond ∧ (nanosPerSecond ≤ nano → second % 60 = 59) := by
  unfold timeReader at read
  rcases Option.bind_eq_some_iff.mp read with ⟨⟨hour, _⟩, _, read⟩
  rcases Option.bind_eq_some_iff.mp read with ⟨_, _, read⟩
  rcases Option.bind_eq_some_iff.mp read with ⟨⟨minute, _⟩, _, read⟩
  rcases Option.bind_eq_some_iff.mp read with ⟨_, _, read⟩
  rcases Option.bind_eq_some_iff.mp read with ⟨⟨last, _⟩, _, read⟩
  rcases Option.bind_eq_some_iff.mp read with ⟨⟨part, _⟩, fractionRead, read⟩
  have bound := lt_of_fraction fractionRead
  dsimp only at read
  split at read
  · cases read
  split at read
  · obtain ⟨same, _⟩ := Prod.mk.inj (Option.some.inj read)
    obtain ⟨rfl, rfl⟩ := Prod.mk.inj same
    omega
  · obtain ⟨same, _⟩ := Prod.mk.inj (Option.some.inj read)
    obtain ⟨rfl, rfl⟩ := Prod.mk.inj same
    omega

/-- An offset from UTC is one of whole minutes. -/
theorem minutes_of_offsetReader {cs rest : List Char} {offset : Int}
    (read : offsetReader cs = some (offset, rest)) : offset % 60 = 0 := by
  unfold offsetReader at read
  dsimp only at read
  split at read
  · obtain ⟨rfl, _⟩ := Prod.mk.inj (Option.some.inj read)
    rfl
  · split_ifs at read
    all_goals
      rcases Option.bind_eq_some_iff.mp read with ⟨direction, _, read⟩
      rcases Option.bind_eq_some_iff.mp read with ⟨⟨hours, _⟩, _, read⟩
      rcases Option.bind_eq_some_iff.mp read with ⟨⟨minutes, _⟩, _, read⟩
      dsimp only at read
      split at read
      · cases read
      · obtain ⟨rfl, _⟩ := Prod.mk.inj (Option.some.inj read)
        have whole : (60 : Int) ∣ ((hours * 3600 + minutes * 60 : Nat) : Int) := by omega
        exact Int.emod_eq_zero_of_dvd (Int.dvd_mul_of_dvd_right whole)
  · cases read

/-- Whatever is read is sound. -/
theorem sound_of_ofText? {text : String} {i : Instant} (read : ofText? text = some i) :
    i.Sound := by
  unfold ofText? at read
  rcases Option.bind_eq_some_iff.mp read with ⟨⟨date, _⟩, _, read⟩
  rcases Option.bind_eq_some_iff.mp read with ⟨_, _, read⟩
  rcases Option.bind_eq_some_iff.mp read with ⟨⟨⟨second, nano⟩, _⟩, time, read⟩
  rcases Option.bind_eq_some_iff.mp read with ⟨⟨offset, _⟩, zone, read⟩
  have ⟨secondBound, nanoBound, leap⟩ := bounds_of_timeReader time
  have minutes := minutes_of_offsetReader zone
  dsimp only at read
  split at read
  · next within =>
    obtain rfl := Option.some.inj read
    refine ⟨within.2.1, within.2.2, ?_, nanoBound, fun late => ?_⟩
    · dsimp only
      omega
    · have last := leap late
      dsimp only
      omega
  · cases read

/-! ### What is written is read -/

theorem timeReader_timeText {i : Instant} (sound : i.Sound) {c : Char} (noDigit : c.isDigit = false)
    (noPoint : c ≠ '.') (rest : List Char) :
    timeReader (i.timeText.toList ++ c :: rest) = some ((i.second, i.nano), c :: rest) := by
  have second := sound.second
  have nano := sound.nano
  have hours : i.second / 3600 ≤ 23 := by omega
  have minutes : i.second / 60 % 60 ≤ 59 := by omega
  rw [timeText_eq]
  by_cases leap : nanosPerSecond ≤ i.nano
  · have last := sound.leap leap
    rw [if_pos leap, if_pos leap, last, timeReader_writtenTime hours minutes (Nat.le_refl 60)
      (by omega) noDigit noPoint, if_pos rfl]
    have whole : i.second / 3600 * 3600 + i.second / 60 % 60 * 60 + 59 = i.second := by omega
    rw [whole, Nat.sub_add_cancel leap]
  · rw [if_neg leap, if_neg leap, timeReader_writtenTime hours minutes (by omega) (by omega)
      noDigit noPoint, if_neg (by omega)]
    have whole : i.second / 3600 * 3600 + i.second / 60 % 60 * 60 + (i.second % 60 + 0) =
        i.second := by omega
    rw [whole]

/-- The text of a sound instant is read as the instant. -/
theorem ofText?_toText {i : Instant} (sound : i.Sound) : ofText? i.toText = some i := by
  have second := sound.second
  have written : i.toText.toList =
      (writtenDate (Date.ofDay i.day)).toList ++ 'T' :: (i.timeText.toList ++ ['Z']) := by
    have mark : "T".toList = ['T'] := rfl
    have zone : "Z".toList = ['Z'] := rfl
    unfold toText
    rw [dateText_eq]
    simp only [String.toList_append, List.append_assoc, mark, zone, List.cons_append,
      List.nil_append]
  have date := dateReader_writtenDate (Date.isValid_ofDay sound.low sound.high) (c := 'T') rfl
    (i.timeText.toList ++ ['Z'])
  have time := timeReader_timeText sound (c := 'Z') rfl (by decide) []
  have between : ∀ rest, separator ('T' :: rest) = some rest := fun rest => rfl
  have utc : offsetReader ['Z'] = some (0, []) := rfl
  unfold ofText?
  rw [written]
  simp only [date, between, time, utc, Date.toDay_ofDay, Option.bind_eq_bind, Option.bind_some]
  have day : (i.day * 86400 + i.second - 0) / 86400 = i.day := by omega
  have rest : ((i.day * 86400 + i.second - 0) % 86400).toNat = i.second := by omega
  rw [day, rest]
  exact if_pos ⟨rfl, sound.low, sound.high⟩

/-- The sound instants are those that read back. -/
theorem ofText?_toText_iff (i : Instant) : ofText? i.toText = some i ↔ i.Sound := by
  constructor
  · exact sound_of_ofText?
  · exact ofText?_toText

end Instant

end Workflow
