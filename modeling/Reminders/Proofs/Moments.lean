import Reminders.Proofs.Calendar
import Reminders.Proofs.Digits
import Reminders.Time.Written

/-!
# Written date times are read back

Every number of a written date time fills its width, except that a year may be longer, and
then it has a sign in front and a mark behind it.  So each number is read whole, whatever
follows it (`number?_padded`, `year?_yearChars`).  A fraction stands at the end, and its digits
count from the left (`fraction?_padded`).  A leap second is written as the second 60 and read
as one (`TimeOfDay.ofWritten?_parts`).

`DateTime.read?_text` holds of every date time, from the first to the last.
-/

namespace Reminders

/-! ## Numbers and marks -/

theorem isSpace_of_isDigit {c : Char} (h : c.isDigit = true) : Text.isSpace c = false := by
  simp only [Char.isDigit, Bool.and_eq_true, decide_eq_true_eq, UInt32.le_iff_toNat_le] at h
  have hlow : 48 ≤ c.toNat := h.1
  have hhigh : c.toNat ≤ 57 := h.2
  simp [Text.isSpace]
  omega

theorem skipSpace_cons {c : Char} (h : Text.isSpace c = false) (rest : List Char) :
    Text.skipSpace (c :: rest) = c :: rest := by
  rw [Text.skipSpace, List.dropWhile_cons_of_neg (by simp [h])]

/-- A written number starts with a digit. -/
theorem isDigit_of_padded_eq_cons {width n : Nat} {rest cs : List Char} {c : Char}
    (h : Text.padded width n ++ rest = c :: cs) : c.isDigit = true := by
  rcases List.append_eq_cons_iff.1 h with ⟨hnil, -⟩ | ⟨ds, hds, -⟩
  · exact absurd hnil (Text.padded_ne_nil width n)
  · have hmem : c ∈ Text.padded width n := by simp [hds]
    exact Text.isDigit_of_mem_padded hmem

theorem skipSpace_padded (width n : Nat) (rest : List Char) :
    Text.skipSpace (Text.padded width n ++ rest) = Text.padded width n ++ rest := by
  cases hcs : Text.padded width n ++ rest with
  | nil => rfl
  | cons c cs => exact skipSpace_cons (isSpace_of_isDigit (isDigit_of_padded_eq_cons hcs)) cs

theorem takeWhile_padded (width n : Nat) :
    (Text.padded width n).takeWhile Char.isDigit = Text.padded width n :=
  List.takeWhile_eq_self_iff.2 fun _ => Text.isDigit_of_mem_padded

/-- A number that fills its width is read, whatever follows it. -/
theorem number?_padded {width n : Nat} (hpos : 0 < width) (h : n < 10 ^ width)
    (rest : List Char) : number? width (Text.padded width n ++ rest) = some (n, rest) := by
  have hlength := Text.length_padded hpos h
  rw [number?, skipSpace_padded, List.take_left' hlength, takeWhile_padded]
  simp [Text.padded_ne_nil, Text.valueOf_padded]

theorem mark?_cons {mark : Char} (h : Text.isSpace mark = false) (rest : List Char) :
    mark? mark (mark :: rest) = some rest := by
  rw [mark?, skipSpace_cons h]
  exact if_pos rfl

/-- A padded number is read up to where its digits end. -/
theorem digitRun?_padded (width n : Nat) {rest : List Char}
    (hrest : ∀ c ∈ rest.head?, c.isDigit = false) :
    digitRun? (Text.padded width n ++ rest) = some (n, rest) := by
  obtain ⟨htake, hdrop⟩ := Text.span_append (Text.padded width n) rest
    (fun _ => Text.isDigit_of_mem_padded) hrest
  rw [digitRun?, htake, hdrop]
  simp [Text.padded_ne_nil, Text.valueOf_padded]

/-! ## Years -/

/-- A year is read up to the next mark. -/
theorem year?_yearChars (year : Int) {rest : List Char}
    (hrest : ∀ c ∈ rest.head?, c.isDigit = false) :
    year? (yearChars year ++ rest) = some (year, rest) := by
  rw [yearChars]
  split
  case isTrue h =>
    have hvalue : Int.ofNat year.toNat = year := Int.toNat_of_nonneg h.1
    rw [year?, skipSpace_padded]
    split
    case h_1 heq => exact absurd (isDigit_of_padded_eq_cons heq) (by decide)
    case h_2 heq => exact absurd (isDigit_of_padded_eq_cons heq) (by decide)
    case h_3 =>
      rw [number?_padded (by decide) (by omega)]
      exact congrArg (fun year => some (year, rest)) hvalue
  case isFalse h =>
    by_cases hneg : year < 0
    · have hvalue : -Int.ofNat year.natAbs = year := by
        rw [Int.ofNat_eq_natCast]
        omega
      rw [if_pos hneg, year?, List.cons_append, skipSpace_cons (by decide)]
      simp only [digitRun?_padded 4 _ hrest, Option.map_some, hvalue]
    · have hvalue : Int.ofNat year.natAbs = year := by
        rw [Int.ofNat_eq_natCast]
        omega
      rw [if_neg hneg, year?, List.cons_append, skipSpace_cons (by decide)]
      simp only [digitRun?_padded 4 _ hrest, Option.map_some, hvalue]

/-! ## Times of day -/

/-- Digits behind a point count from the left. -/
theorem fraction?_padded {width n : Nat} (hpos : 0 < width) (hwidth : width ≤ 9)
    (h : n < 10 ^ width) :
    fraction? ('.' :: Text.padded width n) = some (n * 10 ^ (9 - width), []) := by
  have hlength := Text.length_padded hpos h
  have htake : (Text.padded width n).take 9 = Text.padded width n :=
    List.take_of_length_le (by omega)
  have hdrop : (Text.padded width n).drop width = [] := List.drop_of_length_le (by omega)
  rw [fraction?, htake, takeWhile_padded]
  simp [Text.padded_ne_nil, Text.valueOf_padded, hlength, hdrop]

/-- A fraction of a second is read back to the nanosecond. -/
theorem fraction?_fractionChars {nano : Nat} (h : nano < 1000000000) :
    fraction? (fractionChars nano) = some (nano, []) := by
  rw [fractionChars]
  split
  case isTrue hzero =>
    rw [hzero]
    rfl
  split
  case isTrue hmilli =>
    rw [fraction?_padded (by decide) (by decide) (show nano / 1000000 < 10 ^ 3 by omega)]
    have hvalue : nano / 1000000 * 10 ^ (9 - 3) = nano := by omega
    rw [hvalue]
  split
  case isTrue hmicro =>
    rw [fraction?_padded (by decide) (by decide) (show nano / 1000 < 10 ^ 6 by omega)]
    have hvalue : nano / 1000 * 10 ^ (9 - 6) = nano := by omega
    rw [hvalue]
  case isFalse =>
    rw [fraction?_padded (by decide) (by decide) h]
    simp

/-- The written parts of a time of day are those of that time. -/
theorem TimeOfDay.ofWritten?_parts (t : TimeOfDay) :
    ofWritten? t.hour t.minute t.writtenSecond (t.nano % 1000000000) = some t := by
  have hsecond := t.second_lt
  have hnano := t.nano_lt
  have hleap := t.leap
  have hparts : t.hour * 3600 + t.minute * 60 + t.secondOfMinute = t.second := by
    simp only [hour, minute, secondOfMinute]
    omega
  rw [ofWritten?, if_pos (by simp only [hour, minute]; omega)]
  by_cases hlong : 1000000000 ≤ t.nano
  · have hmark : t.writtenSecond = 60 := by
      simp only [writtenSecond, secondOfMinute, hleap hlong]
      omega
    have hlast : t.hour * 3600 + t.minute * 60 + 59 = t.second := by
      rw [← hparts, secondOfMinute, hleap hlong]
    have hrest : 1000000000 + t.nano % 1000000000 = t.nano := by omega
    rw [hmark, if_neg (by decide), if_pos rfl, hlast, hrest, ofSecond?,
      dif_pos ⟨hsecond, hnano, hleap⟩]
  · have hmark : t.writtenSecond = t.secondOfMinute := by
      simp only [writtenSecond]
      omega
    have hrest : t.nano % 1000000000 = t.nano := by omega
    rw [hmark, if_pos (by simp only [secondOfMinute]; omega), hparts, hrest, ofSecond?,
      dif_pos ⟨hsecond, hnano, hleap⟩]

/-! ## Date times -/

/-- A written date time is read back. -/
theorem DateTime.read?_text (t : DateTime) : read? t.text = some t := by
  have hvalid := t.date.isValid_calendar
  simp only [CalendarDate.isValid, Bool.and_eq_true, decide_eq_true_eq] at hvalid
  have hdays := CalendarDate.daysInMonth_le t.date.calendar.year t.date.calendar.month
  have hsecond := t.time.second_lt
  have hnano := t.time.nano_lt
  have hleap := t.time.leap
  have hmonth : t.date.calendar.month < 10 ^ 2 := by omega
  have hday : t.date.calendar.day < 10 ^ 2 := by omega
  have hhour : t.time.hour < 10 ^ 2 := by
    rw [TimeOfDay.hour]
    omega
  have hminute : t.time.minute < 10 ^ 2 := by
    rw [TimeOfDay.minute]
    omega
  have hwritten : t.time.writtenSecond < 10 ^ 2 := by
    rw [TimeOfDay.writtenSecond, TimeOfDay.secondOfMinute]
    omega
  have hfraction := fraction?_fractionChars (Nat.mod_lt t.time.nano (show 0 < 1000000000 by decide))
  have htwo : 0 < 2 := by decide
  have hdash : Text.isSpace '-' = false := by decide
  have hcolon : Text.isSpace ':' = false := by decide
  rw [read?, text, String.toList_ofList, chars, Date.chars, TimeOfDay.clockChars]
  simp only [List.append_assoc, List.cons_append]
  rw [year?_yearChars _ (by rintro c ⟨⟩; decide)]
  simp only [Option.bind_eq_bind]
  rw [Option.bind_some, mark?_cons hdash, Option.bind_some, number?_padded htwo hmonth,
    Option.bind_some, mark?_cons hdash, Option.bind_some, number?_padded htwo hday,
    Option.bind_some, mark?_cons (by decide), Option.bind_some, number?_padded htwo hhour,
    Option.bind_some, mark?_cons hcolon, Option.bind_some, number?_padded htwo hminute,
    Option.bind_some, mark?_cons hcolon, Option.bind_some, number?_padded htwo hwritten,
    Option.bind_some, hfraction, Option.bind_some]
  change ((Date.ofCalendar? t.date.calendar).bind fun date =>
    (TimeOfDay.ofWritten? t.time.hour t.time.minute t.time.writtenSecond
      (t.time.nano % 1000000000)).bind fun time => some ⟨date, time⟩) = some t
  rw [Date.ofCalendar?_calendar, Option.bind_some, TimeOfDay.ofWritten?_parts,
    Option.bind_some]

/-- A date time is read back from its text. -/
theorem DateTime.ofJson?_toJson (t : DateTime) : ofJson? t.toJson = some t := by
  rw [ofJson?, toJson, Json.text?, Option.bind_some, read?_text]

end Reminders
