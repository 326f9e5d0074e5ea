import Reminders.Time.Date

/-!
# Dates with a time of day

A *time of day* is a second of the day and the nanoseconds within it.  A leap
second stands at the end of a minute: it is the last second of the minute with
`10 ^ 9` nanoseconds or more.

A `DateTime` is a date and a time of day.  Its `instant` is a single number that
orders date times, and two date times with one instant are equal.  It does not
measure time: each second has room for a leap second behind it.

`later?` moves a date time by seconds and leaves a leap second by its end.  It
gives nothing when the result is past the last date.  `daysLater` is for callers
that do not expect that, and reports an `Overflow`.
-/

namespace Reminders

/-! ## Times of day -/

/-- A second of the day and the nanoseconds within it. -/
structure TimeOfDay where
  /-- The second of the day. -/
  second : Nat
  /-- The nanoseconds since its start. -/
  nano : Nat
  /-- The second is one of the day. -/
  second_lt : second < 86400
  /-- A second is shorter than this, also with a leap second behind it. -/
  nano_lt : nano < 2000000000
  /-- A leap second stands at the end of a minute. -/
  leap : 1000000000 ≤ nano → second % 60 = 59
deriving DecidableEq

namespace TimeOfDay

/-- The time with a second of the day and nanoseconds. -/
def ofSecond? (second nano : Nat) : Option TimeOfDay :=
  if h : second < 86400 ∧ nano < 2000000000 ∧ (1000000000 ≤ nano → second % 60 = 59) then
    some ⟨second, nano, h.1, h.2.1, h.2.2⟩
  else none

/-- The start of a second, given by hour, minute and second. -/
def ofClock? (hour minute second : Nat) : Option TimeOfDay :=
  if hour < 24 ∧ minute < 60 ∧ second < 60 then
    ofSecond? (hour * 3600 + minute * 60 + second) 0
  else none

/-- The hour, from 0 to 23. -/
def hour (t : TimeOfDay) : Nat := t.second / 3600

/-- The minute, from 0 to 59. -/
def minute (t : TimeOfDay) : Nat := t.second / 60 % 60

/-- The second of the minute, from 0 to 59. -/
def secondOfMinute (t : TimeOfDay) : Nat := t.second % 60

/-- The start of the minute. -/
def startOfMinute (t : TimeOfDay) : TimeOfDay where
  second := t.second - t.second % 60
  nano := 0
  second_lt := Nat.lt_of_le_of_lt (Nat.sub_le _ _) t.second_lt
  nano_lt := by decide
  leap := fun h => absurd h (by decide)

/-- Midnight. -/
def midnight : TimeOfDay := ⟨0, 0, by decide, by decide, fun h => absurd h (by decide)⟩

instance : Inhabited TimeOfDay := ⟨midnight⟩

/-- A number that orders the times of day. -/
def instant (t : TimeOfDay) : Nat := t.second * 2000000000 + t.nano

instance : LE TimeOfDay := ⟨fun a b => a.instant ≤ b.instant⟩
instance : LT TimeOfDay := ⟨fun a b => a.instant < b.instant⟩
instance (a b : TimeOfDay) : Decidable (a ≤ b) := Nat.decLe _ _
instance (a b : TimeOfDay) : Decidable (a < b) := Nat.decLt _ _

theorem le_def {a b : TimeOfDay} : a ≤ b ↔ a.instant ≤ b.instant := Iff.rfl

theorem lt_def {a b : TimeOfDay} : a < b ↔ a.instant < b.instant := Iff.rfl

theorem instant_inj {a b : TimeOfDay} : a.instant = b.instant ↔ a = b := by
  constructor
  · intro h
    have ha := a.nano_lt
    have hb := b.nano_lt
    simp only [instant] at h
    have hs : a.second = b.second := by omega
    have hn : a.nano = b.nano := by omega
    cases a
    cases b
    simp_all
  · rintro rfl
    rfl

end TimeOfDay

/-! ## Date times -/

/-- A date and a time of day. -/
structure DateTime where
  /-- The date. -/
  date : Date
  /-- The time of day. -/
  time : TimeOfDay
deriving DecidableEq, Inhabited

/-- The moment asked for lies past the last date. -/
structure Overflow where
deriving Repr, DecidableEq

namespace DateTime

/-- The first date time. -/
def first : DateTime := ⟨Date.first, TimeOfDay.midnight⟩

/-- A number that orders the date times. -/
def instant (t : DateTime) : Int := t.date.number * 172800000000000 + Int.ofNat t.time.instant

instance : LE DateTime := ⟨fun a b => a.instant ≤ b.instant⟩
instance : LT DateTime := ⟨fun a b => a.instant < b.instant⟩
instance (a b : DateTime) : Decidable (a ≤ b) := Int.decLe _ _
instance (a b : DateTime) : Decidable (a < b) := Int.decLt _ _

theorem le_def {a b : DateTime} : a ≤ b ↔ a.instant ≤ b.instant := Iff.rfl

theorem lt_def {a b : DateTime} : a < b ↔ a.instant < b.instant := Iff.rfl

theorem instant_inj {a b : DateTime} : a.instant = b.instant ↔ a = b := by
  constructor
  · intro h
    have ha := a.time.second_lt
    have ha' := a.time.nano_lt
    have hb := b.time.second_lt
    have hb' := b.time.nano_lt
    simp only [instant, TimeOfDay.instant, Int.ofNat_eq_natCast] at h
    have hd : a.date.number = b.date.number := by omega
    have ht : a.time.instant = b.time.instant := by
      simp only [TimeOfDay.instant]
      omega
    rw [TimeOfDay.instant_inj] at ht
    cases a
    cases b
    rename_i d t d' t'
    cases d
    cases d'
    simp_all
  · rintro rfl
    rfl

instance : Ord DateTime := ⟨compareOn instant⟩

instance : Std.TransOrd DateTime := inferInstanceAs (Std.TransCmp (compareOn instant))

instance : Std.LawfulEqOrd DateTime where
  eq_of_compare {a b} h := by
    have h : compare a.instant b.instant = .eq := h
    exact instant_inj.1 (Std.LawfulEqCmp.eq_of_compare h)

/-- The earlier of two date times. -/
instance : Min DateTime := ⟨fun a b => if a ≤ b then a else b⟩

/-- The date time a number of seconds later, unless it is past the last date.
A leap second ends with the second it stands behind. -/
def later? (t : DateTime) (seconds : Nat) : Option DateTime :=
  if seconds = 0 then some t
  else
    let total := t.time.second + seconds
    (Date.ofNumber? (t.date.number + Int.ofNat (total / 86400))).map fun date =>
      { date := date
        time :=
          { second := total % 86400
            nano := t.time.nano % 1000000000
            second_lt := Nat.mod_lt _ (by decide)
            nano_lt := Nat.lt_trans (Nat.mod_lt _ (by decide)) (by decide)
            leap := fun h => absurd (Nat.mod_lt t.time.nano (by decide)) (Nat.not_lt.2 h) } }

/-- The date time a number of days later, by a caller that counts on there being one. -/
def daysLater (t : DateTime) (days : Nat) : Except Overflow DateTime :=
  match t.later? (days * 86400) with
  | some later => .ok later
  | none => .error {}

/-- The milliseconds from 1970-01-01T00:00:00. -/
def milliseconds (t : DateTime) : Int :=
  (t.date.number * 86400 + Int.ofNat t.time.second) * 1000 + Int.ofNat (t.time.nano / 1000000)

end DateTime

end Reminders
