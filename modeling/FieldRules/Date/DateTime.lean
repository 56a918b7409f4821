/-!
# Instants of the calendar

A `DateTime` holds the components of a date and a time of day.  It is real if
the day exists in the Gregorian calendar, extended to all years, and the time
exists in a day without leap seconds.
-/

namespace FieldRules.Date

/-- The components of a date and a time of day. -/
structure DateTime where
  year : Nat
  month : Nat
  day : Nat
  hour : Nat
  minute : Nat
  second : Nat
  deriving DecidableEq, Repr

/-- Whether a year has a 29th of February. -/
def isLeapYear (year : Nat) : Bool :=
  year % 4 == 0 && (year % 100 != 0 || year % 400 == 0)

/-- The number of days of a month; there are none in a month that does not exist. -/
def daysIn (year month : Nat) : Nat :=
  match month with
  | 1 | 3 | 5 | 7 | 8 | 10 | 12 => 31
  | 4 | 6 | 9 | 11 => 30
  | 2 => if isLeapYear year then 29 else 28
  | _ => 0

namespace DateTime

/-- Whether the date and the time exist. -/
def isReal (t : DateTime) : Bool :=
  1 ≤ t.day && t.day ≤ daysIn t.year t.month && t.hour < 24 && t.minute < 60 && t.second < 60

/-- The order in time. -/
def compare (a b : DateTime) : Ordering :=
  (Ord.compare a.year b.year).then <|
  (Ord.compare a.month b.month).then <|
  (Ord.compare a.day b.day).then <|
  (Ord.compare a.hour b.hour).then <|
  (Ord.compare a.minute b.minute).then <|
  Ord.compare a.second b.second

/-- A number with at least the given count of digits. -/
def padded (width n : Nat) : String :=
  let digits := toString n
  String.ofList (List.replicate (width - digits.length) '0') ++ digits

/-- The instant as text, the largest component first. -/
def render (t : DateTime) : String :=
  padded 4 t.year ++ "-" ++ padded 2 t.month ++ "-" ++ padded 2 t.day ++ " " ++
    padded 2 t.hour ++ ":" ++ padded 2 t.minute ++ ":" ++ padded 2 t.second

end DateTime

end FieldRules.Date
