/-!
# Calendar date-times

A `DateTime` is a proleptic Gregorian date with a time of day, to the nanosecond, without a
time zone. A leap second is the second `59` with a nanosecond count of `10^9` or more.

The texts are the two fixed layouts of this library: the data form `YYYY-MM-DDTHH:MM:SS` with a
fraction of three, six or nine digits when it is not zero, and the listing form
`YYYY-MM-DD HH:MM:SS` without a fraction. Years outside `0..=9999` carry a sign and at least
four digits in both.
-/

namespace LevelCross.Time

/-- A date and a time of day. -/
structure DateTime where
  year : Int
  month : Nat
  day : Nat
  hour : Nat
  minute : Nat
  second : Nat
  /-- nanoseconds into the second; `10^9` and above only in a leap second -/
  nano : Nat
deriving DecidableEq, Repr, Inhabited

/-- The years that a date of this library may have. -/
def minYear : Int := -262143

/-- The years that a date of this library may have. -/
def maxYear : Int := 262142

/-- Leap years of the Gregorian calendar. -/
def isLeapYear (y : Int) : Bool := y % 4 == 0 && (y % 100 != 0 || y % 400 == 0)

/-- The number of days of a month, `0` for a month out of range. -/
def daysInMonth (y : Int) (m : Nat) : Nat :=
  match m with
  | 1 | 3 | 5 | 7 | 8 | 10 | 12 => 31
  | 4 | 6 | 9 | 11 => 30
  | 2 => if isLeapYear y then 29 else 28
  | _ => 0

/-- A date exists in the calendar and its year lies in the supported range. -/
def validDate (y : Int) (m d : Nat) : Bool :=
  minYear ≤ y && y ≤ maxYear && 1 ≤ d && d ≤ daysInMonth y m

/-- Midnight of a date. -/
def DateTime.ofDate (y : Int) (m d : Nat) : DateTime := ⟨y, m, d, 0, 0, 0, 0⟩

/-- The same date at another time of day. -/
def DateTime.atTime (t : DateTime) (h mi s : Nat) : DateTime :=
  { t with hour := h, minute := mi, second := s, nano := 0 }

/-- Drop the fraction of the second; a leap second becomes second `59` of its minute. -/
def DateTime.wholeSecond (t : DateTime) : DateTime := { t with nano := 0 }

/-- Chronological order. -/
def DateTime.compare (a b : DateTime) : Ordering :=
  (Ord.compare a.year b.year).then <| (Ord.compare a.month b.month).then <|
    (Ord.compare a.day b.day).then <| (Ord.compare a.hour b.hour).then <|
      (Ord.compare a.minute b.minute).then <| (Ord.compare a.second b.second).then <|
        Ord.compare a.nano b.nano

instance : Ord DateTime := ⟨DateTime.compare⟩

/-- A natural number with at least `width` digits, padded with zeros. -/
def padNat (width n : Nat) : String :=
  let s := toString n
  String.ofList (List.replicate (width - s.length) '0') ++ s

/-- The year of a date: four digits in `0..=9999`, else a sign and at least four digits. -/
def yearText (y : Int) : String :=
  if 0 ≤ y && y ≤ 9999 then padNat 4 y.toNat
  else (if y < 0 then "-" else "+") ++ padNat 4 y.natAbs

/-- `YYYY-MM-DD`. -/
def DateTime.dateText (t : DateTime) : String :=
  yearText t.year ++ "-" ++ padNat 2 t.month ++ "-" ++ padNat 2 t.day

/-- The second as written, `60` in a leap second. -/
def DateTime.shownSecond (t : DateTime) : Nat := t.second + t.nano / 1000000000

/-- `HH:MM:SS`. -/
def DateTime.clockText (t : DateTime) : String :=
  padNat 2 t.hour ++ ":" ++ padNat 2 t.minute ++ ":" ++ padNat 2 t.shownSecond

/-- The fraction of the second as written in the data form: nothing when it is zero, else the
fewest of three, six or nine digits that hold it. -/
def DateTime.fractionText (t : DateTime) : String :=
  let n := t.nano % 1000000000
  if n == 0 then ""
  else if n % 1000000 == 0 then "." ++ padNat 3 (n / 1000000)
  else if n % 1000 == 0 then "." ++ padNat 6 (n / 1000)
  else "." ++ padNat 9 n

/-- The data form `YYYY-MM-DDTHH:MM:SS[.fff]`. -/
def DateTime.isoText (t : DateTime) : String :=
  t.dateText ++ "T" ++ t.clockText ++ t.fractionText

/-- The listing form `YYYY-MM-DD HH:MM:SS`. -/
def DateTime.listText (t : DateTime) : String :=
  t.dateText ++ " " ++ t.clockText

/-- The civil date of a day counted from 1970-01-01, in the proleptic Gregorian calendar: days
are counted in eras of 400 years (146097 days) from a March 1st, so that the leap day ends
each year. -/
def civilOfDays (days : Int) : Int × Nat × Nat :=
  let z := days + 719468
  let era := z / 146097
  let doe := z - era * 146097
  let yoe := (doe - doe / 1460 + doe / 36524 - doe / 146096) / 365
  let doy := doe - (365 * yoe + yoe / 4 - yoe / 100)
  let mp := (5 * doy + 2) / 153
  let d := doy - (153 * mp + 2) / 5 + 1
  let m := if mp < 10 then mp + 3 else mp - 9
  (yoe + era * 400 + (if m ≤ 2 then 1 else 0), m.toNat, d.toNat)

/-- The time a count of seconds since 1970-01-01 00:00:00 stands for. -/
def DateTime.ofEpochSeconds (secs : Int) : DateTime :=
  let (y, m, d) := civilOfDays (secs / 86400)
  let t := (secs % 86400).toNat
  ⟨y, m, d, t / 3600, t % 3600 / 60, t % 60, 0⟩

example : DateTime.ofEpochSeconds 0 = ⟨1970, 1, 1, 0, 0, 0, 0⟩ := by decide +kernel
example : DateTime.ofEpochSeconds 951782400 = ⟨2000, 2, 29, 0, 0, 0, 0⟩ := by decide +kernel
example : DateTime.ofEpochSeconds (-1) = ⟨1969, 12, 31, 23, 59, 59, 0⟩ := by decide +kernel

example : (DateTime.mk 12024 5 1 23 59 59 0).isoText = "+12024-05-01T23:59:59" := by decide +kernel
example : (DateTime.mk (-1) 12 31 0 0 59 1500000000).isoText = "-0001-12-31T00:00:60.500" := by
  decide +kernel

end LevelCross.Time
