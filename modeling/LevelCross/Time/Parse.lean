import LevelCross.Time.Basic
import LevelCross.Text.Blank

/-!
# Reading date-times against a layout

A layout is a list of `Field`s. Reading walks the layout and the text together: a number field
skips leading blanks and takes ASCII digits, a blank field skips any run of blanks, a literal
must match exactly, and the fraction field is optional. The first failure along the layout is
the answer; text left over at the end is `tooLong`. The fields read are then checked as a
calendar date and a time of day.
-/

namespace LevelCross.Time

open LevelCross.Text

/-- Why a text is not a date-time of a layout. -/
inductive ParseError where
  | outOfRange
  | impossible
  | notEnough
  | invalid
  | tooShort
  | tooLong
  | badFormat
deriving DecidableEq, Repr

/-- The description of a reading failure. -/
def ParseError.message : ParseError → String
  | .outOfRange => "input is out of range"
  | .impossible => "no possible date and time matching input"
  | .notEnough => "input is not enough for unique date and time"
  | .invalid => "input contains invalid characters"
  | .tooShort => "premature end of input"
  | .tooLong => "trailing input"
  | .badFormat => "bad or unsupported format string"

/-- One element of a layout. -/
inductive Field where
  /-- a year: with a sign any number of digits, else one to four -/
  | year
  /-- one or two digits of each of these -/
  | month | day | hour | minute | second
  /-- an optional `.` followed by one to nine digits of a fraction of a second -/
  | fraction
  /-- any run of blank characters, possibly empty -/
  | blank
  /-- exactly this text -/
  | literal (s : String)
deriving DecidableEq, Repr

/-- The fields read so far. -/
structure Reading where
  year : Option Int := none
  month : Option Nat := none
  day : Option Nat := none
  hour : Option Nat := none
  minute : Option Nat := none
  second : Option Nat := none
  nano : Option Nat := none
deriving Repr

/-- The largest value a number field may reach while it is read. -/
def numberLimit : Nat := Nat.pow 2 63 - 1

/-- The value of a list of decimal digits. -/
def digitsValue (ds : List Char) : Nat :=
  ds.foldl (fun n c => 10 * n + (c.toNat - '0'.toNat)) 0

/-- Read between `lo` and `hi` ASCII digits at the front of the text. -/
def scanNumber (cs : List Char) (lo hi : Nat) : Except ParseError (Nat × List Char) :=
  if cs.length < lo then .error .tooShort
  else
    let ds := (cs.takeWhile Char.isDigit).take hi
    if ds.length < lo then .error .invalid
    else
      let v := digitsValue ds
      if v > numberLimit then .error .outOfRange else .ok (v, cs.drop ds.length)

/-- Read a fraction of a second: up to nine digits scaled to nanoseconds, further digits
skipped. -/
def scanFraction (cs : List Char) : Except ParseError (Nat × List Char) := do
  let (v, rest) ← scanNumber cs 1 9
  let used := cs.length - rest.length
  .ok (v * Nat.pow 10 (9 - used), rest.dropWhile Char.isDigit)

/-- Record a value, refusing a second different value for one field. -/
def setField {α : Type} [BEq α] (old : Option α) (v : α) : Except ParseError (Option α) :=
  match old with
  | some w => if w == v then .ok (some v) else .error .impossible
  | none => .ok (some v)

/-- Record a number read for a field, checking its range. -/
def Reading.put (r : Reading) (f : Field) (v : Int) : Except ParseError Reading :=
  let inRange (lo hi : Int) : Bool := lo ≤ v && v ≤ hi
  match f with
  | .year =>
    if inRange (-2147483648) 2147483647 then
      return { r with year := ← setField r.year v }
    else .error .outOfRange
  | .month =>
    if inRange 1 12 then return { r with month := ← setField r.month v.toNat }
    else .error .outOfRange
  | .day =>
    if inRange 1 31 then return { r with day := ← setField r.day v.toNat }
    else .error .outOfRange
  | .hour =>
    if inRange 0 23 then return { r with hour := ← setField r.hour v.toNat }
    else .error .outOfRange
  | .minute =>
    if inRange 0 59 then return { r with minute := ← setField r.minute v.toNat }
    else .error .outOfRange
  | .second =>
    if inRange 0 60 then return { r with second := ← setField r.second v.toNat }
    else .error .outOfRange
  | .fraction =>
    if inRange 0 999999999 then return { r with nano := ← setField r.nano v.toNat }
    else .error .outOfRange
  | _ => .ok r

/-- Read one number field at the front of the text, after its leading blanks. -/
def scanField (f : Field) (cs : List Char) : Except ParseError (Int × List Char) :=
  let cs := dropBlank cs
  match f with
  | .year =>
    match cs with
    | '-' :: rest => do
      let (v, rest) ← scanNumber rest 1 rest.length
      .ok (-(v : Int), rest)
    | '+' :: rest => do
      let (v, rest) ← scanNumber rest 1 rest.length
      .ok ((v : Int), rest)
    | _ => do
      let (v, rest) ← scanNumber cs 1 4
      .ok ((v : Int), rest)
  | _ => do
    let (v, rest) ← scanNumber cs 1 2
    .ok ((v : Int), rest)

/-- Walk the layout over the text, collecting the fields. -/
def readFields : List Field → List Char → Reading → Except ParseError Reading
  | [], [], r => .ok r
  | [], _ :: _, _ => .error .tooLong
  | .blank :: fs, cs, r => readFields fs (dropBlank cs) r
  | .literal s :: fs, cs, r =>
    let p := s.toList
    if cs.length < p.length then .error .tooShort
    else if cs.take p.length == p then readFields fs (cs.drop p.length) r
    else .error .invalid
  | .fraction :: fs, cs, r =>
    match cs with
    | '.' :: rest => do
      let (v, rest) ← scanFraction rest
      readFields fs rest (← r.put .fraction v)
    | _ => readFields fs cs r
  | f :: fs, cs, r => do
    let (v, rest) ← scanField f cs
    readFields fs rest (← r.put f v)

/-- The calendar date of the fields read. -/
def Reading.date (r : Reading) : Except ParseError DateTime :=
  match r.year, r.month, r.day with
  | some y, some m, some d =>
    if validDate y m d then .ok (DateTime.ofDate y m d) else .error .outOfRange
  | _, _, _ => .error .notEnough

/-- The date-time of the fields read: date first, then hour and minute, which must be there;
a second of `60` is a leap second, and a fraction needs a second. -/
def Reading.dateTime (r : Reading) : Except ParseError DateTime := do
  let d ← r.date
  match r.hour, r.minute with
  | some h, some mi =>
    let (s, leap) := match r.second with
      | some 60 => (59, 1000000000)
      | some s => (s, 0)
      | none => (0, 0)
    let frac ← match r.nano, r.second with
      | some n, some _ => pure n
      | some _, none => .error .notEnough
      | none, _ => pure 0
    .ok { d with hour := h, minute := mi, second := s, nano := leap + frac }
  | _, _ => .error .notEnough

/-- Read a date-time laid out as `fs`. -/
def parseDateTime (fs : List Field) (s : String) : Except ParseError DateTime := do
  (← readFields fs s.toList {}).dateTime

/-- Read a date laid out as `fs`; the time is midnight. -/
def parseDate (fs : List Field) (s : String) : Except ParseError DateTime := do
  (← readFields fs s.toList {}).date

/-- `%Y-%m-%d`. -/
def dateLayout : List Field := [.year, .literal "-", .month, .literal "-", .day]

/-- `%Y-%m-%d %H:%M:%S`, the blank standing for any run of blanks. -/
def listLayout : List Field :=
  dateLayout ++ [.blank, .hour, .literal ":", .minute, .literal ":", .second]

/-- `%Y-%m-%dT%H:%M:%S`. -/
def isoLayout : List Field :=
  dateLayout ++ [.literal "T", .hour, .literal ":", .minute, .literal ":", .second]

/-- `%Y-%m-%dT%H:%M:%S%.f`. -/
def isoFractionLayout : List Field := isoLayout ++ [.fraction]

/-- `%Y-%m-%d %H:%M:%S%.f`. -/
def listFractionLayout : List Field := listLayout ++ [.fraction]

/-- The data form as read back: blanks may stand around each separator. -/
def dataLayout : List Field :=
  [.year, .blank, .literal "-", .month, .blank, .literal "-", .day, .blank, .literal "T",
    .hour, .blank, .literal ":", .minute, .blank, .literal ":", .second, .fraction, .blank]

end LevelCross.Time
