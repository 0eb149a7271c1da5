import LevelCross.Number.Float

/-!
# Reading numbers from text

The number grammar of settings values, candle files and command-line options.

* An integer is an optional sign and one or more ASCII digits, and must fit its type.
* A decimal is an optional sign, then `inf`, `infinity` or `nan` in any case, or digits with at
  most one point and at least one digit, then an optional exponent `e` or `E` with an optional
  sign and at least one digit. It is rounded to the nearest double, ties to even; beyond the
  range of doubles it is an infinity or a zero.

No blank is allowed anywhere. The failures carry the texts shown to users.
-/

namespace LevelCross.Number

/-- Why a text is not an integer. -/
inductive IntError where
  | empty
  | invalidDigit
  | tooLarge
  | tooSmall
deriving DecidableEq, Repr

/-- The description of an integer failure. -/
def IntError.message : IntError → String
  | empty => "cannot parse integer from empty string"
  | invalidDigit => "invalid digit found in string"
  | tooLarge => "number too large to fit in target type"
  | tooSmall => "number too small to fit in target type"

/-- The value of a list of decimal digits. -/
def digitValue (ds : List Char) : Nat :=
  ds.foldl (fun n c => 10 * n + (c.toNat - '0'.toNat)) 0

/-- Read an integer between `lo` and `hi`; a minus sign is refused when `lo` is zero. Digits are
taken from the left, so a value that leaves the range before the first character that is not a
digit fails as out of range, and otherwise that character fails as an invalid digit. -/
def readInt (lo hi : Int) (s : String) : Except IntError Int :=
  let cs := s.toList
  if cs.isEmpty then .error .empty
  else
    let (neg, ds) := match cs with
      | '+' :: rest => (false, rest)
      | '-' :: rest => if lo < 0 then (true, rest) else (false, cs)
      | _ => (false, cs)
    let lead := ds.takeWhile Char.isDigit
    let v : Int := digitValue lead
    if ds.isEmpty then .error .invalidDigit
    else if neg && -v < lo then .error .tooSmall
    else if !neg && v > hi then .error .tooLarge
    else if lead.length < ds.length then .error .invalidDigit
    else .ok (if neg then -v else v)

/-- Read a signed 64-bit integer. -/
def readI64 (s : String) : Except IntError Int := readInt (-(Nat.pow 2 63)) (Nat.pow 2 63 - 1) s

/-- Read an unsigned 64-bit integer. -/
def readU64 (s : String) : Except IntError Nat :=
  (readInt 0 (Nat.pow 2 64 - 1) s).map Int.toNat

/-- Why a text is not a decimal. -/
inductive FloatError where
  | empty
  | invalid
deriving DecidableEq, Repr

/-- The description of a decimal failure. -/
def FloatError.message : FloatError → String
  | empty => "cannot parse float from empty string"
  | invalid => "invalid float literal"

/-- The text, lower-cased in ASCII. -/
def asciiLower (cs : List Char) : List Char := cs.map Char.toLower

/-- Read the digits and exponent of a decimal without sign: the significand and the power of
ten. -/
def decimalParts (cs : List Char) : Option (Nat × Int) :=
  let whole := cs.takeWhile Char.isDigit
  let rest := cs.dropWhile Char.isDigit
  let (frac, rest) := match rest with
    | '.' :: more => (more.takeWhile Char.isDigit, more.dropWhile Char.isDigit)
    | _ => ([], rest)
  if whole.isEmpty && frac.isEmpty then none
  else
    let base : Int := -(frac.length : Int)
    let mant := digitValue (whole ++ frac)
    match rest with
    | [] => some (mant, base)
    | c :: more =>
      if c == 'e' || c == 'E' then
        let (eneg, eds) := match more with
          | '+' :: r => (false, r)
          | '-' :: r => (true, r)
          | _ => (false, more)
        if eds.isEmpty || !eds.all Char.isDigit then none
        else
          let e : Int := digitValue eds
          some (mant, if eneg then base - e else base + e)
      else none

/-- Read a decimal and round it to the nearest double. -/
def readFloat (s : String) : Except FloatError Float :=
  let cs := s.toList
  if cs.isEmpty then .error .empty
  else
    let (neg, body) := match cs with
      | '+' :: rest => (false, rest)
      | '-' :: rest => (true, rest)
      | _ => (false, cs)
    let word := asciiLower body
    if word == "inf".toList || word == "infinity".toList then
      .ok (if neg then -infinity else infinity)
    else if word == "nan".toList then .ok nan
    else
      match decimalParts body with
      | some (mant, e) => .ok (nearestOfDecimal neg mant e)
      | none => .error .invalid

end LevelCross.Number
