import LevelCross.Json.Read
import LevelCross.Time.Parse
import LevelCross.Number.Text

/-!
# Reading JSON text against a shape

A request body is read against a `Shape`: a string, a boolean, a double, a date-time string, an
optional value, a list, or a record of named fields. The reader walks the text once, like the
plain reader of `Json.Read`, and fails at the first character that does not fit the shape, with
the path of members and elements that led there.

## What a mismatch says

A value of the wrong kind fails with `invalid type: U, expected E`, where `U` describes the
value found (`string "x"`, `integer 5`, `floating point 1.5`, `boolean true`, `null`,
`sequence`, `map`) and `E` is what the shape expects (`a string`, `a boolean`, `f64`,
`a sequence`, `struct Name`). A scalar found is read before the failure, so the position is
just after it; a list or object found is not entered.

## Records

A record is read from an object or from an array. In an object, members are read in their
order: a known name read a second time fails as a duplicate, an unknown name has its value
checked and skipped, and after the closing brace every absent field is filled: an optional
field with `null`, a field with a default with its default, any other field is missing. In an
array, the elements fill the fields in order; too few elements fail with the number read, and
too many with the characters that trail.

## Paths

A failure inside a member's value carries the member's name, one inside an element its index
in brackets; a failure of the container itself (a comma, a colon, a key, a missing or repeated
field) carries the container's path.
-/

namespace LevelCross.Json

open LevelCross.Number LevelCross.Time

/-- The shape of a JSON value that a reader expects. -/
inductive Shape where
  | text
  | flag
  | real
  /-- a string holding a date and time -/
  | stamp
  /-- a value that may be `null` -/
  | maybe (inner : Shape)
  | list (inner : Shape)
  /-- a record: its name, and for each field its name, shape and whether it has a default -/
  | record (name : String) (fields : List (String × Shape × Bool))
deriving Inhabited

/-- What a shape expects, as a mismatch names it. -/
def Shape.expecting : Shape → String
  | .text => "a string"
  | .flag => "a boolean"
  | .real => "f64"
  | .stamp => "a formatted date and time string"
  | .maybe inner => inner.expecting
  | .list _ => "a sequence"
  | .record name _ => "struct " ++ name

/-- The value an absent field takes: `null` for an optional field, `false` for a flag with a
default; `none` when the field is missing. -/
def Shape.absent (s : Shape) (hasDefault : Bool) : Option Json :=
  match s with
  | .maybe _ => some .null
  | .flag => if hasDefault then some (.bool false) else none
  | .text => if hasDefault then some (.str "") else none
  | .real => if hasDefault then some (.float 0.0) else none
  | .list _ => if hasDefault then some (.arr []) else none
  | _ => none

/-- Give a failure the path of the place it arose in, unless a deeper place gave it one. -/
def Failure.within (path : List String) (f : Failure) : Failure :=
  if f.path.isEmpty then { f with path := path } else f

/-- Read in the place `path`. -/
def inPlace {α : Type} (path : List String) (r : Except Failure α) : Except Failure α :=
  r.mapError (Failure.within path)

/-- A failure about the value rather than the syntax, at a known position. -/
def dataFailure {α : Type} (text : String) (rest : List Char) : Except Failure α :=
  .error { cause := .data text, spot := some ⟨rest, false⟩ }

/-- Whether a character is written escaped when a text is shown quoted: the controls, the
format and private-use characters, and the marks that extend the character before them. -/
def isHiddenChar (c : Char) : Bool :=
  let n := c.toNat
  n < 0x20 || (0x7F ≤ n && n ≤ 0x9F) || n == 0xAD || (0x300 ≤ n && n ≤ 0x36F) ||
    (0x200B ≤ n && n ≤ 0x200F) || (0x2028 ≤ n && n ≤ 0x202E) || (0x2060 ≤ n && n ≤ 0x2064) ||
    n == 0xFEFF || (0xE000 ≤ n && n ≤ 0xF8FF) || (0xFFF9 ≤ n && n ≤ 0xFFFB)

/-- The lower-case hexadecimal digits of a number, at least one. -/
def hexText (n : Nat) : String :=
  String.ofList (Nat.toDigits 16 n)

/-- A text in double quotes with the quote, the backslash, the usual controls and hidden
characters escaped, as mismatches show a string found. -/
def debugQuote (s : String) : String :=
  let esc (c : Char) : String :=
    match c with
    | '"' => "\\\""
    | '\\' => "\\\\"
    | '\n' => "\\n"
    | '\r' => "\\r"
    | '\t' => "\\t"
    | _ =>
      if c.toNat == 0 then "\\0"
      else if isHiddenChar c then "\\u\x7b" ++ hexText c.toNat ++ "\x7d"
      else String.ofList [c]
  "\"" ++ String.join (s.toList.map esc) ++ "\""

/-- How a number found where it does not belong is described. -/
def Parsed.describe : Parsed → String
  | .nat n => "integer `" ++ toString n ++ "`"
  | .neg n => "integer `" ++ toString n ++ "`"
  | .float x => "floating point `" ++ dataText x ++ "`"

/-- The description of the value at the front of the input, which does not fit the shape, and
the input after it: a scalar is read, a list or object only looked at. -/
def unexpected (cs : List Char) : Except Failure (String × List Char) :=
  match cs with
  | 'n' :: rest => do return ("null", ← keyword ['u', 'l', 'l'] rest)
  | 't' :: rest => do return ("boolean `true`", ← keyword ['r', 'u', 'e'] rest)
  | 'f' :: rest => do return ("boolean `false`", ← keyword ['a', 'l', 's', 'e'] rest)
  | '-' :: rest => do
    let (n, rest) ← number false rest
    return (n.describe, rest)
  | '"' :: rest => do
    let (s, rest) ← string rest
    return ("string " ++ debugQuote s, rest)
  | '[' :: _ => .ok ("sequence", cs)
  | '{' :: _ => .ok ("map", cs)
  | c :: _ =>
    if c.isDigit then do
      let (n, rest) ← number true cs
      return (n.describe, rest)
    else failNext .expectedValue cs
  | [] => failNext .eofValue []

/-- Fail because the value at the front of the input does not fit the shape. -/
def mismatch {α : Type} (s : Shape) (cs : List Char) : Except Failure α := do
  let (found, rest) ← unexpected cs
  dataFailure ("invalid type: " ++ found ++ ", expected " ++ s.expecting) rest

/-- The number read as a double. -/
def Parsed.toFloat : Parsed → Float
  | .nat n => Number.ofNat n
  | .neg n => Number.ofInt n
  | .float x => x

/-- The colon between a member's name and its value. -/
def colon (cs : List Char) : Except Failure (List Char) :=
  match skipSpace cs with
  | ':' :: rest => .ok rest
  | [] => failNext .eofObject []
  | rest => failNext .expectedColon rest

/-- The end of a list: its closing bracket, after which a comma or anything else trails. -/
def closeList (cs : List Char) : Except Failure (List Char) :=
  match skipSpace cs with
  | ']' :: rest => .ok rest
  | ',' :: rest =>
    match skipSpace rest with
    | ']' :: more => failNext .trailingComma (']' :: more)
    | more => failNext .trailingCharacters more
  | [] => failNext .eofList []
  | rest => failNext .trailingCharacters rest

/-- The input after a record that failed: blanks are skipped and a closing bracket or brace
taken, which is where a failure of the record itself is placed. -/
def afterRecord (close : Char) (cs : List Char) : List Char :=
  match skipSpace cs with
  | c :: rest => if c == close then rest else c :: rest
  | [] => []

/-- The fields of a record that an object left out, filled in, or the first one missing. -/
def fillAbsent (fields : List (String × Shape × Bool)) (seen : List (String × Json))
    (rest : List Char) : Except Failure (List (String × Json)) :=
  fields.mapM fun (name, s, dflt) =>
    match seen.find? (·.1 == name) with
    | some (_, v) => .ok (name, v)
    | none =>
      match s.absent dflt with
      | some v => .ok (name, v)
      | none => dataFailure ("missing field `" ++ name ++ "`") rest

/-- Skip the digits, fraction and exponent of a number whose first digit is next, checking
only its form. -/
def skipNumber (cs : List Char) : Except Failure (List Char) :=
  let exponentPart (cs : List Char) : Except Failure (List Char) :=
    let cs := match cs with
      | '+' :: r => r
      | '-' :: r => r
      | _ => cs
    match cs with
    | c :: r => if c.isDigit then .ok (r.dropWhile Char.isDigit) else fail .invalidNumber r
    | [] => fail .invalidNumber []
  let tail (cs : List Char) : Except Failure (List Char) :=
    match cs with
    | '.' :: r =>
      let ds := r.takeWhile Char.isDigit
      let more := r.dropWhile Char.isDigit
      if ds.isEmpty then failNext .invalidNumber more
      else match more with
        | e :: m => if e == 'e' || e == 'E' then exponentPart m else .ok more
        | [] => .ok []
    | e :: m => if e == 'e' || e == 'E' then exponentPart m else .ok cs
    | [] => .ok []
  match cs with
  | '0' :: r =>
    match r with
    | d :: _ => if d.isDigit then failNext .invalidNumber r else tail r
    | [] => .ok []
  | c :: r => if c.isDigit then tail (r.dropWhile Char.isDigit) else fail .invalidNumber r
  | [] => fail .invalidNumber []

/-- Skip a string after its opening quote, checking only its escapes. -/
def skipString : List Char → Except Failure (List Char)
  | [] => fail .eofString []
  | '"' :: rest => .ok rest
  | '\\' :: 'u' :: rest =>
    match rest with
    | a :: b :: c :: d :: more =>
      if [a, b, c, d].all (fun h => (hexValue h).isSome) then skipString more
      else fail .invalidEscape more
    | _ => fail .eofString []
  | '\\' :: e :: more =>
    if "\"\\/bfnrt".toList.contains e then skipString more else fail .invalidEscape more
  | ['\\'] => fail .eofString []
  | c :: rest => if c.toNat < 0x20 then fail .controlCharacter (c :: rest) else skipString rest

mutual

/-- Skip one value, checking its syntax without building it; `fuel` bounds the walk. -/
def skipValue (fuel : Nat) (cs : List Char) : Except Failure (List Char) :=
  match fuel with
  | 0 => failNext .recursionLimit cs
  | fuel + 1 =>
    let cs := skipSpace cs
    match cs with
    | [] => failNext .eofValue []
    | 'n' :: rest => keyword ['u', 'l', 'l'] rest
    | 't' :: rest => keyword ['r', 'u', 'e'] rest
    | 'f' :: rest => keyword ['a', 'l', 's', 'e'] rest
    | '-' :: rest => skipNumber rest
    | '"' :: rest => skipString rest
    | '[' :: rest =>
      match skipSpace rest with
      | ']' :: more => .ok more
      | [] => failNext .eofList []
      | more => skipElements fuel more
    | '{' :: rest =>
      match skipSpace rest with
      | '}' :: more => .ok more
      | [] => failNext .eofObject []
      | more => skipMembers fuel more
    | c :: _ => if c.isDigit then skipNumber cs else failNext .expectedValue cs

/-- Skip the elements of a list from its first element on, and its closing bracket. -/
def skipElements (fuel : Nat) (cs : List Char) : Except Failure (List Char) :=
  match fuel with
  | 0 => failNext .recursionLimit cs
  | fuel + 1 => do
    let rest ← skipValue fuel cs
    match skipSpace rest with
    | ',' :: more => skipElements fuel more
    | ']' :: more => .ok more
    | [] => failNext .eofList []
    | more => failNext .expectedListCommaOrEnd more

/-- Skip the members of an object from its first name on, and its closing brace. -/
def skipMembers (fuel : Nat) (cs : List Char) : Except Failure (List Char) :=
  match fuel with
  | 0 => failNext .recursionLimit cs
  | fuel + 1 =>
    match skipSpace cs with
    | '"' :: rest => do
      let rest ← skipString rest
      let rest ← colon rest
      let rest ← skipValue fuel rest
      match skipSpace rest with
      | ',' :: more => skipMembers fuel more
      | '}' :: more => .ok more
      | [] => failNext .eofObject []
      | more => failNext .expectedObjectCommaOrEnd more
    | [] => failNext .eofObject []
    | more => failNext .keyMustBeString more

end

mutual

/-- Read a value of a shape at the front of the input, in the place `path`; `fuel` bounds the
walk. -/
def readShape (fuel : Nat) (path : List String) (s : Shape) (cs : List Char) :
    Except Failure (Json × List Char) :=
  match fuel with
  | 0 => failNext .recursionLimit cs
  | fuel + 1 =>
    inPlace path <|
    let cs := skipSpace cs
    match s, cs with
    | _, [] => failNext .eofValue []
    | .maybe _, 'n' :: rest => do return (.null, ← keyword ['u', 'l', 'l'] rest)
    | .maybe inner, _ => readShape fuel path inner cs
    | .text, '"' :: rest => do
      let (t, rest) ← string rest
      return (.str t, rest)
    | .flag, 't' :: rest => do return (.bool true, ← keyword ['r', 'u', 'e'] rest)
    | .flag, 'f' :: rest => do return (.bool false, ← keyword ['a', 'l', 's', 'e'] rest)
    | .real, '-' :: rest => do
      let (n, rest) ← number false rest
      return (.float n.toFloat, rest)
    | .real, c :: _ =>
      if c.isDigit then do
        let (n, rest) ← number true cs
        return (.float n.toFloat, rest)
      else mismatch s cs
    | .stamp, '"' :: rest => do
      let (t, rest) ← string rest
      match parseDateTime dataLayout t with
      | .ok _ => return (.str t, rest)
      | .error e => dataFailure e.message rest
    | .list inner, '[' :: rest => do
      let (xs, rest) ← readElements fuel path inner 0 [] rest
      let rest ← closeList rest
      return (.arr xs, rest)
    | .record _ fields, '{' :: rest => readMembers fuel path s fields true [] rest
    | .record _ fields, '[' :: rest => readPositional fuel path s fields 0 [] rest
    | _, _ => mismatch s cs

/-- Read the elements of a list after its opening bracket, up to its closing bracket, which
is left in the input. -/
def readElements (fuel : Nat) (path : List String) (inner : Shape) (index : Nat)
    (acc : List Json) (cs : List Char) : Except Failure (List Json × List Char) :=
  match fuel with
  | 0 => failNext .recursionLimit cs
  | fuel + 1 =>
    let cs := skipSpace cs
    match cs with
    | [] => failNext .eofList []
    | ']' :: _ => .ok (acc.reverse, cs)
    | c :: rest =>
      let start : Except Failure (List Char) :=
        if index == 0 then .ok cs
        else if c == ',' then .ok (skipSpace rest)
        else failNext .expectedListCommaOrEnd cs
      match start with
      | .error f => .error f
      | .ok cs =>
        match cs with
        | ']' :: _ => failNext .trailingComma cs
        | [] => failNext .eofValue []
        | _ => do
          let (x, rest) ← readShape fuel (path ++ ["[" ++ toString index ++ "]"]) inner cs
          readElements fuel path inner (index + 1) (x :: acc) rest

/-- Read the members of a record's object after its opening brace, up to and including its
closing brace. -/
def readMembers (fuel : Nat) (path : List String) (s : Shape) (fields : List (String × Shape × Bool))
    (first : Bool) (seen : List (String × Json)) (cs : List Char) : Except Failure (Json × List Char) :=
  match fuel with
  | 0 => failNext .recursionLimit cs
  | fuel + 1 =>
    let cs := skipSpace cs
    match cs with
    | [] => failNext .eofObject []
    | '}' :: rest => do
      let members ← fillAbsent fields seen rest
      return (.obj members, rest)
    | c :: rest =>
      let start : Except Failure (List Char) :=
        if first then .ok cs
        else if c == ',' then .ok (skipSpace rest)
        else failNext .expectedObjectCommaOrEnd cs
      match start with
      | .error f => .error f
      | .ok cs =>
        match cs with
        | '"' :: rest => do
          let (key, rest) ← string rest
          match fields.find? (·.1 == key) with
          | some (_, fs, _) =>
            if seen.any (·.1 == key) then
              dataFailure ("duplicate field `" ++ key ++ "`") (afterRecord '}' rest)
            else do
              let rest ← colon rest
              let (v, rest) ← readShape fuel (path ++ [key]) fs rest
              readMembers fuel path s fields false (seen ++ [(key, v)]) rest
          | none => do
            let rest ← colon rest
            let rest ← inPlace (path ++ [key]) (skipValue fuel rest)
            readMembers fuel path s fields false seen rest
        | '}' :: _ => failNext .trailingComma cs
        | [] => failNext .eofValue []
        | _ => failNext .keyMustBeString cs

/-- Read the elements of a record's array after its opening bracket, one per field in order,
and its closing bracket. -/
def readPositional (fuel : Nat) (path : List String) (s : Shape)
    (fields : List (String × Shape × Bool)) (index : Nat) (acc : List (String × Json))
    (cs : List Char) : Except Failure (Json × List Char) :=
  match fuel with
  | 0 => failNext .recursionLimit cs
  | fuel + 1 =>
    match fields with
    | [] => do
      let rest ← closeList cs
      return (.obj acc.reverse, rest)
    | (name, fs, dflt) :: more =>
      let cs := skipSpace cs
      let total := index + fields.length
      let short : Except Failure (Json × List Char) :=
        match (if dflt then fs.absent true else none) with
        | some v => readPositional fuel path s more (index + 1) ((name, v) :: acc) cs
        | none =>
          dataFailure ("invalid length " ++ toString index ++ ", expected " ++ s.expecting ++
            " with " ++ toString total ++ (if total == 1 then " element" else " elements"))
            (afterRecord ']' cs)
      match cs with
      | [] => failNext .eofList []
      | ']' :: _ => short
      | c :: rest =>
        let start : Except Failure (List Char) :=
          if acc.isEmpty && index == 0 then .ok cs
          else if c == ',' then .ok (skipSpace rest)
          else failNext .expectedListCommaOrEnd cs
        match start with
        | .error f => .error f
        | .ok cs =>
          match cs with
          | ']' :: _ => failNext .trailingComma cs
          | [] => failNext .eofValue []
          | _ => do
            let (v, rest) ← readShape fuel (path ++ ["[" ++ toString index ++ "]"]) fs cs
            readPositional fuel path s more (index + 1) ((name, v) :: acc) rest

end

/-- Read a whole text as a value of a shape: the value, then nothing but blanks. -/
def readAs (s : Shape) (text : String) : Except Failure Json := do
  let cs := text.toList
  let (j, rest) ← readShape (2 * cs.length + 8) [] s cs
  finish rest
  return j

end LevelCross.Json
