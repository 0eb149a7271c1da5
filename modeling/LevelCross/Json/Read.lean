import LevelCross.Json.Value
import LevelCross.Number.Float

/-!
# Reading JSON text

A strict reader of JSON text. It walks the characters once, and a failure carries where it
happened: either just after the last character read, or at the next character. The position is
reported as a line and a byte column, so `at line 1 column 0` is an empty input.

Numbers are read as the kind they spell: an integer that fits in 64 bits stays an integer, and
anything else becomes a double. A double is built from at most nineteen significant digits and a
power of ten, which are combined by one rounded multiplication or division; digits past the
nineteenth are dropped. A value whose power of ten is too large is out of range rather than
infinite. Nesting is limited to 127 levels.
-/

namespace LevelCross.Json

open LevelCross.Number

/-- The syntax failures of the reader. -/
inductive Code where
  | eofList
  | eofObject
  | eofString
  | eofValue
  | expectedColon
  | expectedListCommaOrEnd
  | expectedObjectCommaOrEnd
  | expectedIdent
  | expectedValue
  | invalidEscape
  | invalidNumber
  | numberOutOfRange
  | controlCharacter
  | keyMustBeString
  | loneSurrogate
  | trailingComma
  | trailingCharacters
  | unexpectedEndOfHexEscape
  | recursionLimit
deriving DecidableEq, Repr

/-- The text of a syntax failure. -/
def Code.message : Code → String
  | eofList => "EOF while parsing a list"
  | eofObject => "EOF while parsing an object"
  | eofString => "EOF while parsing a string"
  | eofValue => "EOF while parsing a value"
  | expectedColon => "expected `:`"
  | expectedListCommaOrEnd => "expected `,` or `]`"
  | expectedObjectCommaOrEnd => "expected `,` or `\x7d`"
  | expectedIdent => "expected ident"
  | expectedValue => "expected value"
  | invalidEscape => "invalid escape"
  | invalidNumber => "invalid number"
  | numberOutOfRange => "number out of range"
  | controlCharacter => "control character (\\u0000-\\u001F) found while parsing a string"
  | keyMustBeString => "key must be a string"
  | loneSurrogate => "lone leading surrogate in hex escape"
  | trailingComma => "trailing comma"
  | trailingCharacters => "trailing characters"
  | unexpectedEndOfHexEscape => "unexpected end of hex escape"
  | recursionLimit => "recursion limit exceeded"

/-- Where a failure happened: the input not yet read, and whether the position is that of the
next character rather than just after the last one read. -/
structure Spot where
  rest : List Char
  next : Bool

/-- What went wrong: a syntax failure, or a value of the wrong shape, described by a text. -/
inductive Cause where
  | malformed (c : Code)
  | data (text : String)

/-- A failure, with the path of members and elements that led to it, innermost last, and its
position once known. -/
structure Failure where
  cause : Cause
  path : List String := []
  spot : Option Spot := none

/-- A syntax failure just after the last character read. -/
def fail {α : Type} (c : Code) (rest : List Char) : Except Failure α :=
  .error { cause := .malformed c, spot := some ⟨rest, false⟩ }

/-- A syntax failure at the next character. -/
def failNext {α : Type} (c : Code) (rest : List Char) : Except Failure α :=
  .error { cause := .malformed c, spot := some ⟨rest, true⟩ }

/-- Give a failure without a position the position just after the last character read. -/
def Failure.fix (f : Failure) (rest : List Char) : Failure :=
  match f.spot with
  | some _ => f
  | none => { f with spot := some ⟨rest, false⟩ }

/-- The characters skipped between tokens. -/
def isSpace (c : Char) : Bool := c == ' ' || c == '\n' || c == '\t' || c == '\r'

/-- Skip the blanks between tokens. -/
def skipSpace (cs : List Char) : List Char := cs.dropWhile isSpace

/-- The value of a hexadecimal digit. -/
def hexValue (c : Char) : Option Nat :=
  if '0' ≤ c && c ≤ '9' then some (c.toNat - '0'.toNat)
  else if 'a' ≤ c && c ≤ 'f' then some (c.toNat - 'a'.toNat + 10)
  else if 'A' ≤ c && c ≤ 'F' then some (c.toNat - 'A'.toNat + 10)
  else none

/-- Read four hexadecimal digits of an escape. -/
def hexEscape (cs : List Char) : Except Failure (Nat × List Char) :=
  match cs with
  | a :: b :: c :: d :: rest =>
    match hexValue a, hexValue b, hexValue c, hexValue d with
    | some a, some b, some c, some d => .ok (((a * 16 + b) * 16 + c) * 16 + d, rest)
    | _, _, _, _ => fail .invalidEscape rest
  | _ => fail .eofString []

/-- Read the rest of a `\u` escape, joining a surrogate pair into one character. -/
def unicodeEscape (cs : List Char) : Except Failure (Char × List Char) := do
  let (n, rest) ← hexEscape cs
  if 0xDC00 ≤ n && n ≤ 0xDFFF then fail .loneSurrogate rest
  else if n < 0xD800 || n > 0xDBFF then .ok (Char.ofNat n, rest)
  else
    match rest with
    | [] => fail .eofString []
    | '\\' :: rest =>
      match rest with
      | [] => fail .eofString []
      | 'u' :: rest => do
        let (n2, rest) ← hexEscape rest
        if n2 < 0xDC00 || n2 > 0xDFFF then fail .loneSurrogate rest
        else .ok (Char.ofNat ((((n - 0xD800) <<< 10) ||| (n2 - 0xDC00)) + 0x10000), rest)
      | _ :: rest => fail .unexpectedEndOfHexEscape rest
    | _ :: rest => fail .unexpectedEndOfHexEscape rest

/-- Read an escape after its backslash. -/
def escape (cs : List Char) : Except Failure (Char × List Char) :=
  match cs with
  | [] => fail .eofString []
  | c :: rest =>
    match c with
    | '"' => .ok ('"', rest)
    | '\\' => .ok ('\\', rest)
    | '/' => .ok ('/', rest)
    | 'b' => .ok (Char.ofNat 8, rest)
    | 'f' => .ok (Char.ofNat 12, rest)
    | 'n' => .ok ('\n', rest)
    | 'r' => .ok ('\r', rest)
    | 't' => .ok ('\t', rest)
    | 'u' => unicodeEscape rest
    | _ => fail .invalidEscape rest

/-- Read the characters of a string after its opening quote, up to and including the closing
quote. -/
def stringBody (fuel : Nat) (acc : List Char) (cs : List Char) : Except Failure (String × List Char) :=
  match fuel with
  | 0 => fail .eofString cs
  | fuel + 1 =>
    match cs with
    | [] => fail .eofString []
    | '"' :: rest => .ok (String.ofList acc.reverse, rest)
    | '\\' :: rest => do
      let (c, rest) ← escape rest
      stringBody fuel (c :: acc) rest
    | c :: rest =>
      if c.toNat < 0x20 then fail .controlCharacter rest
      else stringBody fuel (c :: acc) rest

/-- Read a string after its opening quote. -/
def string (cs : List Char) : Except Failure (String × List Char) := stringBody (cs.length + 1) [] cs

/-- Read the letters of a keyword after its first letter. -/
def keyword (word : List Char) (cs : List Char) : Except Failure (List Char) :=
  match word, cs with
  | [], rest => .ok rest
  | _ :: _, [] => fail .eofValue []
  | w :: ws, c :: rest => if w == c then keyword ws rest else fail .expectedIdent rest

/-- The doubles nearest to the powers of ten `10^0 … 10^308`. -/
def powersOfTen : Array Float :=
  (List.range 309).toArray.map fun (i : Nat) => nearestOfDecimal false 1 (Int.ofNat i)

/-- The largest value of a 64-bit unsigned integer. -/
def u64Max : Nat := Nat.pow 2 64 - 1

/-- The largest value of a 32-bit signed integer. -/
def i32Max : Int := Nat.pow 2 31 - 1

/-- Divide by `10^308` until the power of ten is in the table; `steps` bounds the loop. -/
def scaleDown (steps : Nat) (f : Float) (e : Int) : Float :=
  match steps with
  | 0 => f
  | steps + 1 =>
    if e.natAbs ≤ 308 then f / powersOfTen.getD e.natAbs 1.0
    else if f == 0.0 then f
    else scaleDown steps (f / powersOfTen.getD 308 1.0) (e + 308)

/-- Combine a significand and a power of ten into a double by one rounded operation; a positive
power too large for the table, or a product that overflows, is out of range. -/
def fromParts (positive : Bool) (significand : Nat) (e : Int) (rest : List Char) :
    Except Failure Float :=
  let f := ofNat significand
  let value :=
    if e ≥ 0 then
      if e.natAbs ≤ 308 then
        let g := f * powersOfTen.getD e.natAbs 1.0
        if shape g == .infinite then none else some g
      else if f == 0.0 then some f
      else none
    else some (scaleDown (e.natAbs / 308 + 2) f e)
  match value with
  | some g => .ok (if positive then g else -g)
  | none => fail .numberOutOfRange rest

/-- Read the digits of an exponent after its first digit, stopping at an overflow. -/
def exponentDigits (fuel : Nat) (acc : Int) (cs : List Char) : Option Int × List Char :=
  match fuel, cs with
  | fuel + 1, c :: rest =>
    if c.isDigit then
      let next := acc * 10 + (c.toNat - '0'.toNat)
      if next > i32Max then (none, (rest.dropWhile Char.isDigit))
      else exponentDigits fuel next rest
    else (some acc, cs)
  | _, _ => (some acc, cs)

/-- Read an exponent after its `e` and combine it with the significand. -/
def exponent (positive : Bool) (significand : Nat) (start : Int) (cs : List Char) : Except Failure (Float × List Char) :=
  let (expPositive, cs) := match cs with
    | '+' :: rest => (true, rest)
    | '-' :: rest => (false, rest)
    | _ => (true, cs)
  match cs with
  | [] => fail .eofValue []
  | c :: rest =>
    if !c.isDigit then fail .invalidNumber rest
    else
      match exponentDigits rest.length (c.toNat - '0'.toNat) rest with
      | (none, rest) =>
        if significand != 0 && expPositive then fail .numberOutOfRange rest
        else .ok (if positive then 0.0 else -0.0, rest)
      | (some e, rest) =>
        let total := if expPositive then start + e else start - e
        -- the power of ten saturates at the bounds of a 32-bit integer
        let total := max (min total i32Max) (-i32Max - 1)
        do
          let f ← fromParts positive significand total rest
          .ok (f, rest)

/-- Skip digits that no longer fit in the significand, then read an optional exponent. -/
def afterOverflow (positive : Bool) (significand : Nat) (e : Int) (cs : List Char) :
    Except Failure (Float × List Char) :=
  let rest := cs.dropWhile Char.isDigit
  match rest with
  | c :: more =>
    if c == 'e' || c == 'E' then exponent positive significand e more
    else do
      let f ← fromParts positive significand e rest
      .ok (f, rest)
  | [] => do
    let f ← fromParts positive significand e []
    .ok (f, [])

/-- Read the fraction digits after the point, then an optional exponent. -/
def fractionDigits (fuel : Nat) (positive : Bool) (significand : Nat) (e : Int) (count : Nat)
    (cs : List Char) : Except Failure (Float × List Char) :=
  match fuel with
  | 0 => fail .invalidNumber cs
  | fuel + 1 =>
    match cs with
    | c :: rest =>
      if c.isDigit then
        let next := significand * 10 + (c.toNat - '0'.toNat)
        if next > u64Max then afterOverflow positive significand e cs
        else fractionDigits fuel positive next (e - 1) (count + 1) rest
      else if count == 0 then failNext .invalidNumber cs
      else if c == 'e' || c == 'E' then exponent positive significand e rest
      else do
        let f ← fromParts positive significand e cs
        .ok (f, cs)
    | [] =>
      if count == 0 then failNext .eofValue []
      else do
        let f ← fromParts positive significand e []
        .ok (f, [])

/-- A number as read: an unsigned integer, a negative integer or a double. -/
inductive Parsed where
  | nat (n : Nat)
  | neg (n : Int)
  | float (x : Float)

/-- Read digits of an integer too long for 64 bits: each further digit raises the power of ten. -/
def longInteger (fuel : Nat) (positive : Bool) (significand : Nat) (e : Int) (cs : List Char) :
    Except Failure (Float × List Char) :=
  match fuel with
  | 0 => fail .invalidNumber cs
  | fuel + 1 =>
    match cs with
    | c :: rest =>
      if c.isDigit then longInteger fuel positive significand (e + 1) rest
      else if c == '.' then fractionDigits rest.length positive significand e 0 rest
      else if c == 'e' || c == 'E' then exponent positive significand e rest
      else do
        let f ← fromParts positive significand e cs
        .ok (f, cs)
    | [] => do
      let f ← fromParts positive significand e []
      .ok (f, [])

/-- What follows the integer digits: a fraction, an exponent, or the end of the number. -/
def numberTail (positive : Bool) (significand : Nat) (cs : List Char) : Except Failure (Parsed × List Char) :=
  match cs with
  | '.' :: rest => do
    let (f, rest) ← fractionDigits (rest.length + 1) positive significand 0 0 rest
    .ok (.float f, rest)
  | c :: rest =>
    if c == 'e' || c == 'E' then do
      let (f, rest) ← exponent positive significand 0 rest
      .ok (.float f, rest)
    else if positive then .ok (.nat significand, cs)
    else if significand == 0 || significand > Nat.pow 2 63 then .ok (.float (-(ofNat significand)), cs)
    else .ok (.neg (-(significand : Int)), cs)
  | [] =>
    if positive then .ok (.nat significand, [])
    else if significand == 0 || significand > Nat.pow 2 63 then .ok (.float (-(ofNat significand)), [])
    else .ok (.neg (-(significand : Int)), [])

/-- Read the integer digits after the first one. -/
def integerDigits (fuel : Nat) (positive : Bool) (significand : Nat) (cs : List Char) :
    Except Failure (Parsed × List Char) :=
  match fuel with
  | 0 => fail .invalidNumber cs
  | fuel + 1 =>
    match cs with
    | c :: rest =>
      if c.isDigit then
        let next := significand * 10 + (c.toNat - '0'.toNat)
        if next > u64Max then do
          let (f, rest) ← longInteger (cs.length + 1) positive significand 0 cs
          .ok (.float f, rest)
        else integerDigits fuel positive next rest
      else numberTail positive significand cs
    | [] => numberTail positive significand []

/-- Read a number whose sign, if any, is already read. -/
def number (positive : Bool) (cs : List Char) : Except Failure (Parsed × List Char) :=
  match cs with
  | [] => fail .eofValue []
  | c :: rest =>
    if c == '0' then
      match rest with
      | d :: _ => if d.isDigit then failNext .invalidNumber rest else numberTail positive 0 rest
      | [] => numberTail positive 0 []
    else if c.isDigit then integerDigits (rest.length + 1) positive (c.toNat - '0'.toNat) rest
    else fail .invalidNumber rest

/-- A number as a JSON value. -/
def Parsed.toJson : Parsed → Json
  | .nat n => .nat n
  | .neg n => .neg n
  | .float x => .float x

/-- The deepest nesting of arrays and objects that is read. -/
def depthLimit : Nat := 128

mutual

/-- Read one value at the front of the input, after blanks. `depth` counts the nesting levels
still allowed; `fuel` bounds the walk. -/
def value (fuel depth : Nat) (cs : List Char) : Except Failure (Json × List Char) :=
  match fuel with
  | 0 => failNext .recursionLimit cs
  | fuel + 1 =>
    let cs := skipSpace cs
    match cs with
    | [] => failNext .eofValue []
    | c :: rest =>
      match c with
      | 'n' => do let rest ← keyword ['u', 'l', 'l'] rest; .ok (.null, rest)
      | 't' => do let rest ← keyword ['r', 'u', 'e'] rest; .ok (.bool true, rest)
      | 'f' => do let rest ← keyword ['a', 'l', 's', 'e'] rest; .ok (.bool false, rest)
      | '-' => do let (n, rest) ← number false rest; .ok (n.toJson, rest)
      | '"' => do let (s, rest) ← string rest; .ok (.str s, rest)
      | '[' =>
        if depth ≤ 1 then failNext .recursionLimit cs
        else do
          let (xs, rest) ← elements fuel (depth - 1) true [] rest
          .ok (.arr xs, rest)
      | '{' =>
        if depth ≤ 1 then failNext .recursionLimit cs
        else do
          let (ms, rest) ← members fuel (depth - 1) true [] rest
          .ok (.obj ms, rest)
      | _ =>
        if c.isDigit then do let (n, rest) ← number true cs; .ok (n.toJson, rest)
        else failNext .expectedValue cs

/-- Read the elements of an array after its opening bracket, up to its closing bracket. -/
def elements (fuel depth : Nat) (first : Bool) (acc : List Json) (cs : List Char) :
    Except Failure (List Json × List Char) :=
  match fuel with
  | 0 => failNext .recursionLimit cs
  | fuel + 1 =>
    let cs := skipSpace cs
    match cs with
    | [] => failNext .eofList []
    | ']' :: rest => .ok (acc.reverse, rest)
    | c :: rest =>
      let start : Except Failure (List Char) :=
        if first then .ok cs
        else if c == ',' then .ok (skipSpace rest)
        else failNext .expectedListCommaOrEnd cs
      match start with
      | .error e => .error e
      | .ok cs =>
        match cs with
        | ']' :: _ => failNext .trailingComma cs
        | [] => failNext .eofValue []
        | _ => do
          let (x, rest) ← value fuel depth cs
          elements fuel depth false (x :: acc) rest

/-- Read the members of an object after its opening brace, up to its closing brace. -/
def members (fuel depth : Nat) (first : Bool) (acc : List (String × Json)) (cs : List Char) :
    Except Failure (List (String × Json) × List Char) :=
  match fuel with
  | 0 => failNext .recursionLimit cs
  | fuel + 1 =>
    let cs := skipSpace cs
    match cs with
    | [] => failNext .eofObject []
    | '}' :: rest => .ok (acc.reverse, rest)
    | c :: rest =>
      let start : Except Failure (List Char) :=
        if first then .ok cs
        else if c == ',' then .ok (skipSpace rest)
        else failNext .expectedObjectCommaOrEnd cs
      match start with
      | .error e => .error e
      | .ok cs =>
        match cs with
        | '"' :: rest => do
          let (k, rest) ← string rest
          let rest := skipSpace rest
          match rest with
          | ':' :: rest => do
            let (v, rest) ← value fuel depth rest
            members fuel depth false ((k, v) :: acc) rest
          | [] => failNext .eofObject []
          | _ => failNext .expectedColon rest
        | '}' :: _ => failNext .trailingComma cs
        | [] => failNext .eofValue []
        | _ => failNext .keyMustBeString cs

end

/-- The line and byte column of a position: `index` bytes of `bytes` lie before it. -/
def lineColumn (bytes : List UInt8) (index : Nat) : Nat × Nat :=
  let before := bytes.take index
  let lineStart := match (before.reverse.findIdx? (· == 10)) with
    | some k => before.length - k
    | none => 0
  (1 + (before.take lineStart).count 10, index - lineStart)

/-- The line and column of a spot within the whole input. -/
def Spot.lineColumn (s : Spot) (input : List Char) : Nat × Nat :=
  let bytes := (String.ofList input).toUTF8.toList
  let read := input.take (input.length - s.rest.length)
  let index := (String.ofList read).utf8ByteSize
  let index := if s.next then min bytes.length (index + 1) else index
  Json.lineColumn bytes index

/-- The text of a failure: its path and cause, then its position in the input. -/
def Failure.render (f : Failure) (input : List Char) : String :=
  let cause := match f.cause with
    | .malformed c => c.message
    | .data t => t
  let path := match f.path with
    | [] => ""
    | p :: ps => (ps.foldl (fun acc s => if s.startsWith "[" then acc ++ s else acc ++ "." ++ s)
        p) ++ ": "
  match f.spot with
  | some s =>
    let (line, col) := s.lineColumn input
    path ++ cause ++ " at line " ++ toString line ++ " column " ++ toString col
  | none => path ++ cause

/-- The failure is a value of the wrong shape, not a syntax failure. -/
def Failure.isData (f : Failure) : Bool :=
  match f.cause with
  | .data _ => true
  | .malformed _ => false

/-- Nothing but blanks may follow a value. -/
def finish (cs : List Char) : Except Failure Unit :=
  match skipSpace cs with
  | [] => .ok ()
  | rest => failNext .trailingCharacters rest

/-- Read a whole text as one JSON value. -/
def parse (s : String) : Except Failure Json := do
  let cs := s.toList
  let (j, rest) ← value (2 * cs.length + 4) depthLimit cs
  finish rest
  .ok j

/-- Read a whole text as one JSON value, or give the text of the failure. -/
def parseText (s : String) : Except String Json :=
  match parse s with
  | .ok j => .ok j
  | .error f => .error (f.render s.toList)

end LevelCross.Json
