/-!
# Comma-separated records

Records are separated by a line feed, a carriage return, or both together, and blank lines
between records are skipped. Fields are separated by commas. A field that starts with a double
quote runs to the matching quote, a doubled quote standing for one quote, and the text after the
closing quote is kept; a quote elsewhere is an ordinary character.

Every record carries where it starts: its number counted from zero, its line counted from one,
and its byte offset. All records must have as many fields as the first one.
-/

namespace LevelCross.Csv

/-- Where a record starts. -/
structure Position where
  record : Nat
  line : Nat
  byte : Nat
deriving DecidableEq, Repr

/-- A record and where it starts. -/
structure Row where
  fields : List String
  pos : Position

/-- A record with a different number of fields than the first. -/
structure LengthError where
  pos : Position
  expected : Nat
  found : Nat

/-- The description of a length failure. -/
def LengthError.message (e : LengthError) : String :=
  "CSV error: record " ++ toString e.pos.record ++ " (line: " ++ toString e.pos.line ++
    ", byte: " ++ toString e.pos.byte ++ "): found record with " ++ toString e.found ++
    " fields, but the previous record has " ++ toString e.expected ++ " fields"

/-- A line-ending character. -/
def isTerminator (c : Char) : Bool := c == '\n' || c == '\r'

/-- The running position while reading: bytes and line feeds consumed. -/
structure Cursor where
  byte : Nat := 0
  line : Nat := 1

/-- Advance the cursor over one character. -/
def Cursor.step (k : Cursor) (c : Char) : Cursor :=
  { byte := k.byte + c.utf8Size, line := if c == '\n' then k.line + 1 else k.line }

/-- Read the rest of a quoted field after its opening quote: the field text so far and the
input after the closing quote. -/
def quoted (fuel : Nat) (acc : List Char) (k : Cursor) : List Char → List Char × Cursor × List Char
  | [] => (acc, k, [])
  | c :: rest =>
    match fuel with
    | 0 => (acc, k, c :: rest)
    | fuel + 1 =>
      if c == '"' then
        match rest with
        | '"' :: more => quoted fuel ('"' :: acc) ((k.step c).step '"') more
        | _ => (acc, k.step c, rest)
      else quoted fuel (c :: acc) (k.step c) rest

/-- Read the fields of one record up to and including its terminator. -/
def fields (fuel : Nat) (done : List String) (field : List Char) (start : Bool) (k : Cursor) :
    List Char → List String × Cursor × List Char
  | [] => ((String.ofList field.reverse :: done).reverse, k, [])
  | c :: rest =>
    match fuel with
    | 0 => ((String.ofList field.reverse :: done).reverse, k, c :: rest)
    | fuel + 1 =>
      if c == ',' then fields fuel (String.ofList field.reverse :: done) [] true (k.step c) rest
      else if c == '\n' then ((String.ofList field.reverse :: done).reverse, k.step c, rest)
      else if c == '\r' then
        match rest with
        | '\n' :: more => ((String.ofList field.reverse :: done).reverse, (k.step c).step '\n', more)
        | _ => ((String.ofList field.reverse :: done).reverse, k.step c, rest)
      else if c == '"' && start then
        let (acc, k', rest') := quoted rest.length field (k.step c) rest
        fields fuel done acc false k' rest'
      else fields fuel done (c :: field) false (k.step c) rest

/-- Skip blank lines before a record. -/
def skipBlank (k : Cursor) : List Char → Cursor × List Char
  | c :: rest => if isTerminator c then skipBlank (k.step c) rest else (k, c :: rest)
  | [] => (k, [])

/-- Read all records, numbering them from `n`. -/
def records (fuel n : Nat) (k : Cursor) (cs : List Char) : List Row :=
  match fuel with
  | 0 => []
  | fuel + 1 =>
    let start := k
    let (k, cs) := skipBlank k cs
    match cs with
    | [] => []
    | _ =>
      let (fs, k, rest) := fields cs.length [] [] true k cs
      ⟨fs, ⟨n, start.line, start.byte⟩⟩ :: records fuel (n + 1) k rest

/-- The records of a text, the first one being the header. -/
def parse (s : String) : List Row :=
  let cs := s.toList
  records (cs.length + 1) 0 {} cs

/-- A record must have as many fields as the header. -/
def Row.check (r : Row) (width : Nat) : Except LengthError Row :=
  if r.fields.length == width then .ok r else .error ⟨r.pos, width, r.fields.length⟩

end LevelCross.Csv
