import LevelCross.Number.Read
import LevelCross.Number.Text

/-!
# Cell values of the store

A cell holds nothing, an integer, a double or a text. A column's declared type gives it an
*affinity*, which decides how a value written into it is kept:

* a text column keeps a number as its text;
* a numeric, integer or real column reads a text that spells a number as that number, and keeps
  a double without fraction as an integer;
* a real column hands every integer back as a double.

A double that is not a number cannot be stored: it is written as nothing. Comparisons order
the kinds as nothing, numbers, texts, compare numbers by size and texts by code points, after
the column's affinity has been applied to the value compared with it.

What a real column hands back for a double written into it, the round trip through its
affinity, is `Value.loadAs_storeAs_real` in `LevelCross.Proofs.RealCell`.
-/

namespace LevelCross.Store

open LevelCross.Number

/-- A value held in a cell. -/
inductive Value where
  | null
  | int (n : Int)
  | real (x : Float)
  | text (s : String)
deriving Inhabited

namespace Value

/-- The name of the kind of a value, as error texts give it. -/
def kindName : Value → String
  | null => "Null"
  | int _ => "Integer"
  | real _ => "Real"
  | text _ => "Text"

/-- A double as a value: a double that is not a number is nothing. -/
def ofFloat (x : Float) : Value := if isNaN x then null else real x

/-- An optional value: absent is nothing. -/
def ofOption {α : Type} (f : α → Value) : Option α → Value
  | some a => f a
  | none => null

/-- The value is nothing. -/
def isNull : Value → Bool
  | null => true
  | _ => false

end Value

/-- How a column keeps the values written into it. -/
inductive Affinity where
  | text
  | numeric
  | integer
  | real
  | blob
deriving DecidableEq, Repr

/-- Whether `part` occurs in `s` as a contiguous run. -/
def occursIn (part : List Char) : List Char → Bool
  | [] => part.isEmpty
  | c :: cs => part.isPrefixOf (c :: cs) || occursIn part cs

/-- The affinity of a declared type, by the first rule that applies to its upper-cased text:
`INT` gives integer; `CHAR`, `CLOB` or `TEXT` text; `BLOB` or no type blob; `REAL`, `FLOA` or
`DOUB` real; anything else numeric. -/
def Affinity.ofDeclared (declared : String) : Affinity :=
  let t := declared.toList.map Char.toUpper
  let has (w : String) : Bool := occursIn w.toList t
  if has "INT" then .integer
  else if has "CHAR" || has "CLOB" || has "TEXT" then .text
  else if has "BLOB" || t.isEmpty then .blob
  else if has "REAL" || has "FLOA" || has "DOUB" then .real
  else .numeric

/-- The affinity reads texts that spell numbers as numbers. -/
def Affinity.isNumeric : Affinity → Bool
  | .numeric | .integer | .real => true
  | _ => false

/-- The blanks allowed around a number held as text. -/
def isSpace (c : Char) : Bool :=
  c == ' ' || c == '\t' || c == '\n' || c == '\r' || c == '\x0b' || c == '\x0c'

/-- The smallest integer a cell can hold. -/
def minInt : Int := -(Nat.pow 2 63)

/-- The largest integer a cell can hold. -/
def maxInt : Int := Nat.pow 2 63 - 1

/-- An integer literal: the integer when it fits in 64 bits, else the nearest double. -/
def integerValue (neg : Bool) (n : Nat) : Value :=
  let v : Int := if neg then -(n : Int) else n
  if minInt ≤ v && v ≤ maxInt then .int v else .real (nearestOfDecimal neg n 0)

/-- The number a text spells, if it spells one: blanks may stand around it and a sign may lead
it; digits alone give an integer, any other decimal the nearest double. -/
def numberOfText? (s : String) : Option Value :=
  let cs := ((s.toList.dropWhile isSpace).reverse.dropWhile isSpace).reverse
  let (neg, body) := match cs with
    | '-' :: rest => (true, rest)
    | '+' :: rest => (false, rest)
    | _ => (false, cs)
  match decimalParts body with
  | none => none
  | some (mant, e) =>
    if body.all Char.isDigit then some (integerValue neg mant)
    else some (.real (nearestOfDecimal neg mant e))

/-- A double without fraction strictly inside the range of cell integers is kept as that
integer. -/
def wholeOfReal (x : Float) : Value :=
  match exactInt? x with
  | some n => if minInt < n && n < maxInt then .int n else .real x
  | none => .real x

/-- A number's text in exponent form: a point in the significand and a signed exponent of at
least two digits. -/
def exponentText (d : Dec) : String :=
  let s := toString d.digits
  let lead : Int := d.exp + s.length - 1
  let body := match s.toList with
    | c :: rest => String.ofList [c] ++ "." ++ (if rest.isEmpty then "0" else String.ofList rest)
    | [] => "0.0"
  let sign := if lead < 0 then "-" else "+"
  let digits := toString lead.natAbs
  body ++ "e" ++ sign ++ (if digits.length < 2 then "0" ++ digits else digits)

/-- The text a text column keeps for a double: at most fifteen significant digits, positional
for leading exponents from `-4` to `14` with `.0` on whole values, else in exponent form. -/
def realText (x : Float) : String :=
  if !isFinite x then (if isNaN x then "NaN" else if signBit x then "-Inf" else "Inf")
  else
    let sign := if signBit x then "-" else ""
    let m := magnitude x
    if m.mant == 0 then sign ++ "0.0"
    else
      let d := (m.shortest .even)
      let n := digitCount d.digits
      let d := if n ≤ 15 then d
        else (Dec.trim ⟨roundHalfEven d.digits (Nat.pow 10 (n - 15)), d.exp + (n - 15 : Nat)⟩)
      let lead : Int := d.exp + digitCount d.digits - 1
      if -4 ≤ lead && lead < 15 then sign ++ d.positional true
      else sign ++ exponentText d

namespace Value

/-- The text of a value, as text functions of the store read it; nothing stays nothing. -/
def asText? : Value → Option String
  | null => none
  | int n => some (toString n)
  | real x => some (realText x)
  | text s => some s

/-- The value kept when `v` is written into a column of affinity `a`. -/
def storeAs (a : Affinity) (v : Value) : Value :=
  match a, v with
  | .text, int n => text (toString n)
  | .text, real x => text (realText x)
  | .blob, v => v
  | .text, v => v
  | _, text s =>
    match numberOfText? s with
    | some (real x) => wholeOfReal x
    | some w => w
    | none => text s
  | _, real x => wholeOfReal x
  | _, v => v

/-- The value handed back from a column of affinity `a`: a real column gives doubles. -/
def loadAs (a : Affinity) (v : Value) : Value :=
  match a, v with
  | .real, int n => real (ofInt n)
  | _, v => v

/-- The value a column of affinity `a` compares with when `v` is bound against it: numeric
columns read a text that spells a number as that number, text columns read a number as its
text. -/
def compareAs (a : Affinity) (v : Value) : Value :=
  match a, v with
  | .text, int n => text (toString n)
  | .text, real x => text (realText x)
  | .blob, v => v
  | .text, v => v
  | _, text s => (numberOfText? s).getD (text s)
  | _, v => v

/-- The rank of a kind in the order of values. -/
def kindRank : Value → Nat
  | null => 0
  | int _ | real _ => 1
  | text _ => 2

/-- Compare an integer with a double by their exact values. -/
def compareIntReal (n : Int) (x : Float) : Ordering :=
  let y := ofInt n
  if y < x then .lt
  else if x < y then .gt
  else match exactInt? x with
    | some m => compare n m
    | none => .eq

/-- The order of values: nothing first, then numbers by size, then texts by code points. -/
def order : Value → Value → Ordering
  | int a, int b => compare a b
  | int a, real y => compareIntReal a y
  | real x, int b => (compareIntReal b x).swap
  | real x, real y => if x < y then .lt else if y < x then .gt else .eq
  | text a, text b => compare a b
  | a, b => compare a.kindRank b.kindRank

/-- A comparison in a condition: it holds only when neither side is nothing. -/
def holds (rel : Ordering → Bool) (a b : Value) : Bool :=
  !a.isNull && !b.isNull && rel (order a b)

end Value

end LevelCross.Store
