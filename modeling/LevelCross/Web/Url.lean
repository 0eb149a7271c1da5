import LevelCross.Text.Utf8

/-!
# Request targets

A request target is a path, then optionally `?` and a query. Both carry text percent-encoded:
`%` and two hexadecimal digits stand for a byte, and any other `%` stands for itself. The
query is a list of `name=value` pairs separated by `&`, where `+` also stands for a blank, a
pair without `=` has an empty value and empty pairs are skipped. Decoded bytes are read as
UTF-8, ill-formed parts replaced.
-/

namespace LevelCross.Web

open LevelCross.Text

/-- The value of a hexadecimal digit. -/
def hexDigitValue (c : Char) : Option Nat :=
  if '0' ≤ c && c ≤ '9' then some (c.toNat - '0'.toNat)
  else if 'a' ≤ c && c ≤ 'f' then some (c.toNat - 'a'.toNat + 10)
  else if 'A' ≤ c && c ≤ 'F' then some (c.toNat - 'A'.toNat + 10)
  else none

/-- The UTF-8 bytes of a character. -/
def charBytes (c : Char) : List UInt8 := (String.ofList [c]).toUTF8.toList

/-- The bytes a percent-encoded text stands for; with `plusBlank`, `+` stands for a blank. -/
def percentBytes (plusBlank : Bool) : List Char → List UInt8
  | [] => []
  | '%' :: a :: b :: rest =>
    match hexDigitValue a, hexDigitValue b with
    | some x, some y => (x * 16 + y).toUInt8 :: percentBytes plusBlank rest
    | _, _ => charBytes '%' ++ percentBytes plusBlank (a :: b :: rest)
  | c :: rest =>
    (if plusBlank && c == '+' then [32] else charBytes c) ++ percentBytes plusBlank rest

/-- The bytes a percent-encoded text stands for, as UTF-8 text when they are well formed. -/
def percentDecodeStrict (s : String) : Option String :=
  String.fromUTF8? ⟨(percentBytes false s.toList).toArray⟩

/-- The text a query part stands for: percent-decoded, `+` a blank, ill-formed bytes replaced. -/
def formDecode (s : List Char) : String := decodeLossy (percentBytes true s)

/-- The text a path segment stands for: percent-decoded, ill-formed bytes replaced. -/
def pathDecode (s : String) : String := decodeLossy (percentBytes false s.toList)

/-- Split a list at every separator. -/
def splitOn (sep : Char) (cs : List Char) : List (List Char) :=
  let (cur, done) := cs.foldl (fun (cur, done) c =>
    if c == sep then ([], cur.reverse :: done) else (c :: cur, done)) ([], [])
  (cur.reverse :: done).reverse

/-- The name and value pairs of a query, in order. -/
def queryPairs (query : String) : List (String × String) :=
  (splitOn '&' query.toList).filterMap fun piece =>
    if piece.isEmpty then none
    else
      let name := piece.takeWhile (· != '=')
      let value := (piece.dropWhile (· != '=')).drop 1
      some (formDecode name, formDecode value)

/-- The path and the query of a target; the query is empty without `?`. -/
def splitTarget (target : String) : String × String :=
  let cs := target.toList
  (String.ofList (cs.takeWhile (· != '?')), String.ofList ((cs.dropWhile (· != '?')).drop 1))

example : queryPairs "pair=eth%2Fusdt&&x+y=1+2&flag" =
    [("pair", "eth/usdt"), ("x y", "1 2"), ("flag", "")] := by decide +kernel

end LevelCross.Web
