import LevelCross.Text.CaseTable
import LevelCross.Text.CaseContext

/-!
# Full case mapping of text

Upper-casing maps every character by its full upper-case mapping, which may give several
characters (`ß` becomes `SS`). Lower-casing maps every character by its full lower-case
mapping, except the capital sigma, which becomes the final form `ς` at the end of a word: when
a cased character precedes it and none follows it, looking through case-ignorable characters on
both sides.
-/

namespace LevelCross.Text

/-- The full upper-case mapping of one character. -/
def upperChar (c : Char) : List Char :=
  match upperSpecial.lookup c.toNat with
  | some ns => ns.map Char.ofNat
  | none =>
    match CaseRun.lookup upperRuns c.toNat with
    | some n => [Char.ofNat n]
    | none => [c]

/-- The full lower-case mapping of one character, without the final-sigma rule. -/
def lowerChar (c : Char) : List Char :=
  match lowerSpecial.lookup c.toNat with
  | some ns => ns.map Char.ofNat
  | none =>
    match CaseRun.lookup lowerRuns c.toNat with
    | some n => [Char.ofNat n]
    | none => [c]

/-- Upper-case a text with the full mappings. -/
def toUpper (s : String) : String := String.ofList (s.toList.flatMap upperChar)

/-- The first character that is not case-ignorable is cased. -/
def casedAfterIgnorable (cs : List Char) : Bool :=
  match cs.dropWhile isCaseIgnorable with
  | c :: _ => isCased c
  | [] => false

/-- The capital sigma. -/
def capitalSigma : Char := 'Σ'

/-- Lower-case the characters, `before` holding the characters already passed in reverse. -/
def lowerFrom (before : List Char) : List Char → List Char
  | [] => []
  | c :: rest =>
    let here :=
      if c == capitalSigma then
        if casedAfterIgnorable before && !casedAfterIgnorable rest then ['ς'] else ['σ']
      else lowerChar c
    here ++ lowerFrom (c :: before) rest

/-- Lower-case a text with the full mappings and the final-sigma rule. -/
def toLower (s : String) : String := String.ofList (lowerFrom [] s.toList)

end LevelCross.Text
