import LevelCross.Market.Level
import LevelCross.Market.Signal

/-!
# Listing lines

The one-line texts of levels, events and recorded signals in a listing. Columns are padded to
a width counted in characters; a text longer than its column is written whole. Prices have six
places.
-/

namespace LevelCross.Listing

open LevelCross.Number LevelCross.Text

/-- Pad on the left to a width in characters. -/
def padLeft (width : Nat) (s : String) : String :=
  String.ofList (List.replicate (width - s.length) ' ') ++ s

/-- Pad on the right to a width in characters. -/
def padRight (width : Nat) (s : String) : String :=
  s ++ String.ofList (List.replicate (width - s.length) ' ')

/-- `id  pair  price  direction  close|touch  created`. -/
def levelLine (l : PriceLevel) : String :=
  padLeft 5 (toString l.id) ++ "  " ++ padRight 12 l.pair ++ " " ++
    padLeft 16 (fixedText 6 l.value) ++ "  " ++ padRight 10 l.direction ++ " " ++
    padRight 8 (if l.confirmClose then "close" else "touch") ++ " " ++ l.createdAt.listText

/-- `time  pair  kind  prev -> current  detail`, where the detail names the level, or else the
average true range, or is empty; trailing blanks are dropped. -/
def eventLine (e : Event) : String :=
  let detail := match e.levelValue, e.levelId with
    | some v, some id => "level=" ++ fixedText 6 v ++ " (ID " ++ toString id ++ ")"
    | _, _ =>
      match e.atrValue with
      | some a => "atr=" ++ fixedText 6 a
      | none => ""
  trimEnd (e.time.listText ++ "  " ++ padRight 12 e.pair ++ " " ++ padRight 17 e.kind.name ++ " " ++
    fixedText 6 e.prevPrice ++ " -> " ++ fixedText 6 e.currentPrice ++ "  " ++ detail)

/-- The identifier of a recorded signal, then its event line. -/
def signalLine (r : Record) : String := padLeft 6 (toString r.id) ++ "  " ++ eventLine r.event

end LevelCross.Listing
