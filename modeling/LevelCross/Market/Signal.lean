import LevelCross.Market.Error
import LevelCross.Number.Text
import LevelCross.Text.Blank
import LevelCross.Text.Case
import LevelCross.Time.Parse

/-!
# Signals

A signal is an event on a pair at a candle: one of the four level crossings, or a surge of the
average true range. The kinds are ordered by priority, crossings first. A recorded signal adds
an identifier and the time it was recorded.

This module also holds what is said about signals: the notification text, the pages of a
history listing and the bounds of a time filter.
-/

namespace LevelCross

open LevelCross.Number LevelCross.Text LevelCross.Time

/-- The kinds of signal, in priority order. -/
inductive Kind where
  | crossUp
  | crossDown
  | wickUp
  | wickDown
  | atrSurge
deriving DecidableEq, Repr, Inhabited

namespace Kind

/-- All kinds, in priority order. -/
def all : List Kind := [crossUp, crossDown, wickUp, wickDown, atrSurge]

/-- The position of a kind in the priority order. -/
def rank : Kind → Nat
  | crossUp => 0
  | crossDown => 1
  | wickUp => 2
  | wickDown => 3
  | atrSurge => 4

/-- The name of a kind. -/
def name : Kind → String
  | crossUp => "level_cross_up"
  | crossDown => "level_cross_down"
  | wickUp => "level_wick_up"
  | wickDown => "level_wick_down"
  | atrSurge => "atr_surge"

/-- The heading of a notification about a kind. -/
def title : Kind → String
  | crossUp => "Level Cross UP"
  | crossDown => "Level Cross DOWN"
  | wickUp => "Wick UP Liquidity Sweep"
  | wickDown => "Wick DOWN Liquidity Sweep"
  | atrSurge => "ATR Surge"

/-- The kinds raised by a level. -/
def isLevelKind : Kind → Bool
  | atrSurge => false
  | _ => true

/-- Read a kind: the text, trimmed and lower-cased, must be one of the names. -/
def parse (s : String) : Except Error Kind :=
  let wanted := toLower (trim s)
  match all.find? (·.name == wanted) with
  | some k => .ok k
  | none => .error (.invalidKind s)

end Kind

/-- A signal as raised, before it is recorded. -/
structure Event where
  pair : String
  kind : Kind
  levelId : Option Int := none
  levelValue : Option Float := none
  prevPrice : Float
  currentPrice : Float
  atrValue : Option Float := none
  time : DateTime
deriving Inhabited

/-- A recorded signal. -/
structure Record where
  id : Int
  event : Event
  createdAt : DateTime
deriving Inhabited

/-- The bookkeeping of one page of a listing. -/
structure Pagination where
  totalCount : Nat
  totalPages : Nat
  currentPage : Nat
  perPage : Nat
deriving DecidableEq, Repr

/-- Pages of at least one row; the page asked for is clamped into `[1, totalPages]`, and is
the first page when there are no rows. -/
def Pagination.make (totalCount page perPage : Nat) : Pagination :=
  let perPage := max perPage 1
  let totalPages := (totalCount + perPage - 1) / perPage
  ⟨totalCount, totalPages, min (max page 1) (max totalPages 1), perPage⟩

/-- The number of rows before the current page. -/
def Pagination.offset (p : Pagination) : Nat := (p.currentPage - 1) * p.perPage

/-- What a history listing selects: optional pair, kind and inclusive time bounds, then a
window of rows; a limit of zero means no limit. -/
structure Filter where
  pair : Option String := none
  kind : Option Kind := none
  start : Option DateTime := none
  finish : Option DateTime := none
  limit : Nat := 0
  offset : Nat := 0

/-- The lines of a notification about an event. A surge reports the change of the average
true range against `atrPrev`; a crossing reports its level. Prices have six places and the
change two. -/
def notificationText (e : Event) (timeframe : String) (atrPrev : Option Float) : String :=
  let details :=
    match e.kind, e.levelValue, e.levelId with
    | .atrSurge, _, _ =>
      let change := match e.atrValue, atrPrev with
        | some atr, some prev => if prev != 0.0 then (atr / prev - 1.0) * 100.0 else 0.0
        | _, _ => 0.0
      "- ATR change: " ++ fixedText 2 change ++ "%"
    | _, some level, some id => "- Level: " ++ fixedText 6 level ++ " (ID: " ++ toString id ++ ")"
    | _, some level, none => "- Level: " ++ fixedText 6 level
    | _, none, _ => "- Level: unknown"
  let atr := match e.atrValue with
    | some a => fixedText 6 a
    | none => "n/a"
  e.kind.title ++ " on " ++ e.pair ++ " (" ++ timeframe ++ ")\n" ++ details ++ "\n- ATR: " ++
    atr ++ "\n- Previous price: " ++ fixedText 6 e.prevPrice ++ "\n- Current price: " ++
    fixedText 6 e.currentPrice

/-- Read a bound of a time filter: a full timestamp with a blank or `T` between date and time,
the latter with an optional fraction; else a date, taken at the time of day given. -/
def parseBound (value : String) (dateOnlyTime : Nat × Nat × Nat) : Except Error DateTime :=
  let t := trim value
  let tries := [listLayout, isoLayout, isoFractionLayout].filterMap
    fun fs => (parseDateTime fs t).toOption
  match tries.head? with
  | some ts => .ok ts
  | none =>
    match parseDate dateLayout t with
    | .ok d => .ok (d.atTime dateOnlyTime.1 dateOnlyTime.2.1 dateOnlyTime.2.2)
    | .error _ => .error (.invalidTimestamp value)

/-- A start bound: a bare date means its midnight. -/
def parseStartBound (value : String) : Except Error DateTime := parseBound value (0, 0, 0)

/-- An end bound: a bare date means its last whole second. -/
def parseEndBound (value : String) : Except Error DateTime := parseBound value (23, 59, 59)

end LevelCross

namespace LevelCross

/-- A filter from texts: the pair as given, then the kind, the start and the end read in that
order, the first failure winning. -/
def Filter.ofTexts (pair kind start finish : Option String) (limit offset : Nat) :
    Except Error Filter := do
  let kind ← match kind with
    | some k => some <$> Kind.parse k
    | none => pure none
  let start ← match start with
    | some s => some <$> parseStartBound s
    | none => pure none
  let finish ← match finish with
    | some s => some <$> parseEndBound s
    | none => pure none
  return { pair, kind, start, finish, limit, offset }

end LevelCross
