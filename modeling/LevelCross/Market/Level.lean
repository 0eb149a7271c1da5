import LevelCross.Market.Error
import LevelCross.Number.Text
import LevelCross.Number.Float
import LevelCross.Text.Blank
import LevelCross.Text.Case
import LevelCross.Time.Basic

/-!
# Price levels

A price level is a price on a pair that is watched for crossings. Its direction says which
side and which part of a candle count: the body moving up or down through the level, or a wick
poking through it and the body staying on the near side.

A stored level keeps its direction as the text it was stored with, so that rows written by
other tools survive; `PriceLevel.parsedDirection` reads it. A new level and an update are
validated before they are stored: a level must have a pair and a finite positive price.
-/

namespace LevelCross

open LevelCross.Number LevelCross.Text LevelCross.Time

/-- Which side of a level is watched, and whether the body or only a wick must cross it. -/
inductive Direction where
  | up
  | down
  | both
  | wickUp
  | wickDown
  | wickBoth
deriving DecidableEq, Repr, Inhabited

namespace Direction

/-- All directions, in the order they are tried when a text is read. -/
def all : List Direction := [up, down, both, wickUp, wickDown, wickBoth]

/-- The name of a direction. -/
def name : Direction → String
  | up => "up"
  | down => "down"
  | both => "both"
  | wickUp => "wick_up"
  | wickDown => "wick_down"
  | wickBoth => "wick_both"

/-- The body crossing upward is watched. -/
def watchesBodyUp : Direction → Bool
  | up | both => true
  | _ => false

/-- The body crossing downward is watched. -/
def watchesBodyDown : Direction → Bool
  | down | both => true
  | _ => false

/-- A wick poking up through the level is watched. -/
def watchesWickUp : Direction → Bool
  | wickUp | wickBoth => true
  | _ => false

/-- A wick poking down through the level is watched. -/
def watchesWickDown : Direction → Bool
  | wickDown | wickBoth => true
  | _ => false

/-- Read a direction: the text, trimmed and lower-cased, must be one of the names. -/
def parse (s : String) : Except Error Direction :=
  let wanted := toLower (trim s)
  match all.find? (·.name == wanted) with
  | some d => .ok d
  | none => .error (.invalidDirection s)

end Direction

/-- Trim a pair symbol and upper-case it: ` btc/usdt ` becomes `BTC/USDT`. -/
def normalizePair (pair : String) : String := toUpper (trim pair)

/-- A level price must be finite and positive. -/
def validatePrice (value : Float) : Except Error Unit :=
  if !isFinite value || value ≤ 0.0 then
    .error (.invalidLevel ("level must be a positive number, got " ++ plainText value))
  else .ok ()

/-- A stored price level. -/
structure PriceLevel where
  id : Int
  pair : String
  value : Float
  /-- the direction as stored, not necessarily a known name -/
  direction : String
  confirmClose : Bool
  active : Bool
  createdAt : DateTime
deriving Inhabited

/-- The stored direction, if it names one. -/
def PriceLevel.parsedDirection (l : PriceLevel) : Option Direction :=
  (Direction.parse l.direction).toOption

/-- A level to be created. -/
structure NewLevel where
  pair : String
  value : Float
  direction : Direction
  confirmClose : Bool

/-- A new level with its pair normalized. -/
def NewLevel.make (pair : String) (value : Float) (direction : Direction) (confirmClose : Bool) :
    NewLevel :=
  ⟨normalizePair pair, value, direction, confirmClose⟩

/-- A new level needs a pair and a valid price, checked in that order. -/
def NewLevel.validate (l : NewLevel) : Except Error Unit :=
  if l.pair.isEmpty then .error (.invalidLevel "pair is required") else validatePrice l.value

/-- A partial update of the fields of a level that may change. -/
structure LevelUpdate where
  value : Option Float := none
  direction : Option Direction := none
  confirmClose : Option Bool := none

namespace LevelUpdate

/-- Nothing would change. -/
def isEmpty (u : LevelUpdate) : Bool :=
  u.value.isNone && u.direction.isNone && u.confirmClose.isNone

/-- A new price, if any, must be valid. -/
def validate (u : LevelUpdate) : Except Error Unit :=
  match u.value with
  | some v => validatePrice v
  | none => .ok ()

/-- Apply the fields present; a direction is stored by its name. -/
def apply (u : LevelUpdate) (l : PriceLevel) : PriceLevel :=
  { l with
    value := u.value.getD l.value
    direction := (u.direction.map Direction.name).getD l.direction
    confirmClose := u.confirmClose.getD l.confirmClose }

end LevelUpdate

end LevelCross
