/-!
# Failures

Every way an operation of this library can fail, as one inductive type. The text shown for a
failure, the exit status of the command line and the HTTP status of the web interface are
functions of it, so each decision is made once.
-/

namespace LevelCross

/-- Why an operation failed. -/
inductive Error where
  /-- the store could not be used -/
  | database (reason : String)
  /-- a statement on the store failed -/
  | query (reason : String)
  /-- a settings file could not be read as settings -/
  | configParse (file reason : String)
  /-- a required setting is absent -/
  | configMissing (sectionName key : String)
  /-- a setting has a value that cannot be used -/
  | configInvalid (sectionName key reason : String)
  /-- a text names no level direction -/
  | invalidDirection (value : String)
  /-- a text names no signal kind -/
  | invalidKind (value : String)
  /-- a level fails validation -/
  | invalidLevel (reason : String)
  /-- a text is no timestamp bound -/
  | invalidTimestamp (value : String)
  /-- no level has this identifier -/
  | levelNotFound (id : Int)
  /-- no candles are available for a pair and timeframe -/
  | noData (pair timeframe : String)
  /-- a notification could not be delivered -/
  | notify (reason : String)
  /-- a file or socket operation failed; the text is shown as it is -/
  | io (text : String)
deriving DecidableEq, Repr, Inhabited

namespace Error

/-- The text shown for a failure. -/
def message : Error → String
  | database r => "database error: " ++ r
  | query r => "database query error: " ++ r
  | configParse f r => "config parse error in " ++ f ++ ": " ++ r
  | configMissing s k => "missing config key [" ++ s ++ "] " ++ k
  | configInvalid s k r => "invalid config value [" ++ s ++ "] " ++ k ++ ": " ++ r
  | invalidDirection v =>
    "invalid direction '" ++ v ++
      "' (expected one of: up, down, both, wick_up, wick_down, wick_both)"
  | invalidKind v => "invalid signal kind '" ++ v ++ "'"
  | invalidLevel r => "invalid price level: " ++ r
  | invalidTimestamp v => "invalid timestamp '" ++ v ++ "'"
  | levelNotFound i => "price level with ID " ++ toString i ++ " not found"
  | noData p t => "no candle data for " ++ p ++ " (" ++ t ++ ")"
  | notify r => "notification failed: " ++ r
  | io t => t

/-- Failures caused by what the caller supplied rather than by the environment. -/
def isInvalidInput : Error → Bool
  | invalidDirection _ | invalidKind _ | invalidLevel _ | invalidTimestamp _
  | levelNotFound _ => true
  | _ => false

/-- The exit status of the command line: 1 for delivery and input-output failures, 2 for
settings, 3 for the store, 4 for invalid input and 5 for missing candles. -/
def exitCode : Error → Nat
  | io _ | notify _ => 1
  | configParse .. | configMissing .. | configInvalid .. => 2
  | database _ | query _ => 3
  | noData .. => 5
  | _ => 4

/-- The HTTP status of a failure: not found, unprocessable, bad request or server error. -/
def httpStatus (e : Error) : Nat :=
  match e with
  | levelNotFound _ => 404
  | noData .. => 422
  | _ => if e.isInvalidInput then 400 else 500

theorem exitCode_eq_four_iff (e : Error) : e.exitCode = 4 ↔ e.isInvalidInput = true := by
  cases e <;> simp [exitCode, isInvalidInput]

end Error

end LevelCross
