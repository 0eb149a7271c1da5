import LevelCross.Number.Read
import LevelCross.Text.Blank
import LevelCross.Text.Case

/-!
# Settings files

A settings file is a sequence of lines. On each line a `;` or `#` starts a comment that runs to
the end of the line, and blanks around what remains are dropped. A line `[name]` opens a
section; a line `key = value` or `key: value` sets a key of the current section, splitting at
the first `=` or `:`; a line with neither sets the key with no value. Keys before the first
section belong to the section `default`. Section names and keys are compared lower-cased, and a
later setting of a key replaces an earlier one.

Two lines are refused: a `[` without a closing `]`, and an empty key.
-/

namespace LevelCross.Config

open LevelCross.Number LevelCross.Text

/-- One setting: section, key and value, names lower-cased. -/
structure Entry where
  sectionName : String
  key : String
  value : Option String

/-- The settings read from a file, in the order they were written. -/
structure Settings where
  entries : List Entry := []

/-- The lines of a text: split at line feeds, a carriage return before a line feed dropped,
and no empty last line after a final line feed. -/
def textLines (s : String) : List String :=
  let parts := s.splitOn "\n"
  let parts := if parts.getLast? == some "" then parts.dropLast else parts
  parts.map fun p => if p.endsWith "\r" then String.ofList p.toList.dropLast else p

/-- The part of a line before its comment. -/
def stripComment (line : String) : String :=
  String.ofList (line.toList.takeWhile fun c => c != ';' && c != '#')

/-- The state of reading: the current section and the settings so far. -/
structure ReadState where
  current : String := "default"
  entries : List Entry := []

/-- Read one line, numbered from one. -/
def readLine (st : ReadState) (num : Nat) (raw : String) : Except String ReadState :=
  let line := trim (stripComment raw)
  let cs := line.toList
  if cs.isEmpty then .ok st
  else if cs.head? == some '[' then
    match (cs.reverse.findIdx? (· == ']')) with
    | some k =>
      let close := cs.length - 1 - k
      let inner := String.ofList ((cs.take close).drop 1)
      .ok { st with current := toLower (trim inner) }
    | none =>
      .error ("line " ++ toString num ++
        ": Found opening bracket for section name but no closing bracket")
  else
    match cs.findIdx? (fun c => c == '=' || c == ':') with
    | some i =>
      let key := toLower (trim (String.ofList (cs.take i)))
      if key.isEmpty then
        .error ("line " ++ toString num ++ ":" ++ toString (String.ofList (cs.take i)).utf8ByteSize ++
          ": Key cannot be empty")
      else
        let value := trim (String.ofList (cs.drop (i + 1)))
        .ok { st with entries := st.entries ++ [⟨st.current, key, some value⟩] }
    | none => .ok { st with entries := st.entries ++ [⟨st.current, toLower line, none⟩] }

/-- Read a settings text, or give the description of its first bad line. -/
def Settings.parse (s : String) : Except String Settings := do
  let st ← (textLines s).zipIdx.foldlM (fun st (line, i) => readLine st (i + 1) line) {}
  return ⟨st.entries⟩

namespace Settings

/-- The value of a key, the last setting winning; `none` when absent or set without a value. -/
def get (cfg : Settings) (sectionName key : String) : Option String :=
  let s := toLower sectionName
  let k := toLower key
  match cfg.entries.reverse.find? (fun e => e.sectionName == s && e.key == k) with
  | some e => e.value
  | none => none

/-- A text value that is not blank. -/
def getString (cfg : Settings) (sectionName key : String) : Option String :=
  (cfg.get sectionName key).filter fun v => !(trim v).isEmpty

/-- A signed 64-bit integer value, or the default when absent or not an integer. -/
def getInt (cfg : Settings) (sectionName key : String) (default : Int) : Int :=
  match cfg.get sectionName key with
  | some v => (readI64 v).toOption.getD default
  | none => default

/-- A decimal value, or the default when absent or not a decimal. -/
def getFloat (cfg : Settings) (sectionName key : String) (default : Float) : Float :=
  match cfg.get sectionName key with
  | some v => (readFloat v).toOption.getD default
  | none => default

/-- Read a truth value: `true`, `yes`, `on`, `1` or `false`, `no`, `off`, `0`, in any case and
with blanks around. -/
def readBool (v : String) : Option Bool :=
  match toLower (trim v) with
  | "true" | "yes" | "on" | "1" => some true
  | "false" | "no" | "off" | "0" => some false
  | _ => none

/-- A truth value, or the default when absent or not a truth value. -/
def getBool (cfg : Settings) (sectionName key : String) (default : Bool) : Bool :=
  ((cfg.get sectionName key).bind readBool).getD default

end Settings

end LevelCross.Config
