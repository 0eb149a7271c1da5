import LevelCross.Json.Value
import LevelCross.Number.Text
import LevelCross.Number.Float

/-!
# Writing JSON text

Two layouts of one value: compact, with no blanks at all, and indented, with every element and
member on a line of its own, two spaces deeper than its container, and an empty array or object
written `[]` or `{}`. Members are written in their order. A double is written in its shortest
data text (`1.0`, `1e-7`), and a double that is not finite is written `null`. In strings the
quote, the backslash and the control characters are escaped; all else is written as it is.
-/

namespace LevelCross.Json

open LevelCross.Number

/-- The hexadecimal digits, lower case. -/
def hexDigit (n : Nat) : Char := "0123456789abcdef".toList.getD n '0'

/-- The written form of one character inside a string. -/
def escapeChar (c : Char) : List Char :=
  match c with
  | '"' => ['\\', '"']
  | '\\' => ['\\', '\\']
  | '\n' => ['\\', 'n']
  | '\r' => ['\\', 'r']
  | '\t' => ['\\', 't']
  | _ =>
    if c.toNat == 8 then ['\\', 'b']
    else if c.toNat == 12 then ['\\', 'f']
    else if c.toNat < 0x20 then ['\\', 'u', '0', '0', hexDigit (c.toNat / 16), hexDigit (c.toNat % 16)]
    else [c]

/-- A string in quotes, escaped. -/
def quote (s : String) : String := "\"" ++ String.ofList (s.toList.flatMap escapeChar) ++ "\""

/-- The text of a number or of a value without parts. -/
def scalarText : Json → String
  | .null => "null"
  | .bool b => if b then "true" else "false"
  | .nat n => toString n
  | .neg n => toString n
  | .float x => if isFinite x then dataText x else "null"
  | .str s => quote s
  | .arr _ => "[]"
  | .obj _ => "\x7b\x7d"

/-- The compact text of a value. -/
def compact : Json → String
  | .arr xs => "[" ++ ",".intercalate (xs.attach.map fun ⟨x, _⟩ => compact x) ++ "]"
  | .obj ms =>
    "\x7b" ++ ",".intercalate (ms.attach.map fun ⟨(k, v), _⟩ => quote k ++ ":" ++ compact v) ++
      "\x7d"
  | j => scalarText j
decreasing_by
  · have := List.sizeOf_lt_of_mem ‹_›
    simp_wf
    omega
  · have := List.sizeOf_lt_of_mem ‹_›
    simp_wf
    simp only [Prod.mk.sizeOf_spec] at this
    omega

/-- Two spaces for each level of depth. -/
def indent (depth : Nat) : String := String.ofList (List.replicate (2 * depth) ' ')

/-- The indented text of a value standing at the given depth. -/
def pretty (depth : Nat) : Json → String
  | .arr [] => "[]"
  | .obj [] => "\x7b\x7d"
  | .arr xs =>
    "[\n" ++ ",\n".intercalate (xs.attach.map fun ⟨x, _⟩ => indent (depth + 1) ++ pretty (depth + 1) x) ++
      "\n" ++ indent depth ++ "]"
  | .obj ms =>
    "\x7b\n" ++ ",\n".intercalate (ms.attach.map fun ⟨(k, v), _⟩ =>
      indent (depth + 1) ++ quote k ++ ": " ++ pretty (depth + 1) v) ++ "\n" ++ indent depth ++ "\x7d"
  | j => scalarText j
termination_by j => j
decreasing_by
  · have := List.sizeOf_lt_of_mem ‹_›
    simp_wf
    omega
  · have := List.sizeOf_lt_of_mem ‹_›
    simp_wf
    simp only [Prod.mk.sizeOf_spec] at this
    omega

end LevelCross.Json
