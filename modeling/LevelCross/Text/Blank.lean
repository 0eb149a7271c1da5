/-!
# Blank characters

The characters with the Unicode `White_Space` property, and trimming of text by them. This is
the class that counts as blank around a pair name, a direction, a timestamp or a settings value.
-/

namespace LevelCross.Text

/-- The Unicode `White_Space` characters: the ASCII controls from tab to carriage return, the
space, next line, no-break space, ogham space mark, the spaces from en quad to hair space, the
line and paragraph separators, the narrow no-break space, the medium mathematical space and the
ideographic space. -/
def isBlank (c : Char) : Bool :=
  let n := c.toNat
  (0x09 ≤ n && n ≤ 0x0D) || n == 0x20 || n == 0x85 || n == 0xA0 || n == 0x1680 ||
    (0x2000 ≤ n && n ≤ 0x200A) || n == 0x2028 || n == 0x2029 || n == 0x202F ||
    n == 0x205F || n == 0x3000

/-- Drop the blank characters at the front of a character list. -/
def dropBlank (cs : List Char) : List Char := cs.dropWhile isBlank

/-- The text without its leading blank characters. -/
def trimStart (s : String) : String := String.ofList (dropBlank s.toList)

/-- The text without its trailing blank characters. -/
def trimEnd (s : String) : String := String.ofList (dropBlank s.toList.reverse).reverse

/-- The text without blank characters at either end. -/
def trim (s : String) : String := trimEnd (trimStart s)

theorem isBlank_of_isWhitespace (c : Char) (h : c.isWhitespace = true) : isBlank c = true := by
  simp only [Char.isWhitespace, Bool.or_eq_true, decide_eq_true_eq] at h
  simp only [isBlank, Bool.or_eq_true, Bool.and_eq_true, beq_iff_eq, decide_eq_true_eq]
  rcases h with ((h | h) | h) | h <;> simp [h]

example : trim "　 a b\t\n" = "a b" := by decide +kernel

end LevelCross.Text
