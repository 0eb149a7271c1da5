/-!
# Decoding UTF-8 with replacement

Bytes are decoded as UTF-8 from the left. A well-formed sequence gives its character; at a
byte that cannot start or continue a well-formed sequence, the longest prefix of a sequence
that was still well formed is replaced by one `U+FFFD`, and decoding resumes at the byte that
broke it. This is the replacement rule of the Unicode standard (maximal subparts).
-/

namespace LevelCross.Text

/-- The replacement character. -/
def replacement : Char := Char.ofNat 0xFFFD

/-- The ranges the continuation bytes of a sequence must lie in, by its first byte; `none` for a
byte that starts no sequence. -/
def continuationRanges (b : UInt8) : Option (List (UInt8 × UInt8)) :=
  if b < 0x80 then some []
  else if 0xC2 ≤ b && b ≤ 0xDF then some [(0x80, 0xBF)]
  else if b == 0xE0 then some [(0xA0, 0xBF), (0x80, 0xBF)]
  else if b == 0xED then some [(0x80, 0x9F), (0x80, 0xBF)]
  else if 0xE1 ≤ b && b ≤ 0xEF then some [(0x80, 0xBF), (0x80, 0xBF)]
  else if b == 0xF0 then some [(0x90, 0xBF), (0x80, 0xBF), (0x80, 0xBF)]
  else if 0xF1 ≤ b && b ≤ 0xF3 then some [(0x80, 0xBF), (0x80, 0xBF), (0x80, 0xBF)]
  else if b == 0xF4 then some [(0x80, 0x8F), (0x80, 0xBF), (0x80, 0xBF)]
  else none

/-- How many of the bytes lie in the ranges, from the first on. -/
def fitting : List (UInt8 × UInt8) → List UInt8 → Nat
  | (lo, hi) :: rs, b :: bs => if lo ≤ b && b ≤ hi then fitting rs bs + 1 else 0
  | _, _ => 0

/-- The code point of a well-formed sequence. -/
def codePoint (first : UInt8) (rest : List UInt8) : Nat :=
  let lead := first.toNat
  let init :=
    if rest.length == 0 then lead
    else if rest.length == 1 then lead % 0x20
    else if rest.length == 2 then lead % 0x10
    else lead % 0x08
  rest.foldl (fun acc b => acc * 64 + b.toNat % 64) init

/-- Decode bytes, replacing ill-formed parts; the fuel bounds the steps, each of which takes at
least one byte. -/
def decodeWith : Nat → List UInt8 → List Char → List Char
  | 0, _, acc => acc.reverse
  | _, [], acc => acc.reverse
  | fuel + 1, b :: bs, acc =>
    match continuationRanges b with
    | none => decodeWith fuel bs (replacement :: acc)
    | some ranges =>
      let k := fitting ranges bs
      if k == ranges.length then
        decodeWith fuel (bs.drop k) (Char.ofNat (codePoint b (bs.take k)) :: acc)
      else decodeWith fuel (bs.drop k) (replacement :: acc)

/-- The text of a list of bytes, ill-formed parts replaced. -/
def decodeLossy (bs : List UInt8) : String :=
  String.ofList (decodeWith (bs.length + 1) bs [])

example : decodeLossy [0x61, 0x2F, 0x42] = "a/B" := by decide +kernel

example : decodeLossy [0x61, 0xE2, 0x82, 0x41] = "a\uFFFDA" := by decide +kernel

end LevelCross.Text
