/-!
# Runs of a case mapping

A case mapping that sends each character of an arithmetic progression of code points to the
character a fixed distance away is stored as one `CaseRun`. Upper and lower case of most
alphabets are such runs, with a step of one (a block of capitals, then a block of small
letters) or of two (capital and small letters alternating).
-/

namespace LevelCross.Text

/-- The code points `start + k * stride` for `k < count`, each mapped to itself plus `delta`. -/
structure CaseRun where
  start : Nat
  count : Nat
  stride : Nat
  delta : Int
deriving DecidableEq, Repr

/-- Whether the run covers the code point. -/
def CaseRun.covers (r : CaseRun) (n : Nat) : Bool :=
  r.start ≤ n && (n - r.start) % r.stride == 0 && (n - r.start) / r.stride < r.count

/-- The image of a code point under the first run of the list that covers it. -/
def CaseRun.lookup (rs : List CaseRun) (n : Nat) : Option Nat :=
  (rs.find? (·.covers n)).map fun r => ((n : Int) + r.delta).toNat

end LevelCross.Text
