/-!
# Similar names

When a name is not known, the known names that resemble it are offered instead. Resemblance is
the Jaro similarity of the two character sequences: a character of the first matches an equal,
not yet matched character of the second at most `max len / 2 - 1` places away; with `m` matches
and `t` half the number of matched pairs out of order, the similarity is
`(m / len₁ + m / len₂ + (m - t) / m) / 3`, and `0` without matches. A known name resembles
another when the similarity exceeds `0.7`.
-/

namespace LevelCross.Text

/-- The matched characters of two sequences: for each character of the first in turn, the first
unmatched equal character of the second inside the window is matched to it. -/
def jaroMarks (a b : List Char) : List Bool × List Bool :=
  let window := max a.length b.length / 2 - 1
  a.zipIdx.foldl (fun (am, bm) (c, i) =>
    let hi := min b.length (i + window + 1)
    let hit := (List.range hi).find? fun j => i - window ≤ j && b[j]? == some c && bm[j]? == some false
    match hit with
    | some j => (am ++ [true], bm.set j true)
    | none => (am ++ [false], bm)) ([], List.replicate b.length false)

/-- The characters marked in a sequence, in order. -/
def marked (cs : List Char) (marks : List Bool) : List Char :=
  (cs.zip marks).filterMap fun (c, m) => if m then some c else none

/-- The Jaro similarity of two texts, between `0` and `1`. -/
def jaro (x y : String) : Float :=
  let a := x.toList
  let b := y.toList
  if a.isEmpty && b.isEmpty then 1.0
  else if a.isEmpty || b.isEmpty then 0.0
  else
    let (am, bm) := jaroMarks a b
    let ma := marked a am
    let mb := marked b bm
    let m := ma.length
    let t := ((ma.zip mb).filter fun (p, q) => p != q).length / 2
    if m == 0 then 0.0
    else (m.toFloat / a.length.toFloat + m.toFloat / b.length.toFloat +
      (m - t).toFloat / m.toFloat) / 3.0

/-- The known names that resemble a name, the most similar last; names equally similar keep
their order. -/
def similarNames (name : String) (known : List String) : List String :=
  let scored := (known.map fun k => (jaro name k, k)).filter fun (s, _) => s > 0.7
  (scored.mergeSort fun p q => decide (p.1 ≤ q.1)).map (·.2)

/-- The known name that resembles a name most, the later one among equals. -/
def closestName? (name : String) (known : List String) : Option String :=
  (similarNames name known).getLast?

end LevelCross.Text
