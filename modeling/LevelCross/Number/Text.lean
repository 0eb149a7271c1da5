import LevelCross.Number.Shortest

/-!
# Decimal text of doubles

Three texts of a double are used by this library:

* the shortest text, laid out by a `ShortestStyle`: where positional notation ends, whether an
  integral value keeps `.0`, and how ties between candidates go;
* the text with a fixed number of places, computed from the exact binary value with a half
  going to the even neighbour;
* the texts `NaN`, `inf` and `-inf` of the values that are not finite, shared by both.

A negative sign is written whenever the sign bit is set, so `-0.0` and negative values that
round to zero keep it.
-/

namespace LevelCross.Number

/-- The layout decisions of a shortest-digit text. -/
structure ShortestStyle where
  /-- positional notation is used for leading exponents in `[lo, hi]`; `none` means always -/
  positional : Option (Int × Int)
  /-- an integral positional value is written with `.0` -/
  pointZero : Bool
  /-- how an exact tie between the two nearest candidates is broken -/
  tie : Tie

/-- Plain text: always positional, no `.0` on integral values, ties upward. -/
def ShortestStyle.plain : ShortestStyle where
  positional := none
  pointZero := false
  tie := .up

/-- Data text: positional for leading exponents from `-5` to `15`, else `d.ddde±x` with no plus
sign; integral values keep `.0`; ties go to the even digit. -/
def ShortestStyle.data : ShortestStyle where
  positional := some (-5, 15)
  pointZero := true
  tie := .even

/-- A run of `n` zero digits. -/
def zeros (n : Nat) : String := String.ofList (List.replicate n '0')

/-- Lay out the digits of a decimal positionally. -/
def Dec.positional (d : Dec) (pointZero : Bool) : String :=
  let s := toString d.digits
  let n := s.length
  if d.exp ≥ 0 then
    s ++ zeros d.exp.toNat ++ (if pointZero then ".0" else "")
  else
    let p := (-d.exp).toNat
    if p < n then
      String.ofList (s.toList.take (n - p)) ++ "." ++ String.ofList (s.toList.drop (n - p))
    else "0." ++ zeros (p - n) ++ s

/-- Lay out the digits of a decimal as `d.ddd` times a power of ten, `e` marking the exponent. -/
def Dec.scientific (d : Dec) : String :=
  let s := toString d.digits
  let lead : Int := d.exp + s.length - 1
  let mant := match s.toList with
    | [c] => String.singleton c
    | c :: rest => String.singleton c ++ "." ++ String.ofList rest
    | [] => "0"
  mant ++ "e" ++ toString lead

/-- The text of a value that is not finite. -/
def nonFiniteText (x : Float) : String :=
  match shape x with
  | .nan => "NaN"
  | _ => if signBit x then "-inf" else "inf"

/-- The shortest text of a double in the given style. -/
def shortestText (st : ShortestStyle) (x : Float) : String :=
  match shape x with
  | .finite =>
    let sign := if signBit x then "-" else ""
    let m := magnitude x
    if m.mant == 0 then sign ++ (if st.pointZero then "0.0" else "0")
    else
      let d := m.shortest st.tie
      let lead : Int := d.exp + digitCount d.digits - 1
      let plainHere := match st.positional with
        | none => true
        | some (lo, hi) => lo ≤ lead && lead ≤ hi
      sign ++ (if plainHere then d.positional st.pointZero else d.scientific)
  | _ => nonFiniteText x

/-- The plain shortest text of a double: `100`, `0.1`, `-0`, `1e-7` as `0.0000001`. -/
def plainText (x : Float) : String := shortestText .plain x

/-- The data text of a double: `100.0`, `0.1`, `-0.0`, `1e-7`, `1e16`. -/
def dataText (x : Float) : String := shortestText .data x

/-- The text of a double with `places` digits after the point, rounded from the exact binary
value with a half going to the even neighbour. -/
def fixedText (places : Nat) (x : Float) : String :=
  match shape x with
  | .finite =>
    let sign := if signBit x then "-" else ""
    let e := (magnitude x).toExact
    let q :=
      if places ≥ e.scale then e.digits * Nat.pow 10 (places - e.scale)
      else roundHalfEven e.digits (Nat.pow 10 (e.scale - places))
    let whole := q / Nat.pow 10 places
    let frac := toString (q % Nat.pow 10 places)
    if places == 0 then sign ++ toString whole
    else sign ++ toString whole ++ "." ++ zeros (places - frac.length) ++ frac
  | _ => nonFiniteText x

end LevelCross.Number
