/-!
# Socket addresses

The service listens on a socket address written `a.b.c.d:n` or `[v6]:n`, where the
brackets may also hold a numeric scope after `%`. The four parts of an IPv4 address are
decimal below 256 with no leading zero; an IPv6 address is up to eight groups of one to four
hexadecimal digits separated by `:`, one run of zero groups written `::`, and its last two
groups possibly written as an IPv4 address. The number `n` after the colon is decimal below
65536. The whole text must be an address.
-/

namespace LevelCross.Web

/-- The value of a digit in a radix of at most sixteen. -/
def digitIn (radix : Nat) (c : Char) : Option Nat :=
  let v := if c.isDigit then some (c.toNat - '0'.toNat)
    else if 'a' ≤ c && c ≤ 'f' then some (c.toNat - 'a'.toNat + 10)
    else if 'A' ≤ c && c ≤ 'F' then some (c.toNat - 'A'.toNat + 10)
    else none
  v.filter (· < radix)

/-- Read a number from the front: every digit that follows, at least one and at most
`maxDigits` when given, a value below `bound`, and no leading zero before another digit unless
allowed. The value and the rest of the text. -/
def readNumber (radix : Nat) (maxDigits : Option Nat) (zeroPrefix : Bool) (bound : Nat)
    (cs : List Char) : Option (Nat × List Char) :=
  let digits := cs.takeWhile fun c => (digitIn radix c).isSome
  let value := digits.foldl (fun acc c => acc * radix + (digitIn radix c).getD 0) 0
  if digits.isEmpty then none
  else if maxDigits.any (digits.length > ·) then none
  else if value ≥ bound then none
  else if !zeroPrefix && digits.head? == some '0' && digits.length > 1 then none
  else some (value, cs.drop digits.length)

/-- The text after a separator, when it starts with it. -/
def afterChar (sep : Char) : List Char → Option (List Char)
  | c :: rest => if c == sep then some rest else none
  | [] => none

/-- Read an IPv4 address from the front: the rest of the text. -/
def readIpv4 (cs : List Char) : Option (List Char) := do
  let (_, r) ← readNumber 10 (some 3) false 256 cs
  let (_, r) ← readNumber 10 (some 3) false 256 (← afterChar '.' r)
  let (_, r) ← readNumber 10 (some 3) false 256 (← afterChar '.' r)
  let (_, r) ← readNumber 10 (some 3) false 256 (← afterChar '.' r)
  return r

/-- Read groups of an IPv6 address from the front, the `i`-th of at most `limit`, each after a
`:` but the first; an IPv4 address may stand for the last two. The number of groups read,
whether they ended in an IPv4 address, and the rest of the text. -/
def readGroups (limit : Nat) : Nat → Nat → List Char → Nat × Bool × List Char
  | 0, i, cs => (i, false, cs)
  | fuel + 1, i, cs =>
    if i ≥ limit then (i, false, cs)
    else
      let afterSep := if i > 0 then afterChar ':' cs else some cs
      match (if i + 1 < limit then afterSep.bind readIpv4 else none) with
      | some r => (i + 2, true, r)
      | none =>
        match afterSep.bind (readNumber 16 (some 4) true 65536) with
        | some (_, r) => readGroups limit fuel (i + 1) r
        | none => (i, false, cs)

/-- Read an IPv6 address from the front: the rest of the text. -/
def readIpv6 (cs : List Char) : Option (List Char) :=
  let (head, v4, r) := readGroups 8 8 0 cs
  if head == 8 then some r
  else if v4 then none
  else
    match r with
    | ':' :: ':' :: r => some (readGroups (8 - (head + 1)) 8 0 r).2.2
    | _ => none

/-- Read the number after the colon of a socket address; the rest of the text. -/
def readListenNumber (cs : List Char) : Option (List Char) := do
  let (_, r) ← readNumber 10 none true 65536 (← afterChar ':' cs)
  return r

/-- The text is a socket address. -/
def isSocketAddress (s : String) : Bool :=
  let cs := s.toList
  let v4 := (readIpv4 cs).bind readListenNumber
  let v6 : Option (List Char) := do
    let r ← readIpv6 (← afterChar '[' cs)
    let r := match afterChar '%' r >>= readNumber 10 none true (Nat.pow 2 32) with
      | some (_, rest) => rest
      | none => r
    readListenNumber (← afterChar ']' r)
  v4 == some [] || v6 == some []

example : isSocketAddress "127.0.0.1:3000" = true := by decide +kernel
example : isSocketAddress "not-an-address" = false := by decide +kernel
example : isSocketAddress "[::1]:8080" = true := by decide +kernel

end LevelCross.Web
