/-!
# JSON values

A JSON value keeps the kind of its numbers: a non-negative integer that fits in 64 bits, a
negative integer that fits in 64 bits, or a double. Objects keep their members in order; as
maps they are read with the last member of a name winning, and `Json.canonical` puts every
object into that form, members sorted by name.
-/

namespace LevelCross

/-- A JSON value. -/
inductive Json where
  | null
  | bool (b : Bool)
  /-- an integer in `0 .. 2^64 - 1` -/
  | nat (n : Nat)
  /-- a negative integer in `-2^63 .. -1` -/
  | neg (n : Int)
  /-- any other number, as a double -/
  | float (x : Float)
  | str (s : String)
  | arr (xs : List Json)
  | obj (members : List (String × Json))
deriving Inhabited

namespace Json

/-- The value of a member of an object, the last one of that name; `none` for a non-object. -/
def get? (j : Json) (name : String) : Option Json :=
  match j with
  | obj ms => (ms.reverse.find? (·.1 == name)).map (·.2)
  | _ => none

/-- The member of that name, with `null` standing for an absent member. -/
def field (j : Json) (name : String) : Json := (j.get? name).getD null

/-- A value is `null`. -/
def isNull : Json → Bool
  | null => true
  | _ => false

/-- Insert a member into members sorted by name, replacing one of the same name. -/
def insertSorted (k : String) (v : Json) : List (String × Json) → List (String × Json)
  | [] => [(k, v)]
  | (k', v') :: rest =>
    if k == k' then (k, v) :: rest
    else if k < k' then (k, v) :: (k', v') :: rest
    else (k', v') :: insertSorted k v rest

/-- Every object as a map: members sorted by name, the last of a name winning. -/
def canonical : Json → Json
  | arr xs => arr (xs.attach.map fun ⟨x, _⟩ => canonical x)
  | obj ms => obj (ms.attach.foldl (fun acc ⟨(k, v), _⟩ => insertSorted k (canonical v) acc) [])
  | j => j
decreasing_by
  · have := List.sizeOf_lt_of_mem ‹_›
    simp_wf
    omega
  · have := List.sizeOf_lt_of_mem ‹_›
    simp_wf
    simp only [Prod.mk.sizeOf_spec] at this
    omega

/-- An integer as a JSON number of the right kind. -/
def ofInt (n : Int) : Json := if n < 0 then neg n else nat n.toNat

/-- An optional value, `null` when absent. -/
def ofOption {α : Type} (f : α → Json) : Option α → Json
  | some a => f a
  | none => null

end Json

end LevelCross
