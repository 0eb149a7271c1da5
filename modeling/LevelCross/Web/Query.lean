import LevelCross.Web.Url
import LevelCross.Json.Value
import LevelCross.Number.Read

/-!
# Query parameters

The parameters a handler takes from the query form a record of optional texts and optional
counts. The pairs are read in order: a known name given a second time fails as a duplicate,
a count must be an unsigned 64-bit integer, and unknown names are ignored. A parameter that is
not given is `null`.

A failure of one parameter carries its name, as in `page: invalid digit found in string`.
-/

namespace LevelCross.Web

open LevelCross.Number

/-- The kind of value of a query parameter. -/
inductive Param where
  | text
  | count
deriving DecidableEq, Repr

/-- The value of one parameter read from its text. -/
def Param.read (p : Param) (name value : String) : Except String Json :=
  match p with
  | .text => .ok (.str value)
  | .count =>
    match readU64 value with
    | .ok n => .ok (.nat n)
    | .error e => .error (name ++ ": " ++ e.message)

/-- Read the parameters of a record from a query: the given ones in the order of the record,
`null` for those not given. -/
def readParams (spec : List (String × Param)) (query : String) : Except String Json := do
  let given ← (queryPairs query).foldlM (fun (acc : List (String × Json)) (name, value) =>
    match spec.find? (·.1 == name) with
    | some (_, p) =>
      if acc.any (·.1 == name) then .error ("duplicate field `" ++ name ++ "`")
      else do return acc ++ [(name, ← p.read name value)]
    | none => .ok acc) []
  return .obj (spec.map fun (name, _) => (name, ((given.find? (·.1 == name)).map (·.2)).getD .null))

end LevelCross.Web
