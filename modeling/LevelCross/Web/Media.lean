import LevelCross.Web.Url

/-!
# Media types

A media type is written `type/subtype`, optionally followed by parameters `;name=value`, each
part made of token characters and a value possibly quoted. Type and subtype compare without
regard to ASCII case. A body is JSON when its type is `application` and its subtype is `json`
or ends in the suffix `+json`.
-/

namespace LevelCross.Web

/-- The characters of a token. -/
def isTokenChar (c : Char) : Bool :=
  c.toNat < 128 && (c.isAlphanum || "!#$%&'*+-.^_`|~".toList.contains c)

/-- The characters allowed inside a quoted parameter value. -/
def isQuotedChar (c : Char) : Bool :=
  let n := c.toNat
  n == 9 || (32 ≤ n && n < 127 && c != '"')

/-- A parameter `name=value`, the value a token or a quoted text, possibly after blanks. -/
def isParameter (p : List Char) : Bool :=
  let p := p.dropWhile (· == ' ')
  let name := p.takeWhile (· != '=')
  let value := (p.dropWhile (· != '=')).drop 1
  !name.isEmpty && name.all isTokenChar && p.contains '=' &&
    match value with
    | '"' :: rest => rest.getLast? == some '"' && (rest.dropLast.all isQuotedChar)
    | _ => value.all isTokenChar

/-- The type and subtype of a well-formed media type, lower-cased. -/
def mediaType? (s : String) : Option (String × String) :=
  let cs := s.toList
  let main := cs.takeWhile (· != ';')
  let params := (cs.dropWhile (· != ';')).drop 1
  let kind := main.takeWhile (· != '/')
  let sub := (main.dropWhile (· != '/')).drop 1
  let paramsOk := if cs.contains ';' then
      params.isEmpty || (splitOn ';' params).all isParameter
    else true
  if !kind.isEmpty && main.contains '/' && kind.all isTokenChar && sub.all isTokenChar && paramsOk then
    some (String.ofList (kind.map Char.toLower), String.ofList (sub.map Char.toLower))
  else none

/-- The media type names a JSON body. -/
def isJsonType (s : String) : Bool :=
  match mediaType? s with
  | some (kind, sub) =>
    kind == "application" && (sub == "json" || (sub.toList.contains '+' &&
      String.ofList ((sub.toList.reverse.takeWhile (· != '+')).reverse) == "json"))
  | none => false

example : isJsonType "application/json" = true := by decide +kernel
example : isJsonType "application/vnd.api+json" = true := by decide +kernel
example : isJsonType "text/plain" = false := by decide +kernel

end LevelCross.Web
