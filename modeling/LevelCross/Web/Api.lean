import LevelCross.Store.Signals
import LevelCross.Analysis.Crossing
import LevelCross.Json.Shape
import LevelCross.Json.Write
import LevelCross.Json.Records
import LevelCross.Web.Query
import LevelCross.Web.Media

/-!
# The administration service

A small JSON service over the store: levels are listed, created, updated and deactivated,
the signal history is listed a page at a time, and posted candles are checked against the
active levels of a pair without recording anything.

| method and path            | answer                                   |
|----------------------------|------------------------------------------|
| `GET /health`              | `ok`                                     |
| `GET /api/levels`          | the active levels, of `?pair=` if given  |
| `POST /api/levels`         | the created level, status 201            |
| `PUT /api/levels/ID`       | the updated level                        |
| `DELETE /api/levels/ID`    | success                                  |
| `GET /api/signals`         | a page of signals and the pagination     |
| `GET /api/signal_history`  | the same                                 |
| `POST /api/detect`         | the events of the posted candles         |

A known path with another method answers 405 with an empty body, and any other path 404.
`HEAD` is answered as `GET` without a body. A failure answers `{"success": false, "error": …}`:
a request that cannot be read with status 400, a failure of an operation with the status of
its kind. A body is read only with a JSON media type, against the shape of its request.
-/

namespace LevelCross.Web

open LevelCross.Store LevelCross.Json LevelCross.Time LevelCross.Text

/-- A request to the service. -/
structure Request where
  method : String
  /-- the path, then optionally `?` and the query -/
  target : String
  contentType : Option String := none
  body : String := ""

/-- A response: its status and the text of its body. -/
structure Response where
  status : Nat
  body : String

/-- A response with a JSON body. -/
def Response.json (status : Nat) (j : Json) : Response := ⟨status, compact j⟩

/-- The answer of a failure. -/
def failure (status : Nat) (message : String) : Response :=
  .json status (.obj [("success", .bool false), ("error", .str message)])

/-- The answer of a failed operation, with the status of its kind. -/
def errorResponse (e : Error) : Response := failure e.httpStatus e.message

/-- The answer of a success, with its fields. -/
def success (status : Nat) (fields : List (String × Json)) : Response :=
  .json status (.obj (("success", .bool true) :: fields))

/-- The body of a level to create. -/
def createShape : Shape :=
  .record "CreateLevelRequest"
    [("pair", .maybe .text, false), ("level", .maybe .real, false),
      ("direction", .maybe .text, false), ("confirm_close", .flag, true)]

/-- The body of a level update. -/
def updateShape : Shape :=
  .record "UpdateLevelRequest"
    [("level", .maybe .real, false), ("direction", .maybe .text, false),
      ("confirm_close", .maybe .flag, false)]

/-- A posted candle: prices may be absent. -/
def candleShape : Shape :=
  .record "CandleInput"
    [("timestamp", .stamp, false), ("open", .maybe .real, false), ("high", .maybe .real, false),
      ("low", .maybe .real, false), ("close", .maybe .real, false),
      ("volume", .maybe .real, false)]

/-- The body of a detection request. -/
def detectShape : Shape :=
  .record "DetectRequest" [("pair", .text, false), ("candles", .list candleShape, false)]

/-- The parameters of a level listing. -/
def levelParams : List (String × Param) := [("pair", .text)]

/-- The parameters of a signal listing. -/
def signalParams : List (String × Param) :=
  [("pair", .text), ("signal_type", .text), ("start_date", .text), ("end_date", .text),
    ("page", .count), ("per_page", .count), ("limit", .count)]

/-- The rejection of a body without a JSON media type. -/
def notJsonMessage : String := "Expected request with `Content-Type: application/json`"

/-- Read the body of a request against a shape, or the text of its rejection. -/
def readBody (r : Request) (s : Shape) : Except String Json :=
  if !(r.contentType.map isJsonType).getD false then .error notJsonMessage
  else
    match readAs s r.body with
    | .ok j => .ok j
    | .error f =>
      .error ((if f.isData then "Failed to deserialize the JSON body into the target type: "
        else "Failed to parse the request body as JSON: ") ++ f.render r.body.toList)

/-- Read the query of a request against its parameters, or the text of its rejection. -/
def readQuery (query : String) (spec : List (String × Param)) : Except String Json :=
  (readParams spec query).mapError ("Failed to deserialize query string: " ++ ·)

/-- A text parameter that is given and not blank. -/
def nonBlank : Json → Option String
  | .str s => if (trim s).isEmpty then none else some s
  | _ => none

/-- A double of a body, `NaN` when absent. -/
def priceOf (j : Json) : Float :=
  match j with
  | .float x => x
  | _ => Number.nan

/-- A candle of a detection request. -/
def candleOf (j : Json) : Candle :=
  let time := match j.field "timestamp" with
    | .str t => (parseDateTime dataLayout t).toOption.getD default
    | _ => default
  { time, openPrice := priceOf (j.field "open"), high := priceOf (j.field "high"),
    low := priceOf (j.field "low"), close := priceOf (j.field "close"),
    volume := match j.field "volume" with
      | .float x => x
      | _ => 0.0 }

/-- The identifier in a level path, or the text of its rejection. -/
def levelId (segment : String) : Except String Int :=
  let text := pathDecode segment
  match Number.readI64 text with
  | .ok n => .ok n
  | .error _ => .error ("Invalid URL: Cannot parse `" ++ text ++ "` to a `i64`")

/-- `GET /api/levels`. -/
def listLevels (db : Database) (query : String) : Response :=
  match readQuery query levelParams with
  | .error msg => failure 400 msg
  | .ok p =>
    match db.activeLevels (nonBlank (p.field "pair")) with
    | .ok ls => success 200 [("levels", .arr (ls.map levelJson))]
    | .error e => errorResponse e

/-- `POST /api/levels`: a pair and a price are required, the direction is `both` unless
given. -/
def createLevel (db : Database) (now : DateTime) (r : Request) : Database × Response :=
  match readBody r createShape with
  | .error msg => (db, failure 400 msg)
  | .ok b =>
    match nonBlank (b.field "pair"), b.field "level" with
    | none, _ => (db, failure 400 "Pair is required")
    | some pair, .float v =>
      let made : Except Error (Database × PriceLevel) := do
        let d ← match b.field "direction" with
          | .str s => Direction.parse s
          | _ => pure .both
        let cc := match b.field "confirm_close" with
          | .bool c => c
          | _ => false
        db.addLevel now (NewLevel.make pair v d cc)
      match made with
      | .ok (db', l) => (db', success 201 [("level", levelJson l)])
      | .error e => (db, errorResponse e)
    | some _, _ => (db, failure 400 "Level is required")

/-- `PUT /api/levels/ID`: the identifier is read before the body. -/
def updateLevel (db : Database) (segment : String) (r : Request) : Database × Response :=
  match levelId segment with
  | .error msg => (db, failure 400 msg)
  | .ok id =>
    match readBody r updateShape with
    | .error msg => (db, failure 400 msg)
    | .ok b =>
      let made : Except Error (Database × PriceLevel) := do
        let d ← match b.field "direction" with
          | .str s => some <$> Direction.parse s
          | _ => pure none
        let u : LevelUpdate :=
          { value := match b.field "level" with
              | .float x => some x
              | _ => none
            direction := d
            confirmClose := match b.field "confirm_close" with
              | .bool c => some c
              | _ => none }
        db.updateLevel id u
      match made with
      | .ok (db', l) => (db', success 200 [("level", levelJson l)])
      | .error e => (db, errorResponse e)

/-- `DELETE /api/levels/ID`. -/
def deleteLevel (db : Database) (segment : String) : Database × Response :=
  match levelId segment with
  | .error msg => (db, failure 400 msg)
  | .ok id =>
    match db.deactivateLevel id with
    | .ok db' => (db', success 200 [])
    | .error e => (db, errorResponse e)

/-- The rows per page when none is asked for. -/
def defaultPerPage : Nat := 20

/-- A count parameter that is given and positive. -/
def positiveCount : Json → Option Nat
  | .nat n => if n > 0 then some n else none
  | _ => none

/-- The page a signal listing asks for: the first unless `page` is given. -/
def pageParam (p : Json) : Nat :=
  match p.field "page" with
  | .nat n => n
  | _ => 1

/-- The filter of a signal listing: the pair as given, then the kind, the start and the end read
in that order, the first failure winning; no limit and no offset. -/
def signalFilter (p : Json) : Except Error Filter := do
  let kind ← match nonBlank (p.field "signal_type") with
    | some k => some <$> Kind.parse k
    | none => pure none
  let start ← match nonBlank (p.field "start_date") with
    | some d => some <$> parseStartBound d
    | none => pure none
  let finish ← match nonBlank (p.field "end_date") with
    | some d => some <$> parseEndBound d
    | none => pure none
  return { pair := nonBlank (p.field "pair"), kind, start, finish }

/-- `GET /api/signals`: a positive `limit` gives the newest rows as one page; otherwise `page`
and `per_page` choose a page. -/
def listSignals (db : Database) (query : String) : Response :=
  match readQuery query signalParams with
  | .error msg => failure 400 msg
  | .ok p =>
    let answer : Except Error Response := do
      let filter ← signalFilter p
      let total ← db.countSignals filter
      let (filter, pages) := match positiveCount (p.field "limit") with
        | some limit => ({ filter with limit }, (⟨min total limit, 1, 1, limit⟩ : Pagination))
        | none =>
          let perPage := (positiveCount (p.field "per_page")).getD defaultPerPage
          let pages := Pagination.make total (pageParam p) perPage
          ({ filter with limit := pages.perPage, offset := pages.offset }, pages)
      let rows ← db.signals filter
      return success 200 [("signals", .arr (rows.map signalJson)), ("pagination", paginationJson pages)]
    match answer with
    | .ok resp => resp
    | .error e => errorResponse e

/-- `POST /api/detect`: the events of the posted candles against the pair's active levels. -/
def runDetect (db : Database) (r : Request) : Response :=
  match readBody r detectShape with
  | .error msg => failure 400 msg
  | .ok b =>
    let pair := match b.field "pair" with
      | .str s => s
      | _ => ""
    let candles := match b.field "candles" with
      | .arr xs => xs.map candleOf
      | _ => []
    match db.activeLevels (some pair) with
    | .ok levels => success 200 [("events", .arr ((detect candles levels).map eventJson))]
    | .error e => errorResponse e

/-- The answer to a path that names nothing. -/
def notFound : Response := failure 404 "Not found"

/-- The answer to a method that a path does not take. -/
def methodNotAllowed : Response := ⟨405, ""⟩

/-- The identifier segment of a level path, if the path is one. -/
def levelSegment? (path : String) : Option String :=
  let pre := "/api/levels/".toList
  let cs := path.toList
  if pre.isPrefixOf cs then
    let seg := cs.drop pre.length
    if seg.isEmpty || seg.contains '/' then none else some (String.ofList seg)
  else none

/-- Answer a request at time `now`; the store after it comes with the answer. -/
def serve (db : Database) (now : DateTime) (r : Request) : Database × Response :=
  let (path, query) := splitTarget r.target
  let reading := r.method == "GET" || r.method == "HEAD"
  let bare (resp : Response) : Response := if r.method == "HEAD" then { resp with body := "" } else resp
  if path == "/health" then
    (db, if reading then bare ⟨200, "ok"⟩ else methodNotAllowed)
  else if path == "/api/levels" then
    if reading then (db, bare (listLevels db query))
    else if r.method == "POST" then createLevel db now r
    else (db, methodNotAllowed)
  else if path == "/api/signals" || path == "/api/signal_history" then
    (db, if reading then bare (listSignals db query) else methodNotAllowed)
  else if path == "/api/detect" then
    (db, if r.method == "POST" then runDetect db r else methodNotAllowed)
  else
    match levelSegment? path with
    | some seg =>
      if r.method == "PUT" then updateLevel db seg r
      else if r.method == "DELETE" then deleteLevel db seg
      else (db, methodNotAllowed)
    | none => (db, notFound)

end LevelCross.Web
