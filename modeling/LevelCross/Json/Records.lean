import LevelCross.Market.Level
import LevelCross.Market.Signal
import LevelCross.Json.Value

/-!
# Records as JSON

Levels, events, recorded signals and pages as JSON objects, their members in a fixed order.
A time is written in its ISO form, and a missing value as `null`.
-/

namespace LevelCross.Json

open LevelCross.Time

/-- A level as the service and the command line show it. -/
def levelJson (l : PriceLevel) : Json :=
  .obj [("id", .ofInt l.id), ("pair", .str l.pair), ("level", .float l.value),
    ("direction", .str l.direction), ("confirm_close", .bool l.confirmClose),
    ("active", .bool l.active), ("created_at", .str l.createdAt.isoText)]

/-- An event as the service and the command line show it. -/
def eventJson (e : Event) : Json :=
  .obj [("pair", .str e.pair), ("kind", .str e.kind.name), ("level_id", .ofOption .ofInt e.levelId),
    ("level_value", .ofOption .float e.levelValue), ("prev_price", .float e.prevPrice),
    ("current_price", .float e.currentPrice), ("atr_value", .ofOption .float e.atrValue),
    ("timestamp", .str e.time.isoText)]

/-- A recorded signal as the service and the command line show it. -/
def signalJson (r : Record) : Json :=
  let e := r.event
  .obj [("id", .ofInt r.id), ("pair", .str e.pair), ("signal_type", .str e.kind.name),
    ("level_id", .ofOption .ofInt e.levelId), ("level_price", .ofOption .float e.levelValue),
    ("prev_price", .float e.prevPrice), ("current_price", .float e.currentPrice),
    ("atr_value", .ofOption .float e.atrValue), ("timestamp", .str e.time.isoText),
    ("created_at", .str r.createdAt.isoText)]

/-- Pagination as the service shows it. -/
def paginationJson (p : Pagination) : Json :=
  .obj [("total_count", .nat p.totalCount), ("total_pages", .nat p.totalPages),
    ("current_page", .nat p.currentPage), ("per_page", .nat p.perPage)]

end LevelCross.Json
