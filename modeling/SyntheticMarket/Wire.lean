import SyntheticMarket.Chart
import SyntheticMarket.Json
import SyntheticMarket.Registry

/-! The market's values as JSON records, with the names under which clients know their parts. -/

namespace SyntheticMarket.Wire

/-- A name is left out of no record: what is absent is `null`. -/
def candle (candle : Candle Float) : Json :=
  .record [("time", .whole candle.time), ("open", .real candle.opening),
    ("high", .real candle.high), ("low", .real candle.low), ("close", .real candle.closing),
    ("volume", .ofRealOption candle.volume)]

def candleOption : Option (Candle Float) → Json
  | none => .null
  | some bar => candle bar

def candles (bars : List (Candle Float)) : Json := .list (bars.map candle)

def config (config : Config Float) : Json :=
  .record [("symbol", .text config.symbol), ("candle_duration_ms", .whole config.duration.ms),
    ("history_length", .whole config.historyLength),
    ("tick_interval_ms", .whole config.interval.ms),
    ("volatility", .real config.volatility), ("start_price", .ofRealOption config.startPrice),
    ("timeframe", .text config.timeframe)]

def barMessage (message : BarMessage Float) : List (String × Json) :=
  [("type", .text "ohlcv"), ("symbol", .text message.symbol),
    ("timeframe", .text message.timeframe), ("transition", .text message.transition.name),
    ("bar", candle message.bar), ("is_closed", .bool message.isClosed),
    ("closed_bar", candleOption message.closedBar)]

def event : Event Float → List (String × Json)
  | .ticked update => barMessage update.live
  | .reset asked candles => [("config", config asked), ("candles", .whole candles)]
  | .stopped symbol => [("symbol", .text symbol)]

def summary (summary : SessionSummary Float) : List (String × Json) :=
  [("symbol", .text summary.symbol), ("timeframe", .text summary.timeframe),
    ("seed", .whole summary.seed.toNat), ("draws", .whole summary.draws),
    ("last_price", .real summary.lastPrice), ("bucket_start", .whole summary.bucketStart),
    ("candles", .whole summary.candles), ("total_ticks", .whole summary.ticks),
    ("total_rollovers", .whole summary.rollovers), ("live_candle", candleOption summary.live)]

/-- A session's summary, told also while there is none. -/
def session : Option (Session Float) → List (String × Json)
  | none => [("started", .bool false)]
  | some session => ("started", .bool true) :: summary session.summary

def simulation (simulation : Simulation Float) : Json :=
  .record ([("running", .bool simulation.isRunning), ("resets", .whole simulation.resets),
    ("last_error", .ofTextOption (simulation.lastFailure.map Failure.line))] ++
    session simulation.session)

/-- A refusal; only one about a parameter names a field. -/
def report (report : Report) : Json :=
  let told : List (String × Json) :=
    [("error", .text report.code), ("message", .text report.message)]
  match report with
  | .parameter _ field => .record (told ++ [("field", .ofTextOption field)])
  | _ => .record told

def chart : Chart.Answer Float → Json
  | .failed message => .record [("s", .text "error"), ("errmsg", .ofTextOption message)]
  | .noData => .record [("s", .text "no_data")]
  | .bars bars =>
    let column (values : List Float) : Json := .list (values.map .real)
    .record [("s", .text "ok"), ("t", .list (bars.times.map .whole)), ("o", column bars.openings),
      ("h", column bars.highs), ("l", column bars.lows), ("c", column bars.closings),
      ("v", column bars.volumes)]

def snapshot (symbol timeframe : String) (bars : List (Candle Float)) : Json :=
  .record [("type", .text "snapshot"), ("symbol", .text symbol), ("timeframe", .text timeframe),
    ("bars", candles bars)]

end SyntheticMarket.Wire
