import SyntheticMarket.Chart
import SyntheticMarket.Config
import SyntheticMarket.Field
import SyntheticMarket.Json.Reader

/-! The settings of a server, with their defaults, and how environment variables override them. -/

namespace SyntheticMarket

structure Settings where
  symbols : List String := ["DOT/USDT"]
  durationMs : Int := 60000
  historyLength : Int := 400
  intervalMs : Int := 1000
  volatility : Float := 0.002
  startPrice : Option Float := none
  maxCandles : Int := 1000
  maxBars : Int := 5000
  maxHistory : Int := 100000
  queueSize : Int := 10000
  host : String := "0.0.0.0"
  port : Int := 8888
  debug : Bool := false
  logLevel : String := "INFO"

namespace Settings

def parameters (settings : Settings) (symbol : String) : Parameters Float :=
  { symbol
    durationMs := settings.durationMs
    historyLength := settings.historyLength
    intervalMs := settings.intervalMs
    volatility := settings.volatility
    startPrice := settings.startPrice }

def config (settings : Settings) (symbol : String) : Except (Misfit Float) (Config Float) :=
  Config.ofParameters (settings.parameters symbol)

def chartTerms (settings : Settings) : Chart.Terms Float :=
  { maxBars := settings.maxBars
    volatility := settings.volatility
    startPrice := settings.startPrice }

inductive LoadFault where
  | symbolsUnreadable
  | refused (problems : List Problem)
deriving DecidableEq, Repr

def namePart : String := "candlesim_"

/-- The variable of a field. Names are compared without regard to case, and the last one counts. -/
def lookup (environment : List (String × String)) (field : String) : Option String :=
  let wanted := namePart ++ field
  (environment.reverse.find? fun entry =>
    String.ofList (entry.1.toList.map Char.toLower) == wanted).map (·.2)

def symbolList? (environment : List (String × String)) : Except LoadFault (Option Json) :=
  match lookup environment "simulation_symbols" with
  | none => .ok none
  | some text =>
    match Json.read text with
    | .ok value => .ok (some value)
    | .error _ => .error .symbolsUnreadable

/-- The symbols of a list of texts; a `null` leaves the default. -/
def symbolsOf (default : List String) : Option Json → Reading (List String)
  | none => .done default
  | some .null => .done default
  | some (.list items) => items.zipIdx.mapA fun (item, index) =>
    .ofField [.name "simulation_symbols", .index index] (Field.text item)
  | some _ => .ofField [.name "simulation_symbols"] (.error .notList)

/-- The settings of an environment and the list of symbols in it. All fields are checked, and every
problem is told, in the order of the fields. -/
def ofEnvironment (environment : List (String × String)) (symbols : Option Json) :
    Reading Settings :=
  let standard : Settings := {}
  Settings.mk <$> symbolsOf standard.symbols symbols
    <*> field "candle_duration_ms" Field.wholeOfText standard.durationMs
    <*> field "history_length" Field.wholeOfText standard.historyLength
    <*> field "tick_interval_ms" Field.wholeOfText standard.intervalMs
    <*> field "volatility" Field.realOfText standard.volatility
    <*> field "start_price" (fun text => (Field.realOfText text).map some) standard.startPrice
    <*> field "max_candles_response" Field.wholeOfText standard.maxCandles
    <*> field "udf_max_bars" Field.wholeOfText standard.maxBars
    <*> field "max_history_length" Field.wholeOfText standard.maxHistory
    <*> field "event_bus_max_queue_size" Field.wholeOfText standard.queueSize
    <*> field "host" .ok standard.host
    <*> field "port" Field.wholeOfText standard.port
    <*> field "debug" Field.flagOfText standard.debug
    <*> field "log_level" .ok standard.logLevel
where
  field {β : Type} (name : String) (reader : String → Except Mismatch β) (default : β) :
      Reading β :=
    match lookup environment name with
    | none => .done default
    | some text => .ofField [.name name] (reader text)

/-- The settings of an environment. A list of symbols that is not JSON is told before all else. -/
def load (environment : List (String × String)) : Except LoadFault Settings :=
  match symbolList? environment with
  | .error fault => .error fault
  | .ok symbols => (ofEnvironment environment symbols).orFault .refused

end Settings

end SyntheticMarket
