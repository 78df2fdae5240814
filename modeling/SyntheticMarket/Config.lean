import SyntheticMarket.Price
import SyntheticMarket.Span
import SyntheticMarket.Symbol
import SyntheticMarket.Timeframe

/-! The parameters of one simulation. Whatever is asked for is checked field by field before it
becomes a `Config`; the first field out of range is the one that is refused. -/

namespace SyntheticMarket

structure Parameters (α : Type) where
  symbol : String
  durationMs : Int
  historyLength : Int
  intervalMs : Int
  volatility : α
  startPrice : Option α
deriving DecidableEq, Repr

namespace Parameters

variable {α : Type} [PriceScale α]

def standard (symbol : String) : Parameters α :=
  { symbol, durationMs := 60000, historyLength := 400, intervalMs := 1000, volatility := 0.002,
    startPrice := none }

end Parameters

/-- New values for some of the parameters. A new start price may be none at all. -/
structure Change (α : Type) where
  symbol : Option String
  durationMs : Option Int
  historyLength : Option Int
  intervalMs : Option Int
  volatility : Option α
  startPrice : Option (Option α)
deriving DecidableEq, Repr

def Change.apply {α : Type} (change : Change α) (old : Parameters α) : Parameters α :=
  { symbol := change.symbol.getD old.symbol
    durationMs := change.durationMs.getD old.durationMs
    historyLength := change.historyLength.getD old.historyLength
    intervalMs := change.intervalMs.getD old.intervalMs
    volatility := change.volatility.getD old.volatility
    startPrice := change.startPrice.getD old.startPrice }

/-- Checked parameters: candles are whole seconds wide, the clock ticks, and the history holds at
least one candle. -/
structure Config (α : Type) where
  symbol : String
  duration : Span
  historyLength : Nat
  interval : Span
  volatility : α
  startPrice : Option α
  historyLength_pos : 0 < historyLength
  duration_seconds : duration.ms.fmod 1000 = 0
deriving DecidableEq

namespace Config

variable {α : Type}

section Check
variable [PriceScale α]

/-- The checks run in the order duration, tick interval, history length, volatility, start price.
An undefined volatility or start price is not below any bound, so it passes. -/
def ofParameters (asked : Parameters α) : Except (Misfit α) (Config α) :=
  if wide : 0 < asked.durationMs then
    if whole : asked.durationMs.fmod 1000 = 0 then
      if ticking : 0 < asked.intervalMs then
        if long : 0 < asked.historyLength then
          if asked.volatility < 0.0 then
            .error (.volatilityNegative asked.volatility)
          else
            match asked.startPrice with
            | some price =>
              if price ≤ 0.0 then .error (.startPriceNotPositive price)
              else .ok (build asked wide whole ticking long)
            | none => .ok (build asked wide whole ticking long)
        else .error (.lengthNotPositive asked.historyLength)
      else .error (.intervalNotPositive asked.intervalMs)
    else .error (.durationNotWholeSeconds asked.durationMs)
  else .error (.durationNotPositive asked.durationMs)
where
  build (asked : Parameters α) (wide : 0 < asked.durationMs)
      (whole : asked.durationMs.fmod 1000 = 0) (ticking : 0 < asked.intervalMs)
      (long : 0 < asked.historyLength) : Config α :=
    { symbol := Symbol.normal asked.symbol
      duration := ⟨asked.durationMs, wide⟩
      historyLength := asked.historyLength.toNat
      interval := ⟨asked.intervalMs, ticking⟩
      volatility := asked.volatility
      startPrice := asked.startPrice
      historyLength_pos := by omega
      duration_seconds := whole }

end Check

def parameters (config : Config α) : Parameters α :=
  { symbol := config.symbol
    durationMs := config.duration.ms
    historyLength := config.historyLength
    intervalMs := config.interval.ms
    volatility := config.volatility
    startPrice := config.startPrice }

def withChange [PriceScale α] (config : Config α) (change : Change α) :
    Except (Misfit α) (Config α) :=
  ofParameters (change.apply config.parameters)

def seed (config : Config α) : UInt32 := Symbol.seed config.symbol

def timeframe (config : Config α) : String := Timeframe.label config.duration.ms

/-- Equality field by field, with the numbers compared as numbers. -/
def same [BEq α] (left right : Config α) : Bool :=
  left.symbol == right.symbol && left.duration == right.duration &&
    left.historyLength == right.historyLength && left.interval == right.interval &&
    left.volatility == right.volatility && left.startPrice == right.startPrice

end Config

end SyntheticMarket
