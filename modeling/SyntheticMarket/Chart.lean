import SyntheticMarket.History
import SyntheticMarket.Symbol
import SyntheticMarket.Timeframe

/-! Chart bars by query. An answer depends on the query alone: the bars are the history that a
simulation of the symbol would show at the end of the asked range. -/

namespace SyntheticMarket

namespace Chart

/-- How a set of bars is labelled; a label that is not known reads as a plain answer. -/
inductive Status where
  | ok
  | noData
  | error
deriving DecidableEq, Repr

def Status.ofText : String → Status
  | "error" => error
  | "no_data" => noData
  | _ => ok

structure Bars (α : Type) where
  status : Status
  times : List Int
  openings : List α
  highs : List α
  lows : List α
  closings : List α
  volumes : List α
  message : Option String
deriving DecidableEq, Repr

inductive Answer (α : Type) where
  | bars (bars : Bars α)
  | noData
  | failed (message : Option String)
deriving DecidableEq, Repr

namespace Bars

variable {α : Type}

def none : Bars α :=
  { status := .noData, times := [], openings := [], highs := [], lows := [], closings := [],
    volumes := [], message := .none }

def failed (message : String) : Bars α :=
  { Bars.none with status := .error, message := some message }

/-- The columns of some candles; an absent volume is shown as zero. -/
def ofCandles [PriceScale α] (candles : List (Candle α)) : Bars α :=
  if candles.isEmpty then Bars.none
  else
    { status := .ok
      times := candles.map (·.time)
      openings := candles.map (·.opening)
      highs := candles.map (·.high)
      lows := candles.map (·.low)
      closings := candles.map (·.closing)
      volumes := candles.map fun candle => Price.orZero candle.volume
      message := .none }

/-- The label decides what is told, except that there is nothing to tell without any bar. -/
def answer (bars : Bars α) : Answer α :=
  match bars.status with
  | .error => .failed bars.message
  | .noData => .noData
  | .ok => if bars.times.isEmpty then .noData else .bars bars

end Bars

structure Query where
  symbol : String
  resolution : String
  first : Int
  last : Int
  countback : Option Int
deriving DecidableEq, Repr

structure Terms (α : Type) where
  maxBars : Int
  volatility : α
  startPrice : Option α
deriving DecidableEq, Repr

def rangeMessage : String := "'to' debe ser mayor o igual que 'from'"

def bucketCount {α : Type} (first last durationMs : Int) : Except (Misfit α) Int :=
  (Span.ofBucketMs durationMs).map fun span => span.startsWithin (first * 1000) (last * 1000)

/-- The number of bars asked for: a positive countback outranks the range. -/
def Query.wanted (query : Query) (span : Span) : Int :=
  match query.countback with
  | some count => if 0 < count then count else inRange
  | none => inRange
where
  inRange : Int := span.startsWithin (query.first * 1000) (query.last * 1000)

/-- The bars of a query. An unknown resolution is told before an inverted range. -/
def Query.bars {α : Type} [PriceScale α] (query : Query) (terms : Terms α) : Bars α :=
  match Resolution.span query.resolution with
  | .error report => .failed report.message
  | .ok span =>
    if query.last < query.first then .failed rangeMessage
    else
      let count := min (query.wanted span) terms.maxBars
      if count ≤ 0 then Bars.none
      else
        let past := Walk.history (Noise.ofSeed (Symbol.seed query.symbol).toNat)
          (query.last * 1000) span count.toNat terms.volatility terms.startPrice
        .ofCandles past.tape.toList

end Chart

end SyntheticMarket
