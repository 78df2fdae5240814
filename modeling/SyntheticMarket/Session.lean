import SyntheticMarket.Config
import SyntheticMarket.History
import SyntheticMarket.Update

/-! One simulation from its last reset on: the tape so far and the price that the next tick moves
from. A tick changes the newest candle only; once the clock has passed the end of its bucket, the
tick closes it and opens the next bucket, and never more than one. -/

namespace SyntheticMarket

structure Session (α : Type) where
  config : Config α
  noise : Noise
  lastPrice : α
  bucketStart : Int
  tape : Tape α
  ticks : Nat
  rollovers : Nat
deriving DecidableEq

structure SessionSummary (α : Type) where
  symbol : String
  timeframe : String
  seed : UInt32
  draws : Nat
  lastPrice : α
  bucketStart : Int
  candles : Nat
  ticks : Nat
  rollovers : Nat
  live : Option (Candle α)
deriving DecidableEq, Repr

namespace Session

variable {α : Type}

def candles (session : Session α) : List (Candle α) := session.tape.toList

def bucketEnd (session : Session α) : Int := session.bucketStart + session.config.duration.ms

def summary (session : Session α) : SessionSummary α :=
  { symbol := session.config.symbol
    timeframe := session.config.timeframe
    seed := session.noise.seed
    draws := session.noise.draws
    lastPrice := session.lastPrice
    bucketStart := secondOf session.bucketStart
    candles := session.tape.size
    ticks := session.ticks
    rollovers := session.rollovers
    live := session.tape.last? }

variable [PriceScale α]

/-- A new session: noise from the symbol's seed, a full history, and the bucket of `now` live. -/
def reset (config : Config α) (now : Int) : Session α :=
  let past := Walk.history (Noise.ofSeed config.seed.toNat) now config.duration
    config.historyLength config.volatility config.startPrice
  { config
    noise := past.noise
    lastPrice := past.price
    bucketStart := config.duration.align now
    tape := past.tape
    ticks := 0
    rollovers := 0 }

/-- Volume that a rollover assumes of a candle without any. -/
def assumedVolume : α := 50.0

/-- The session after one move of the price, which takes one draw; the candles are as before. -/
def moved (session : Session α) : Session α :=
  let drawn := session.noise.draw (α := α)
  let shift := (drawn.1 - 0.5) * 2.0 * session.config.volatility
  { session with
    noise := drawn.2
    lastPrice := Price.raise (session.lastPrice * (1.0 + shift))
    ticks := session.ticks + 1 }

def touch (bar : Candle α) (price share : α) : Candle α :=
  { bar with
    closing := price
    high := Price.higher bar.high price
    low := Price.lower bar.low price
    volume := some (Price.orZero bar.volume + (0.2 + share * 0.8)) }

def follow (closed : Candle α) (time : Int) (price share : α) : Candle α :=
  { time
    opening := closed.closing
    high := Price.higher closed.closing price
    low := Price.lower closed.closing price
    closing := price
    volume := some (closed.volume.getD assumedVolume * (0.9 + share * 0.2)) }

omit [PriceScale α] in
def told (session : Session α) (transition : Transition) (bar : Candle α)
    (closedBar : Option (Candle α)) : Update α :=
  { symbol := session.config.symbol
    timeframe := session.config.timeframe
    transition
    bar
    closedBar }

def openFirst (session : Session α) : Update α × Session α :=
  let price := session.lastPrice
  let bar : Candle α :=
    { time := secondOf session.bucketStart, opening := price, high := price, low := price,
      closing := price, volume := some 0.0 }
  (session.told .seed bar none, { session with tape := session.tape.push bar })

def updateLive (session : Session α) (last : Candle α) : Update α × Session α :=
  let drawn := session.noise.draw (α := α)
  let bar := touch last session.lastPrice drawn.1
  (session.told .update bar none,
    { session with noise := drawn.2, tape := session.tape.replaceLast bar })

def rollOver (session : Session α) (last : Candle α) : Update α × Session α :=
  let drawn := session.noise.draw (α := α)
  let bar := follow last (secondOf session.bucketEnd) session.lastPrice drawn.1
  (session.told .rollover bar (some last),
    { session with
      noise := drawn.2
      bucketStart := session.bucketEnd
      tape := session.tape.push bar
      rollovers := session.rollovers + 1 })

/-- One tick at the clock reading `now`. Opening the very first candle takes one draw, every other
tick takes two: the move, then the volume. -/
def tick (session : Session α) (now : Int) : Update α × Session α :=
  match session.tape.last? with
  | none => session.moved.openFirst
  | some last =>
    if session.bucketEnd ≤ now then session.moved.rollOver last
    else session.moved.updateLive last

def run (session : Session α) : List Int → List (Update α) × Session α
  | [] => ([], session)
  | now :: later =>
    let ticked := session.tick now
    let rest := run ticked.2 later
    (ticked.1 :: rest.1, rest.2)

end Session

end SyntheticMarket
