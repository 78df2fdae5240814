import SyntheticMarket.Candle
import SyntheticMarket.Noise
import SyntheticMarket.Span

/-! The past of a simulation: a bounded random walk of closed candles. The walk ends with the bucket
that contains the present, so the newest candle of a history is the live one. -/

namespace SyntheticMarket

structure Walk (α : Type) where
  tape : Tape α
  price : α
  bucketStart : Int
  noise : Noise
deriving DecidableEq, Repr

namespace Walk

variable {α : Type} [PriceScale α]

/-- The price a walk opens at: the one asked for, or one drawn around one hundred. -/
def basePrice (noise : Noise) : Option α → α × Noise
  | some price => (price, noise)
  | none =>
    let (share, later) := noise.draw (α := α)
    (100.0 + (share - 0.5) * 40.0, later)

/-- The candle of a bucket entered at the price `opening`. Four draws are used, in this order: the
drift of the close, the upper wick, the lower wick, the volume. Close and low are kept at the
floor or above. -/
def candle (volatility : α) (time : Int) (opening : α) (noise : Noise) : Candle α × Noise :=
  let (drift, noise) := noise.draw (α := α)
  let closing := Price.raise (opening * (1.0 + (drift - 0.5) * 2.0 * volatility * 20.0))
  let body := PriceScale.magnitude (closing - opening)
  let (upper, noise) := noise.draw (α := α)
  let (lower, noise) := noise.draw (α := α)
  let (traded, noise) := noise.draw (α := α)
  ({ time
     opening
     high := Price.higher opening closing + body * (0.2 + upper * 0.8)
     low := Price.raise (Price.lower opening closing - body * (0.2 + lower * 0.8))
     closing
     volume := some (10.0 + traded * 90.0) }, noise)

def step (volatility : α) (span : Span) (walk : Walk α) : Walk α :=
  let (bar, noise) := candle volatility (secondOf walk.bucketStart) walk.price walk.noise
  { tape := walk.tape.push bar
    price := bar.closing
    bucketStart := walk.bucketStart + span.ms
    noise }

def extend (volatility : α) (span : Span) : Nat → Walk α → Walk α
  | 0, walk => walk
  | count + 1, walk => extend volatility span count (step volatility span walk)

def history (noise : Noise) (now : Int) (span : Span) (count : Nat) (volatility : α)
    (startPrice : Option α) : Walk α :=
  let (price, noise) := basePrice noise startPrice
  extend volatility span count
    { tape := .empty
      price
      bucketStart := span.align now - ((count : Int) - 1) * span.ms
      noise }

/-- The history for a count and a width as they are asked for. The count is checked first. -/
def history? (noise : Noise) (now durationMs count : Int) (volatility : α)
    (startPrice : Option α) : Except (Misfit α) (Walk α) :=
  if count < 0 then .error (.countNegative count)
  else (Span.ofBucketMs durationMs).map fun span =>
    history noise now span count.toNat volatility startPrice

end Walk

end SyntheticMarket
