import SyntheticMarket.Price

/-! The reproducible noise behind every price: a 32-bit counter advanced by an odd stride, read
through a scrambler of xor-shifts and multiplications. A seed fixes the whole sequence. -/

namespace SyntheticMarket

structure Noise where
  seed : UInt32
  state : UInt32
  draws : Nat
deriving DecidableEq, Repr

namespace Noise

/-- What one draw adds to the counter; it is odd, so the counter visits every word. -/
def stride : UInt32 := 0x6D2B79F5

def scramble (counter : UInt32) : UInt32 :=
  let mixed := (counter ^^^ (counter >>> 15)) * (1 ||| counter)
  let folded := mixed ^^^ (mixed + (mixed ^^^ (mixed >>> 7)) * (61 ||| mixed))
  folded ^^^ (folded >>> 14)

/-- A fresh source; a seed of any sign and size counts modulo the word range. -/
def ofSeed (seed : Int) : Noise :=
  let word := UInt32.ofInt seed
  { seed := word, state := word, draws := 0 }

def next (noise : Noise) : UInt32 × Noise :=
  let state := stride + noise.state
  (scramble state, { noise with state, draws := noise.draws + 1 })

/-- One draw read as a fraction in `[0, 1)`. -/
def draw {α : Type} [PriceScale α] (noise : Noise) : α × Noise :=
  let (word, later) := noise.next
  (PriceScale.fraction word, later)

def skip : Nat → Noise → Noise
  | 0, noise => noise
  | count + 1, noise => skip count noise.next.2

@[simp] theorem seed_next (noise : Noise) : noise.next.2.seed = noise.seed := rfl

@[simp] theorem draws_next (noise : Noise) : noise.next.2.draws = noise.draws + 1 := rfl

end Noise

end SyntheticMarket
