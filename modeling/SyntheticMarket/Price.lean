/-! The arithmetic of prices and volumes. Every market rule is written against `PriceScale`, so one
definition runs on machine floats and is read over the exact rationals. -/

namespace SyntheticMarket

/-- What a number offers to serve as a price, a volume or a drawn fraction. The two comparisons are
separate operations: on an undefined float both fail, so neither follows from the other. -/
class PriceScale (α : Type) extends Add α, Sub α, Mul α, OfScientific α, LT α, LE α where
  decidableLT : DecidableLT α
  decidableLE : DecidableLE α
  magnitude : α → α
  /-- The word as a share of the whole word range. -/
  fraction : UInt32 → α

instance PriceScale.instDecidableLT {α : Type} [PriceScale α] : DecidableLT α :=
  PriceScale.decidableLT

instance PriceScale.instDecidableLE {α : Type} [PriceScale α] : DecidableLE α :=
  PriceScale.decidableLE

instance PriceScale.ofFloat : PriceScale Float where
  decidableLT := inferInstance
  decidableLE := inferInstance
  magnitude := Float.abs
  fraction word := word.toFloat / 4294967296.0

instance PriceScale.ofRat : PriceScale Rat where
  decidableLT := inferInstance
  decidableLE := inferInstance
  magnitude price := if price < 0 then -price else price
  fraction word := (word.toNat : Rat) / 4294967296

namespace Price

variable {α : Type} [PriceScale α]

/-- The second price wins only when it is strictly above the first, so an undefined second price
never does. -/
def higher (first second : α) : α := if first < second then second else first

def lower (first second : α) : α := if second < first then second else first

def floor : α := 0.0001

/-- The floor comes first, so it also replaces an undefined price. -/
def raise (price : α) : α := higher floor price

/-- An absent amount and either zero count as plain zero. -/
def orZero : Option α → α
  | none => 0.0
  | some amount => if amount ≤ 0.0 ∧ 0.0 ≤ amount then 0.0 else amount

end Price

end SyntheticMarket
