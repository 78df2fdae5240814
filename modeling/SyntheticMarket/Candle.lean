import SyntheticMarket.Price

/-! Candles: the opening, highest, lowest and closing price of a bucket, and the volume traded in
it. A tape is the sequence of candles of a simulation. -/

namespace SyntheticMarket

/-- The candle of the bucket that starts at the second `time`. -/
structure Candle (α : Type) where
  time : Int
  opening : α
  high : α
  low : α
  closing : α
  volume : Option α
deriving DecidableEq, Repr

namespace Candle

variable {α : Type} [PriceScale α]

/-- High and low enclose the opening and closing price, no price is zero or below, and no volume is
negative. An undefined number makes the comparison that meets it fail. -/
def consistent (candle : Candle α) : Bool :=
  Price.higher candle.opening candle.closing ≤ candle.high &&
    candle.low ≤ Price.lower candle.opening candle.closing &&
    0.0 < Price.lower (Price.lower (Price.lower candle.opening candle.high) candle.low)
      candle.closing &&
    match candle.volume with
    | none => true
    | some volume => 0.0 ≤ volume

end Candle

/-- A sequence of candles of which only the last may still change; the last one comes first. -/
structure Tape (α : Type) where
  newestFirst : List (Candle α)
deriving DecidableEq, Repr

namespace Tape

variable {α : Type}

def empty : Tape α := ⟨[]⟩

/-- The candles from the oldest to the newest. -/
def toList (tape : Tape α) : List (Candle α) := tape.newestFirst.reverse

def ofList (candles : List (Candle α)) : Tape α := ⟨candles.reverse⟩

def size (tape : Tape α) : Nat := tape.newestFirst.length

def last? (tape : Tape α) : Option (Candle α) := tape.newestFirst.head?

def push (tape : Tape α) (candle : Candle α) : Tape α := ⟨candle :: tape.newestFirst⟩

/-- The tape with another newest candle in place of its own. -/
def replaceLast (tape : Tape α) (candle : Candle α) : Tape α :=
  ⟨candle :: tape.newestFirst.tail⟩

@[simp] theorem toList_empty : (empty : Tape α).toList = [] := rfl

@[simp] theorem toList_ofList (candles : List (Candle α)) : (ofList candles).toList = candles := by
  simp [toList, ofList]

@[simp] theorem toList_push (tape : Tape α) (candle : Candle α) :
    (tape.push candle).toList = tape.toList ++ [candle] := by
  simp [toList, push]

@[simp] theorem toList_replaceLast (tape : Tape α) (candle : Candle α) :
    (tape.replaceLast candle).toList = tape.toList.dropLast ++ [candle] := by
  simp [toList, replaceLast, List.dropLast_reverse]

@[simp] theorem length_toList (tape : Tape α) : tape.toList.length = tape.size := by
  simp [toList, size]

theorem last?_eq (tape : Tape α) : tape.last? = tape.toList.getLast? := by
  simp [toList, last?]

end Tape

end SyntheticMarket
