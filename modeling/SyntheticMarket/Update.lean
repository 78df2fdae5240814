import SyntheticMarket.Candle

/-! What one tick did to the live candle, and the messages that tell a follower about it. -/

namespace SyntheticMarket

/-- The three things a tick can do: open the first candle, change the live one, or close it and open
the next. -/
inductive Transition where
  | seed
  | update
  | rollover
deriving DecidableEq, Repr

def Transition.name : Transition → String
  | seed => "seed"
  | update => "update"
  | rollover => "rollover"

/-- The live candle after a tick, with the candle that the tick closed. -/
structure Update (α : Type) where
  symbol : String
  timeframe : String
  transition : Transition
  bar : Candle α
  closedBar : Option (Candle α)
deriving DecidableEq, Repr

structure BarMessage (α : Type) where
  symbol : String
  timeframe : String
  transition : Transition
  bar : Candle α
  isClosed : Bool
  closedBar : Option (Candle α)
deriving DecidableEq, Repr

namespace Update

variable {α : Type}

def rolledOver (update : Update α) : Bool := update.transition == .rollover

private def about (update : Update α) (bar : Candle α) (isClosed : Bool) : BarMessage α :=
  { symbol := update.symbol
    timeframe := update.timeframe
    transition := update.transition
    bar
    isClosed
    closedBar := update.closedBar }

def live (update : Update α) : BarMessage α := update.about update.bar false

/-- All messages in sending order: a closed candle is told before the one that follows it. -/
def messages (update : Update α) : List (BarMessage α) :=
  match update.closedBar with
  | none => [update.live]
  | some closed => [update.about closed true, update.live]

theorem bars_messages (update : Update α) :
    update.messages.map (·.bar) = update.closedBar.toList ++ [update.bar] := by
  rw [messages]
  cases update.closedBar <;> rfl

end Update

end SyntheticMarket
