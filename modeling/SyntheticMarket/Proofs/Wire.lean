import SyntheticMarket.Server.Http
import SyntheticMarket.Wire

/-! What a client reads off the wire. It knows the names in a record and nothing of the server, and
what it reads are the values that were told. -/

namespace SyntheticMarket

namespace Json

def whole? : Json → Option Int
  | whole value => some value
  | _ => none

def real? : Json → Option Float
  | real value => some value
  | _ => none

def realOption? : Json → Option (Option Float)
  | null => some none
  | real value => some (some value)
  | _ => none

def truth? : Json → Option Bool
  | bool value => some value
  | _ => none

def items? : Json → Option (List Json)
  | list items => some items
  | _ => none

def field? (name : String) : Json → Option Json
  | record members => member? members name
  | _ => none

/-- The texts that the records of a list have under a name. -/
def column? (name : String) (value : Json) : Option (List String) := do
  (← value.items?).mapM fun item => do (← item.field? name).text?

theorem mapM_read {β γ : Type} {tell : β → Json} {read : Json → Option γ} {part : β → γ}
    (reads : ∀ item, read (tell item) = some (part item)) (items : List β) :
    (items.map tell).mapM read = some (items.map part) := by
  induction items with
  | nil => rfl
  | cons item rest ih =>
    rw [List.map_cons, List.mapM_cons, reads, ih]
    rfl

end Json

namespace Wire

def candle? (value : Json) : Option (Candle Float) := do
  let time ← (← value.field? "time").whole?
  let opening ← (← value.field? "open").real?
  let high ← (← value.field? "high").real?
  let low ← (← value.field? "low").real?
  let closing ← (← value.field? "close").real?
  let volume ← (← value.field? "volume").realOption?
  return { time, opening, high, low, closing, volume }

def candles? (value : Json) : Option (List (Candle Float)) := do (← value.items?).mapM candle?

theorem candle?_candle (bar : Candle Float) : candle? (candle bar) = some bar := by
  obtain ⟨time, opening, high, low, closing, volume⟩ := bar
  cases volume <;> rfl

theorem candles?_candles (bars : List (Candle Float)) : candles? (candles bars) = some bars :=
  (Json.mapM_read candle?_candle bars).trans (congrArg some (List.map_id' bars))

def candleOption? : Json → Option (Option (Candle Float))
  | .null => some none
  | value => (candle? value).map some

theorem candleOption?_candleOption (bar : Option (Candle Float)) :
    candleOption? (candleOption bar) = some bar := by
  cases bar with
  | none => rfl
  | some bar => exact congrArg (Option.map some) (candle?_candle bar)

def transition? (name : String) : Option Transition :=
  [.seed, .update, .rollover].find? (·.name == name)

def message? (value : Json) : Option (BarMessage Float) := do
  let symbol ← (← value.field? "symbol").text?
  let timeframe ← (← value.field? "timeframe").text?
  let transition ← transition? (← (← value.field? "transition").text?)
  let bar ← candle? (← value.field? "bar")
  let isClosed ← (← value.field? "is_closed").truth?
  let closedBar ← candleOption? (← value.field? "closed_bar")
  return { symbol, timeframe, transition, bar, isClosed, closedBar }

/-- Nothing of a message is lost on the wire. -/
theorem message?_barMessage (message : BarMessage Float) :
    message? (.record (barMessage message)) = some message := by
  obtain ⟨symbol, timeframe, transition, bar, isClosed, closedBar⟩ := message
  have named : transition? transition.name = some transition := by cases transition <;> rfl
  change (do
    let transition ← transition? transition.name
    let bar ← candle? (candle bar)
    let closedBar ← candleOption? (candleOption closedBar)
    return { symbol, timeframe, transition, bar, isClosed, closedBar } :
      Option (BarMessage Float)) = _
  rw [named, candle?_candle, candleOption?_candleOption]
  rfl

/-- The record holds the candles under the name. -/
def Holds (name : String) (bars : List (Candle Float)) (value : Json) : Prop :=
  (value.field? name).bind candles? = some bars

theorem holds_snapshot (symbol timeframe : String) (bars : List (Candle Float)) :
    Holds "bars" bars (snapshot symbol timeframe bars) :=
  candles?_candles bars

end Wire

/-- What a response that is no failure tells. -/
def Response.json? (response : Response) : Option Json :=
  match response with
  | { status := 200, body := .json value } => some value
  | _ => none

end SyntheticMarket
