import SyntheticMarket.Server.Http
import SyntheticMarket.Settings

/-! The order to start a simulation: a symbol, and parameters that replace the server's own where
they are given. -/

namespace SyntheticMarket

structure Order where
  symbol : String
  durationMs : Option Int
  historyLength : Option Int
  intervalMs : Option Int
  volatility : Option Float
  startPrice : Option Float
deriving Repr

namespace Order

inductive Fault where
  | oversized
  | refused (problems : List Problem)
deriving DecidableEq, Repr

/-- An order from the members of a record; other members do not matter. -/
def ofMembers (members : List (String × Json)) : Reading Order :=
  Order.mk <$> field "symbol" (Field.required Field.text)
    <*> field "candle_duration_ms" (Field.optional Field.whole)
    <*> field "history_length" (Field.optional Field.whole)
    <*> field "tick_interval_ms" (Field.optional Field.whole)
    <*> field "volatility" (Field.optional Field.real)
    <*> field "start_price" (Field.optional Field.real)
where
  field {β : Type} (name : String) (reader : Option Json → Except Mismatch β) : Reading β :=
    .ofField [.name "body", .name name] (reader (Json.member? members name))

/-- A body without the byte order mark that it may start with. -/
def withoutMark (body : String) : String :=
  match body.toList with
  | '\uFEFF' :: letters => String.ofList letters
  | _ => body

def ofBody (body : String) : Except Fault Order :=
  if body.isEmpty then .error (.refused [{ path := [.name "body"], mismatch := .missing }])
  else
    match Json.read (withoutMark body) with
    | .error .oversized => .error .oversized
    | .error (.malformed position) =>
      .error (.refused [{ path := [.name "body", .index position], mismatch := .notJson }])
    | .ok (.record members) => (ofMembers members).orFault .refused
    | .ok _ => .error (.refused [{ path := [.name "body"], mismatch := .notRecord }])

def parameters (order : Order) (settings : Settings) : Parameters Float :=
  { symbol := order.symbol
    durationMs := order.durationMs.getD settings.durationMs
    historyLength := order.historyLength.getD settings.historyLength
    intervalMs := order.intervalMs.getD settings.intervalMs
    volatility := order.volatility.getD settings.volatility
    startPrice := order.startPrice.or settings.startPrice }

/-- The configuration of an order. Its history is limited by the settings, too. -/
def config (order : Order) (settings : Settings) : Except (Misfit Float) (Config Float) := do
  let config ← Config.ofParameters (order.parameters settings)
  if settings.maxHistory < config.historyLength then
    .error (.lengthAboveLimit settings.maxHistory config.historyLength)
  else .ok config

end Order

end SyntheticMarket
