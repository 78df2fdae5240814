import SyntheticMarket.Bus
import SyntheticMarket.Subscription
import SyntheticMarket.Wire

/-! From what is published to what clients are sent: the messages of a published value, and the
symbol and timeframe that decide who gets them. -/

namespace SyntheticMarket

inductive Channel where
  | bars
  | status
deriving DecidableEq, Repr

inductive Notice where
  | event (event : Event Float)
  | data (value : Json)

inductive Breakdown where
  | socket (failure : Failure)
  | notRecord
  | timeframeNotText
deriving DecidableEq, Repr

/-- Messages in sending order, and what they are about. The two labels are `null` where the messages
do not name them. -/
structure Envelope where
  messages : List Json
  symbol : Json
  timeframe : Json

namespace Notice

/-- A sequence of two read as a name and its value. It is a list, a text of two letters, or a record of
two members, of which only the names count. -/
def pair? : Json → Option (String × Json)
  | .list [.text name, value] => some (name, value)
  | .text letters =>
    match letters.toList with
    | [name, value] => some (name.toString, .text value.toString)
    | _ => none
  | .record [(name, _), (value, _)] => some (name, .text value)
  | _ => none

/-- Plain data read as a record. An empty text and a list of pairs count as records too. Pairs whose
first part is a number, a truth value or `null` would also do; they are left out, as such names are
in no record here. -/
def recordOf? : Json → Option (List (String × Json))
  | .record members => some members
  | .text "" => some []
  | .list items => items.mapM pair?
  | _ => none

def record? : Notice → Option (List (String × Json))
  | .event published => some (Wire.event published)
  | .data value => recordOf? value

/-- The messages about bars: one for a live bar, two if a bar was closed, and data unchanged. -/
def bars : Notice → Except Breakdown (List (List (String × Json)))
  | .event (.ticked update) => .ok (update.messages.map Wire.barMessage)
  | notice =>
    match notice.record? with
    | some members => .ok [members]
    | none => .error .notRecord

/-- The members that name the configuration of a reset; without any it names nothing. -/
def configOf (members : List (String × Json)) : Except Breakdown (List (String × Json)) :=
  match Json.member? members "config" with
  | none => .ok []
  | some (.record config) => .ok config
  | some _ => .error .notRecord

def envelope (notice : Notice) : Channel → Except Breakdown Envelope
  | .bars => do
    let messages ← notice.bars
    let last := messages.getLast?.getD []
    return { messages := messages.map .record
             symbol := Json.memberOrNull last "symbol"
             timeframe := Json.memberOrNull last "timeframe" }
  | .status =>
    match notice.record? with
    | none => .error .notRecord
    | some members => do
      let config ← configOf members
      let message := Json.record [("type", .text "status"), ("message", .text "simulation_reset"),
        ("data", .record members)]
      return { messages := [message]
               symbol := Json.memberOrNull config "symbol"
               timeframe := Json.memberOrNull config "timeframe" }

end Notice

/-- Whether the messages go to a subscription. A timeframe that is another scalar than a text is in
no list of timeframes; one that is not even a scalar cannot be looked up in one. -/
def Envelope.reaches (envelope : Envelope) (subscription : Subscription) : Except Breakdown Bool :=
  let symbol := envelope.symbol.text?
  match envelope.timeframe with
  | .null => .ok (subscription.wants symbol none)
  | .text timeframe => .ok (subscription.wants symbol (some timeframe))
  | other =>
    if !subscription.wants symbol none then .ok false
    else if subscription.timeframes.isNone then .ok true
    else
      match other with
      | .list _ => .error .timeframeNotText
      | .record _ => .error .timeframeNotText
      | _ => .ok false

end SyntheticMarket
