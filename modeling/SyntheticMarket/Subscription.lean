import SyntheticMarket.Text.Blank
import SyntheticMarket.Text.Pieces

/-! What a client wants to hear: one symbol, in all timeframes or in some. -/

namespace SyntheticMarket

/-- A subscription; the timeframes are in order, each once, and none stands for all of them. -/
structure Subscription where
  symbol : String
  timeframes : Option (List String)
deriving DecidableEq, Repr

namespace Subscription

/-- The names in a comma-separated list. Blanks around a name and empty places do not count. -/
def names (list : String) : List String :=
  ((Text.pieces ',' list.toList).map fun piece =>
    String.ofList (Text.trimLetters Text.isBlank piece)).filter (!·.isEmpty)

def ordered (names : List String) : List String :=
  (names.mergeSort fun left right => !(right < left)).eraseDups

/-- A subscription from its written form; a list without any name asks for all timeframes. -/
def ofText (symbol : String) (timeframes : Option String) : Subscription :=
  match ordered (names (timeframes.getD "")) with
  | [] => { symbol, timeframes := none }
  | wanted => { symbol, timeframes := some wanted }

def admits (subscription : Subscription) (timeframe : String) : Bool :=
  match subscription.timeframes with
  | none => true
  | some wanted => wanted.contains timeframe

/-- Whether an event about a symbol and a timeframe is wanted. An event without a symbol is wanted
by nobody; one without a timeframe counts for all of them. -/
def wants (subscription : Subscription) (symbol timeframe : Option String) : Bool :=
  symbol == some subscription.symbol && timeframe.all subscription.admits

end Subscription

end SyntheticMarket
