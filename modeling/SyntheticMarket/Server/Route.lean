import SyntheticMarket.Server.Http

/-! What a path and a method ask for. -/

namespace SyntheticMarket

inductive Route where
  | health
  | status
  | candles
  | startSimulation
  | stopSimulation
  | chartFeatures
  | chartTime
  | chartSymbol
  | chartHistory
  | chartSearch
deriving DecidableEq, Repr

namespace Route

def table : List (String × Method × Route) := [
  ("/api/health", .get, health), ("/api/status", .get, status), ("/api/candles", .get, candles),
  ("/api/simulations", .post, startSimulation), ("/api/simulations", .delete, stopSimulation),
  ("/udf/config", .get, chartFeatures), ("/udf/time", .get, chartTime),
  ("/udf/symbols", .get, chartSymbol), ("/udf/history", .get, chartHistory),
  ("/udf/search", .get, chartSearch)]

/-- What a path leads to: a route, a route by another method only, a path with one slash too many,
or nothing. -/
inductive Lookup where
  | found (route : Route)
  | otherMethod
  | redirect
  | nothing
deriving DecidableEq, Repr

def known (path : String) : Bool := table.any fun entry => entry.1 == path

/-- The path without the slashes at its end. -/
def withoutSlashes (path : String) : String :=
  String.ofList (path.toList.reverse.dropWhile (· == '/')).reverse

def resolve (path : String) (method : Method) : Lookup :=
  match table.find? fun entry => entry.1 == path && entry.2.1 == method with
  | some (_, _, route) => .found route
  | none =>
    if known path then .otherMethod
    else if withoutSlashes path != path && known (withoutSlashes path) then .redirect
    else .nothing

end Route

end SyntheticMarket
