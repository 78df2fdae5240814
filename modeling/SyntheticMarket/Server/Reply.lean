import SyntheticMarket.Server.Catalog
import SyntheticMarket.Server.Order
import SyntheticMarket.Server.Route
import SyntheticMarket.Server.Basic

/-! How a server answers requests. The input of a request is checked before anything else; a server
that is not ready says so only then. -/

namespace SyntheticMarket.Server

def exchangeName : String := "CandleSim"

/-- How many candles or search results are told if no number is asked for. -/
def candleCount : Int := 200

def searchCount : Int := 30

def health : Response :=
  .ok (.record [("status", .text "ok"), ("service", .text "candlesim")])

def status (server : Server) : Response :=
  .ok (.record [
    ("simulations", .record (server.registry.entries.map fun entry =>
      (entry.1, Wire.simulation entry.2))),
    ("ws_clients", .whole server.hub.room.clients.length)])

def unknownSymbol (symbol : String) : Response :=
  .note 404 "error" ("Símbolo '" ++ symbol ++ "' no está siendo simulado")

/-- The newest candles of a simulation: as many as asked for, limited by the settings. -/
def candles (server : Server) (request : Request) : Response :=
  match Prod.mk <$> request.text "symbol" <*> request.count? "count" with
  | .refused problems => .refused problems
  | .done (symbol, count) =>
    if !server.ready then .notReady
    else
      match (server.registry.find? symbol).bind (·.session) with
      | none => unknownSymbol symbol
      | some session =>
        let count := min (count.getD candleCount) server.settings.maxCandles
        let bars := Catalog.fromEnd count session.candles
        .ok (.record [("symbol", .text symbol), ("timeframe", .text session.config.timeframe),
          ("count", .whole bars.length), ("candles", Wire.candles bars)])

/-- Starts a simulation by order. An order whose parameters are refused changes nothing; a start that
fails leaves the simulation without a timer. -/
def takeOrder (server : Server) (request : Request) : Response × Server :=
  match Order.ofBody request.body with
  | .error .oversized => (.unreadableBody, server)
  | .error (.refused problems) => (.refused problems, server)
  | .ok order =>
    if !server.ready then (.notReady, server)
    else
      match order.config server.settings with
      | .error misfit => ({ status := 422, body := .json (Wire.report misfit.report) }, server)
      | .ok config =>
        match server.startSimulation config with
        | (.error _, server) => (.serverError, server)
        | (.ok bars, server) =>
          (.ok (.record [("symbol", .text config.symbol), ("timeframe", .text config.timeframe),
            ("candles", .whole bars.length), ("last_candle", Wire.candleOption bars.getLast?),
            ("config", Wire.config config)]), server)

def stopOrder (server : Server) (request : Request) : Response × Server :=
  match request.text "symbol" with
  | .refused problems => (.refused problems, server)
  | .done symbol =>
    if !server.ready then (.notReady, server)
    else
      let (stopped, server) := server.stopSimulation symbol
      (.ok (.record [("symbol", .text symbol), ("stopped", .bool stopped)]), server)

def chartFeatures : Response :=
  .ok (.record [("supported_resolutions", .texts Resolution.supported),
    ("supports_group_request", .bool false), ("supports_marks", .bool false),
    ("supports_search", .bool true), ("supports_timescale_marks", .bool false),
    ("supports_time", .bool true)])

def chartTime (server : Server) : Response :=
  .ok (.whole (if server.ready then secondOf server.clock.reading else 0))

def describe (symbol : String) : Json := .text (symbol ++ " (simulado)")

def chartSymbol (request : Request) : Response :=
  match request.text "symbol" with
  | .refused problems => .refused problems
  | .done symbol =>
    .ok (.record [("name", .text symbol), ("ticker", .text symbol),
      ("description", describe symbol), ("type", .text "crypto"),
      ("exchange", .text exchangeName), ("listed_exchange", .text exchangeName),
      ("minmov", .whole 1), ("pricescale", .whole 10000), ("timezone", .text "Etc/UTC"),
      ("session", .text "24x7"), ("has_intraday", .bool true), ("has_daily", .bool true),
      ("has_weekly_and_monthly", .bool true),
      ("supported_resolutions", .texts Resolution.supported)])

def chartHistory (server : Server) (request : Request) : Response :=
  let query := Chart.Query.mk <$> request.text "symbol" <*> request.text "resolution"
    <*> request.whole "from" <*> request.whole "to" <*> request.count? "countback"
  match query with
  | .refused problems => .refused problems
  | .done query =>
    if !server.ready then .ok (Wire.chart (.failed (some Response.notReadyText)))
    else .ok (Wire.chart (query.bars server.settings.chartTerms).answer)

def searchHit (symbol : String) : Json :=
  .record [("symbol", .text symbol), ("full_name", .text symbol),
    ("description", describe symbol), ("exchange", .text exchangeName),
    ("ticker", .text symbol), ("type", .text "crypto")]

def chartSearch (server : Server) (request : Request) : Response :=
  match request.count? "limit" with
  | .refused problems => .refused problems
  | .done limit =>
    let hits := Catalog.search server.registry.symbols ((request.param? "query").getD "")
      (limit.getD searchCount).toNat
    .ok (.list (hits.map searchHit))

def answer (server : Server) (request : Request) : Response × Server :=
  match Route.resolve request.path request.method with
  | .nothing => (.notFound, server)
  | .otherMethod => (.methodNotAllowed, server)
  | .redirect => (.redirected, server)
  | .found .health => (health, server)
  | .found .status => (server.status, server)
  | .found .candles => (server.candles request, server)
  | .found .startSimulation => server.takeOrder request
  | .found .stopSimulation => server.stopOrder request
  | .found .chartFeatures => (chartFeatures, server)
  | .found .chartTime => (server.chartTime, server)
  | .found .chartSymbol => (chartSymbol request, server)
  | .found .chartHistory => (server.chartHistory request, server)
  | .found .chartSearch => (server.chartSearch request, server)

end SyntheticMarket.Server
