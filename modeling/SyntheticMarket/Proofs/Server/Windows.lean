import Mathlib.Data.List.DropRight
import SyntheticMarket.Proofs.Wire
import SyntheticMarket.Server.Reply
import SyntheticMarket.Server.Stream

/-! The candles that clients see. A request and a new connection each get the newest candles of a
simulation, as many as the settings allow, as long as they allow any: below that, the limit counts
candles to leave out at the front. -/

namespace SyntheticMarket

namespace Catalog

variable {β : Type} {count : Int}

theorem fromEnd_of_pos (positive : 0 < count) (items : List β) :
    fromEnd count items = items.rtake count.toNat := by
  rw [fromEnd, if_pos positive, List.rtake]

theorem fromEnd_of_nonpos (nonpos : count ≤ 0) (items : List β) :
    fromEnd count items = items.drop (-count).toNat := by
  rw [fromEnd, if_neg (Int.not_lt.mpr nonpos)]

/-- What is told of some items when `limit` of them are wanted and `cap` are allowed: the newest
ones if any are allowed at all. -/
structure Window (cap limit : Int) (items told : List β) : Prop where
  leftOut : cap ≤ 0 → told = items.drop (-cap).toNat
  newest_iff : told = items.rtake limit.toNat ↔ 0 < cap ∨ (items.length : Int) ≤ -cap
  bounded_iff : (told.length : Int) ≤ max 0 cap ↔ 0 < cap ∨ (items.length : Int) ≤ -cap

theorem fromEnd_window {cap limit : Int} (allowed : limit ≤ cap) (wanted : 0 < limit ∨ limit = cap)
    (items : List β) : Window cap limit items (fromEnd limit items) := by
  by_cases positive : 0 < cap
  · have newest := fromEnd_of_pos (by omega : 0 < limit) items
    refine ⟨fun nonpos => absurd positive (Int.not_lt.mpr nonpos), ?_, ?_⟩
    · exact iff_of_true newest (.inl positive)
    · refine iff_of_true ?_ (.inl positive)
      rw [newest, List.rtake, List.length_drop]
      omega
  · obtain rfl : limit = cap := by omega
    have none : limit.toNat = 0 := by omega
    rw [fromEnd_of_nonpos (Int.not_lt.mp positive) items]
    refine ⟨fun _ => rfl, ?_, ?_⟩
    · rw [none, List.rtake_zero, List.drop_eq_nil_iff]
      omega
    · rw [List.length_drop]
      omega

end Catalog

/-- A request for the newest candles of a symbol, and for how many, if it names a number. -/
structure Request.AsksCandles (request : Request) (symbol : String) (count : Option Int) :
    Prop where
  method_eq : request.method = .get
  path_eq : request.path = "/api/candles"
  symbol_eq : request.param? "symbol" = some symbol
  count_eq : request.count? "count" = .done count

/-- A number is refused unless it is at least one. -/
theorem Request.count_pos {request : Request} {name : String} {count : Int}
    (read : request.count? name = .done (some count)) : 0 < count := by
  rw [count?] at read
  split at read
  · cases read
  · split at read
    · cases read
    · split at read
      · cases read
      · cases read
        omega

theorem Request.AsksCandles.count_pos {request : Request} {symbol : String} {count : Option Int}
    (asks : request.AsksCandles symbol count) : 0 < count.getD Server.candleCount := by
  cases count with
  | none => decide
  | some count => exact Request.count_pos asks.count_eq

theorem Request.AsksCandles.read {request : Request} {symbol : String} {count : Option Int}
    (asks : request.AsksCandles symbol count) :
    Prod.mk <$> request.text "symbol" <*> request.count? "count" = .done (symbol, count) := by
  rw [text, asks.symbol_eq, asks.count_eq]
  rfl

namespace Server

def tellCandles (symbol timeframe : String) (bars : List (Candle Float)) : Response :=
  .ok (.record [("symbol", .text symbol), ("timeframe", .text timeframe),
    ("count", .whole bars.length), ("candles", Wire.candles bars)])

/-- The response holds the candles and tells how many there are. -/
def TellsCandles (response : Response) (bars : List (Candle Float)) : Prop :=
  ∃ value, response.json? = some value ∧ Wire.Holds "candles" bars value ∧
    value.field? "count" = some (.whole bars.length)

theorem tellCandles_tells (symbol timeframe : String) (bars : List (Candle Float)) :
    TellsCandles (tellCandles symbol timeframe bars) bars :=
  ⟨_, rfl, Wire.candles?_candles bars, rfl⟩

/-- The server is ready, and the symbol is registered with a session. -/
structure Serves (server : Server) (symbol : String) (session : Session Float) : Prop where
  ready : server.ready = true
  found : (server.registry.find? symbol).bind (·.session) = some session

variable {server : Server} {request : Request} {symbol : String} {session : Session Float}

theorem answer_candles {count : Option Int} (asks : request.AsksCandles symbol count) :
    server.answer request = (server.candles request, server) := by
  have resolved : Route.resolve "/api/candles" .get = .found .candles := by decide
  rw [answer, asks.path_eq, asks.method_eq, resolved]

theorem candles_of_serves (serves : server.Serves symbol session) {count : Option Int}
    (asks : request.AsksCandles symbol count) :
    server.candles request = tellCandles symbol session.config.timeframe
      (Catalog.fromEnd (min (count.getD candleCount) server.settings.maxCandles)
        session.candles) := by
  rw [candles, asks.read]
  simp only [serves.ready, serves.found]
  rfl

def meant (settings : Settings) (symbol : Option String) : String :=
  (symbol.filter (!·.isEmpty)).getD (defaultSymbol settings)

theorem snapshot_of_serves (serves : server.Serves symbol session) :
    server.snapshot? symbol = some (Wire.snapshot symbol session.config.timeframe
      (Catalog.fromEnd server.settings.maxCandles session.candles)) := by
  rw [snapshot?, serves.found]
  rfl

theorem frames_connect {asked : Option String} (timeframes : Option String)
    (serves : server.Serves (meant server.settings asked) session) :
    (server.connect asked timeframes).2.hub.frames (server.connect asked timeframes).1 =
      [.accepted, .message (Wire.snapshot (meant server.settings asked) session.config.timeframe
        (Catalog.fromEnd server.settings.maxCandles session.candles))] := by
  have seen := snapshot_of_serves serves
  simp only [meant] at seen
  simp only [connect, serves.ready, if_true, seen]
  simp [Hub.frames, Hub.connect, Room.put, meant]

/-- Whoever asks for the candles of a simulation, or connects to it, gets the newest ones of them and,
if asked, their number, at most as many as the settings allow, exactly if the settings allow any or
ask for more to be left out than there are. -/
theorem windows_capped_iff (server : Server) (session : Session Float) :
    (∀ (request : Request) (symbol : String) (count : Option Int),
      server.Serves symbol session → request.AsksCandles symbol count →
        ∃ bars, server.answer request =
            (tellCandles symbol session.config.timeframe bars, server) ∧
          TellsCandles (server.answer request).1 bars ∧
          Catalog.Window server.settings.maxCandles
            (min (count.getD candleCount) server.settings.maxCandles) session.candles bars) ∧
      ∀ asked timeframes : Option String, server.Serves (meant server.settings asked) session →
        ∃ bars, (server.connect asked timeframes).2.hub.frames
              (server.connect asked timeframes).1 =
            [.accepted, .message
              (Wire.snapshot (meant server.settings asked) session.config.timeframe bars)] ∧
          Wire.Holds "bars" bars
            (Wire.snapshot (meant server.settings asked) session.config.timeframe bars) ∧
          Catalog.Window server.settings.maxCandles server.settings.maxCandles session.candles
            bars := by
  constructor
  · intro request symbol count serves asks
    have positive := asks.count_pos
    have answered := (answer_candles asks).trans
      (congrArg (·, server) (candles_of_serves serves asks))
    refine ⟨_, answered, ?_,
      Catalog.fromEnd_window (Int.min_le_right _ _) (by omega) session.candles⟩
    rw [answered]
    exact tellCandles_tells _ _ _
  · intro asked timeframes serves
    exact ⟨_, frames_connect timeframes serves, Wire.holds_snapshot _ _ _,
      Catalog.fromEnd_window (Int.le_refl _) (.inr rfl) session.candles⟩

def mute : Settings := { historyLength := 3, maxCandles := 0 }

def newestTwo : Request where
  method := .get
  path := "/api/candles"
  query := [("symbol", "DOT/USDT"), ("count", "2")]
  body := ""

/-- With no candle allowed, a request for two of three candles gets all of them, and so does a client
that connects. -/
theorem mute_tells_all :
    ∃ server session, boot mute 1700000000000 = .ok server ∧ server.Serves "DOT/USDT" session ∧
      session.candles.length = 3 ∧
      (server.answer newestTwo).1 =
        tellCandles "DOT/USDT" session.config.timeframe session.candles ∧
      (server.connect none none).2.hub.frames (server.connect none none).1 =
        [.accepted, .message
          (Wire.snapshot "DOT/USDT" session.config.timeframe session.candles)] := by
  have asks : newestTwo.AsksCandles "DOT/USDT" (some 2) := ⟨rfl, rfl, by decide, by decide⟩
  have held : (match boot mute 1700000000000 with
      | .error _ => none
      | .ok server => (server.registry.find? "DOT/USDT").bind fun simulation =>
        simulation.session.map fun session =>
          (server.ready, server.settings.maxCandles, server.settings.symbols,
            session.candles.length)) =
      some (true, 0, ["DOT/USDT"], 3) := by decide +kernel
  cases booted : boot mute 1700000000000 with
  | error misfit =>
    rw [booted] at held
    cases held
  | ok server =>
    rw [booted] at held
    obtain ⟨simulation, found, told⟩ := Option.bind_eq_some_iff.mp held
    obtain ⟨session, running, same⟩ := Option.map_eq_some_iff.mp told
    obtain ⟨ready, cap, symbols, length⟩ : server.ready = true ∧ server.settings.maxCandles = 0 ∧
        server.settings.symbols = ["DOT/USDT"] ∧ session.candles.length = 3 := by
      simpa using same
    have default : meant server.settings none = "DOT/USDT" := by
      rw [meant, defaultSymbol, symbols]
      rfl
    have serves : server.Serves (meant server.settings none) session :=
      ⟨ready, by rw [default, found]; exact running⟩
    have whole : Catalog.fromEnd 0 session.candles = session.candles :=
      Catalog.fromEnd_of_nonpos (Int.le_refl 0) _
    refine ⟨server, session, rfl, default ▸ serves, length, ?_, ?_⟩
    · rw [answer_candles asks, candles_of_serves (default ▸ serves) asks, cap]
      exact congrArg (tellCandles _ _) whole
    · rw [frames_connect none serves, default, cap, whole]

end Server

end SyntheticMarket
