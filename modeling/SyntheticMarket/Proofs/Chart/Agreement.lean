import SyntheticMarket.Proofs.Chart.Bars
import SyntheticMarket.Proofs.Config
import SyntheticMarket.Proofs.Simulation.Machine
import SyntheticMarket.Registry
import SyntheticMarket.Settings

/-! Charts and simulations agree. A query that counts back as many bars as a simulation started with,
up to the bucket in which it was started, tells the very candles that the simulation began from. -/

namespace SyntheticMarket

namespace Symbol

/-- A symbol has the seed of the symbol that it is known under. -/
theorem seed_normal (symbol : String) : seed (normal symbol) = seed symbol := by
  rw [seed, seed, normal_normal]

end Symbol

namespace Walk

/-- A history knows of the present only the bucket that it is in. -/
theorem history_of_align {α : Type} [PriceScale α] {span : Span} {now now' : Int}
    (same : span.align now = span.align now') (noise : Noise) (count : Nat) (volatility : α)
    (startPrice : Option α) :
    history noise now span count volatility startPrice =
      history noise now' span count volatility startPrice := by
  rw [history, history, same]

end Walk

namespace Chart

/-- The bars are told to the outside, and row by row they are the candles. -/
structure Bars.Tells {α : Type} (bars : Bars α) (candles : List (Candle α)) : Prop where
  answered : bars.answer = .bars bars
  rectangular : bars.Rectangular
  size : bars.times.length = candles.length
  rows : ∀ index, bars.row? index = candles[index]?

namespace Query

variable {α : Type} [PriceScale α] {query : Query} {span : Span} {count now : Int}

/-- The query asks for as many bars of a width as `count`, up to the bucket of `now`. -/
structure AsksFor (query : Query) (span : Span) (count now : Int) : Prop where
  known : Resolution.span? query.resolution = some span
  ordered : query.first ≤ query.last
  counted : query.countback = some count
  present : span.align (query.last * 1000) = span.align now

theorem AsksFor.bars_eq (asks : query.AsksFor span count now) (positive : 0 < count)
    {terms : Terms α} (room : count ≤ terms.maxBars) :
    query.bars terms = .ofCandles (query.candles terms span count.toNat) := by
  have wanted : query.wanted span = count := by
    rw [Query.wanted, asks.counted]
    exact if_pos positive
  rw [Query.bars_eq asks.known asks.ordered, wanted, min_eq_left room]

theorem AsksFor.tells_candles [PriceScale.Brisk α] (asks : query.AsksFor span count now)
    (positive : 0 < count) {terms : Terms α} (room : count ≤ terms.maxBars) :
    (query.bars terms).Tells (query.candles terms span count.toNat) := by
  have size := query.length_candles terms span count.toNat
  rw [asks.bars_eq positive room]
  constructor
  · rw [Bars.answer_ofCandles, if_neg]
    rw [Bars.times_ofCandles, List.map_eq_nil_iff, ← List.length_eq_zero_iff, size]
    omega
  · exact Bars.rectangular_ofCandles _
  · rw [Bars.times_ofCandles, List.length_map]
  · exact Bars.row?_ofCandles (query.volume_candles terms span count.toNat)

/-- The candles of a query are those of a simulation that was started in the bucket that the query
ends in, if both draw with the same seed, volatility and start price. -/
theorem AsksFor.candles_eq_reset (asks : query.AsksFor span count now) {config : Config α}
    {terms : Terms α} {intervalMs : Int}
    (accepted : Config.ofParameters
      { symbol := query.symbol, durationMs := span.ms, historyLength := count, intervalMs,
        volatility := terms.volatility, startPrice := terms.startPrice } = .ok config) :
    query.candles terms span count.toNat = (Session.reset config now).candles := by
  have kept := (Config.ofParameters_ok_iff.mp accepted).2
  obtain ⟨symbol, ⟨ms, wide⟩, length, interval, volatility, startPrice, long, whole⟩ := config
  simp only [Config.parameters, Parameters.named, Parameters.mk.injEq] at kept
  obtain ⟨rfl, rfl, rfl, _, rfl, rfl⟩ := kept
  have drawn := Walk.history_of_align asks.present (Noise.ofSeed (Symbol.seed query.symbol).toNat)
    length terms.volatility terms.startPrice
  rw [Session.candles, Session.reset, Config.seed, Symbol.seed_normal]
  exact congrArg (·.tape.toList) drawn

theorem AsksFor.tells_reset [PriceScale.Brisk α] (asks : query.AsksFor span count now)
    {config : Config α} {terms : Terms α} {intervalMs : Int}
    (accepted : Config.ofParameters
      { symbol := query.symbol, durationMs := span.ms, historyLength := count, intervalMs,
        volatility := terms.volatility, startPrice := terms.startPrice } = .ok config)
    (room : count ≤ terms.maxBars) :
    (query.bars terms).Tells (Session.reset config now).candles := by
  have length : (config.historyLength : Int) = count :=
    congrArg Parameters.historyLength ((Config.ofParameters_ok_iff.mp accepted).2)
  have long := config.historyLength_pos
  rw [← asks.candles_eq_reset accepted]
  exact asks.tells_candles (by omega) room

end Query

/-- A query for as many bars as `count`, up to the bucket of `now`, tells the history of any simulation
of its symbol that is reset at `now` with that length, in that width, with the volatility and the
start price that the bars are drawn with. So the charts of some settings tell the history of every
simulation that is started with the configuration of these settings. -/
theorem charts_tell_histories {query : Query} {span : Span} {count now : Int}
    (asks : query.AsksFor span count now) :
    (∀ (terms : Terms Float) (intervalMs : Int) (config : Config Float),
      Config.ofParameters
          { symbol := query.symbol, durationMs := span.ms, historyLength := count, intervalMs,
            volatility := terms.volatility, startPrice := terms.startPrice } = .ok config →
        count ≤ terms.maxBars →
          (query.bars terms).Tells (Session.reset config now).candles) ∧
      ∀ (settings : Settings) (config : Config Float),
        settings.config query.symbol = .ok config → settings.durationMs = span.ms →
          settings.historyLength = count → count ≤ settings.maxBars →
            ∀ (registry : Registry Float) (clock : Clock) (outage : Outage), clock.reading = now →
              ∃ simulation,
                (registry.start config clock outage).state.find? config.symbol = some simulation ∧
                  (query.bars settings.chartTerms).Tells simulation.candles := by
  constructor
  · intro terms intervalMs config accepted room
    exact asks.tells_reset accepted room
  · intro settings config accepted wide long room registry clock outage current
    obtain rfl := current
    obtain rfl := long
    rw [Settings.config, Settings.parameters, wide] at accepted
    refine ⟨_, registry.find?_put_self config.symbol _, ?_⟩
    rw [Simulation.start_state]
    exact asks.tells_reset accepted room

/-- Three minutes back from a second of the minute in which a simulation is started. -/
def recent : Query :=
  { symbol := "", resolution := "1", first := 1700000000, last := 1700000039, countback := some 3 }

def brief : Settings := { historyLength := 3 }

theorem recent_told :
    let nameless : Config Float :=
      { symbol := "SYMBOL"
        duration := ⟨60000, by decide⟩
        historyLength := 3
        interval := ⟨1000, by decide⟩
        volatility := 0.002
        startPrice := none
        historyLength_pos := by decide
        duration_seconds := by decide }
    let clock : Clock := { offset := 1700000000000, passed := 1000 }
    let outage : Outage := { topics := [], failure := { kind := "RuntimeError", text := "boom" } }
    recent.AsksFor nameless.duration 3 clock.reading ∧
      brief.config recent.symbol = .ok nameless ∧
      (recent.bars brief.chartTerms).Tells (Session.reset nameless clock.reading).candles ∧
      ∃ simulation,
        (Registry.empty.start nameless clock outage).state.find? "SYMBOL" = some simulation ∧
          (recent.bars brief.chartTerms).Tells simulation.candles := by
  intro nameless clock outage
  have asks : recent.AsksFor nameless.duration 3 clock.reading :=
    ⟨by decide +kernel, by decide, rfl, by decide⟩
  have accepted : brief.config recent.symbol = .ok nameless := by rfl
  obtain ⟨told, started⟩ := charts_tell_histories asks
  refine ⟨asks, accepted, ?_, ?_⟩
  · exact told brief.chartTerms 1000 nameless accepted (by decide)
  · exact started brief nameless accepted rfl rfl (by decide) Registry.empty clock outage rfl

end Chart

end SyntheticMarket
