import SyntheticMarket.Proofs.Price.Binary64
import SyntheticMarket.Server.Order

/-! Which configurations there are. Parameters are refused for the first rule that they break, and
become a configuration if they break none. The rules for the volatility and the start price forbid
what is below a bound, so an undefined number breaks neither. -/

namespace SyntheticMarket

namespace Parameters

section Rules

variable {α : Type} [PriceScale α]

structure InRange (asked : Parameters α) : Prop where
  wide : 0 < asked.durationMs
  whole : (1000 : Int) ∣ asked.durationMs
  ticking : 0 < asked.intervalMs
  long : 0 < asked.historyLength
  volatility : 0.0 ≤ asked.volatility
  startPrice : ∀ price ∈ asked.startPrice, 0.0 < price

/-- Every parameter is in its range, unless it is an undefined number. -/
structure Tolerable (asked : Parameters α) : Prop where
  wide : 0 < asked.durationMs
  whole : (1000 : Int) ∣ asked.durationMs
  ticking : 0 < asked.intervalMs
  long : 0 < asked.historyLength
  volatility : Price.Defined asked.volatility → 0.0 ≤ asked.volatility
  startPrice : ∀ price ∈ asked.startPrice, Price.Defined price → 0.0 < price

def named (asked : Parameters α) : Parameters α :=
  { asked with symbol := Symbol.normal asked.symbol }

/-- The rules in their order, each with whether the parameters break it and how that is told. -/
def rules (asked : Parameters α) : List (Bool × Misfit α) :=
  [(decide (asked.durationMs ≤ 0), .durationNotPositive asked.durationMs),
    (decide ¬(1000 : Int) ∣ asked.durationMs, .durationNotWholeSeconds asked.durationMs),
    (decide (asked.intervalMs ≤ 0), .intervalNotPositive asked.intervalMs),
    (decide (asked.historyLength ≤ 0), .lengthNotPositive asked.historyLength),
    (decide (asked.volatility < 0.0), .volatilityNegative asked.volatility)] ++
  asked.startPrice.toList.map fun price => (decide (price ≤ 0.0), .startPriceNotPositive price)

def misfit? (asked : Parameters α) : Option (Misfit α) := (asked.rules.find? (·.1)).map (·.2)

def value? (asked : Parameters α) : String → Option (Misfit.Value α)
  | "candle_duration_ms" => some (.whole asked.durationMs)
  | "tick_interval_ms" => some (.whole asked.intervalMs)
  | "history_length" => some (.whole asked.historyLength)
  | "volatility" => some (.real asked.volatility)
  | "start_price" => asked.startPrice.map .real
  | _ => none

variable {asked : Parameters α} {misfit : Misfit α}

/-- Every rule is about a parameter, and tells the name and the value of that one. -/
theorem value?_of_rule {broken : Bool} (rule : (broken, misfit) ∈ asked.rules) :
    asked.value? misfit.field = some misfit.value := by
  obtain declared | priced := List.mem_append.mp rule
  · simp only [List.mem_cons, List.not_mem_nil, or_false, Prod.mk.injEq] at declared
    obtain ⟨_, rfl⟩ | ⟨_, rfl⟩ | ⟨_, rfl⟩ | ⟨_, rfl⟩ | ⟨_, rfl⟩ := declared <;> rfl
  · obtain ⟨price, given, same⟩ := List.mem_map.mp priced
    cases same
    rw [Option.mem_toList] at given
    exact congrArg (Option.map Misfit.Value.real) given

theorem value?_of_misfit? (first : asked.misfit? = some misfit) :
    asked.value? misfit.field = some misfit.value := by
  obtain ⟨⟨broken, _⟩, found, rfl⟩ := Option.map_eq_some_iff.mp first
  exact value?_of_rule (List.mem_of_find?_eq_some found)

theorem misfit?_eq_none : asked.misfit? = none ↔ 0 < asked.durationMs ∧
    (1000 : Int) ∣ asked.durationMs ∧ 0 < asked.intervalMs ∧ 0 < asked.historyLength ∧
    ¬asked.volatility < 0.0 ∧ ∀ price ∈ asked.startPrice, ¬price ≤ 0.0 := by
  simp [misfit?, rules]

@[simp] theorem misfit?_named (asked : Parameters α) : asked.named.misfit? = asked.misfit? := rfl

omit [PriceScale α] in
@[simp] theorem named_named (asked : Parameters α) : asked.named.named = asked.named := by
  rw [named, named, Symbol.normal_normal]

omit [PriceScale α] in
/-- A change of named parameters names what the change of the parameters themselves names. -/
theorem named_apply_named (change : Change α) (asked : Parameters α) :
    (change.apply asked.named).named = (change.apply asked).named := by
  cases given : change.symbol <;> simp [named, Change.apply, given]

def after (asked : Parameters α) (change : Change α) : Parameters α :=
  if (change.apply asked).misfit?.isNone then change.apply asked else asked

variable [PriceScale.Lawful α]

open Price PriceScale.Ordered

theorem tolerable_iff : asked.misfit? = none ↔ asked.Tolerable := by
  have zero : Defined (0.0 : α) := zero_le_zero
  rw [misfit?_eq_none]
  constructor
  · rintro ⟨wide, whole, ticking, long, volatility, startPrice⟩
    refine ⟨wide, whole, ticking, long, fun defined => le_of_not_lt defined zero volatility, ?_⟩
    intro price given defined
    have above := startPrice price given
    exact lt_iff.mpr ⟨(le_total zero defined).resolve_right above, above⟩
  · rintro ⟨wide, whole, ticking, long, volatility, startPrice⟩
    refine ⟨wide, whole, ticking, long, fun below => ?_, fun price given low => ?_⟩
    · obtain ⟨upTo, strict⟩ := lt_iff.mp below
      exact strict (volatility (left_defined upTo))
    · exact (lt_iff.mp (startPrice price given (left_defined low))).2 low

theorem inRange_iff : asked.InRange ↔
    asked.Tolerable ∧ Defined asked.volatility ∧ ∀ price ∈ asked.startPrice, Defined price := by
  constructor
  · rintro ⟨wide, whole, ticking, long, volatility, startPrice⟩
    refine ⟨⟨wide, whole, ticking, long, fun _ => volatility, fun price given _ =>
      startPrice price given⟩, right_defined volatility, fun price given => ?_⟩
    exact right_defined (le_of_lt (startPrice price given))
  · rintro ⟨⟨wide, whole, ticking, long, volatility, startPrice⟩, defined, priced⟩
    exact ⟨wide, whole, ticking, long, volatility defined,
      fun price given => startPrice price given (priced price given)⟩

end Rules

end Parameters

namespace Config

variable {α : Type} [PriceScale α] {asked : Parameters α} {config : Config α} {misfit : Misfit α}

/-- Parameters that break no rule become the configuration that keeps them, but for the name of an
empty symbol; others are refused for the first rule that they break. -/
theorem ofParameters_cases (asked : Parameters α) :
    (asked.misfit? = none ∧ ∃ config, ofParameters asked = .ok config ∧
        config.parameters = asked.named) ∨
      ∃ misfit, asked.misfit? = some misfit ∧ ofParameters asked = .error misfit := by
  have divides : asked.durationMs.fmod 1000 = 0 ↔ (1000 : Int) ∣ asked.durationMs :=
    ⟨Int.dvd_of_fmod_eq_zero, Int.fmod_eq_zero_of_dvd⟩
  have built (wide whole ticking long) :
      (ofParameters.build asked wide whole ticking long).parameters = asked.named := by
    simp [ofParameters.build, parameters, Parameters.named, Int.toNat_of_nonneg (Int.le_of_lt long)]
  unfold ofParameters
  simp only [Parameters.misfit?, Parameters.rules]
  split_ifs with wide whole ticking long negative
  · exact .inr ⟨_, by simp [wide, divides.mp whole, ticking, long, negative], rfl⟩
  · cases given : asked.startPrice with
    | none =>
      refine .inl ⟨?_, _, rfl, built wide whole ticking long⟩
      simp [wide, divides.mp whole, ticking, long, negative]
    | some price =>
      by_cases low : price ≤ 0.0
      · refine .inr ⟨_, ?_, if_pos low⟩
        simp [wide, divides.mp whole, ticking, long, negative, low]
      · refine .inl ⟨?_, _, if_neg low, built wide whole ticking long⟩
        simp [wide, divides.mp whole, ticking, long, negative, low]
  · exact .inr ⟨_, by simp [wide, divides.mp whole, ticking, Int.not_lt.mp long], rfl⟩
  · exact .inr ⟨_, by simp [wide, divides.mp whole, Int.not_lt.mp ticking], rfl⟩
  · exact .inr ⟨_, by simp [wide, divides.not.mp whole], rfl⟩
  · exact .inr ⟨_, by simp [Int.not_lt.mp wide], rfl⟩

theorem ofParameters_error_iff :
    ofParameters asked = .error misfit ↔ asked.misfit? = some misfit := by
  obtain ⟨sound, config, accepted, _⟩ | ⟨first, found, refused⟩ := ofParameters_cases asked
  · simp [sound, accepted]
  · simp [found, refused]

omit [PriceScale α] in
theorem parameters_inj {left right : Config α} :
    left.parameters = right.parameters ↔ left = right := by
  refine ⟨fun same => ?_, congrArg parameters⟩
  obtain ⟨_, ⟨_, _⟩, _, ⟨_, _⟩, _, _, _, _⟩ := left
  obtain ⟨_, ⟨_, _⟩, _, ⟨_, _⟩, _, _, _, _⟩ := right
  simpa [parameters] using same

theorem ofParameters_ok_iff :
    ofParameters asked = .ok config ↔ asked.misfit? = none ∧ config.parameters = asked.named := by
  obtain ⟨sound, built, accepted, kept⟩ | ⟨first, found, refused⟩ := ofParameters_cases asked
  · simp [sound, accepted, ← kept, parameters_inj, eq_comm]
  · simp [found, refused]

theorem symbol_of_ok (accepted : ofParameters asked = .ok config) :
    config.symbol = Symbol.normal asked.symbol :=
  congrArg Parameters.symbol (ofParameters_ok_iff.mp accepted).2

/-- A symbol may be named before the check as well as by it. -/
theorem ofParameters_named (asked : Parameters α) :
    ofParameters asked.named = ofParameters asked := by
  cases checked : ofParameters asked with
  | ok config => simpa [ofParameters_ok_iff] using checked
  | error misfit => simpa [ofParameters_error_iff] using checked

/-- To change a configuration is to check the parameters that it was made from, changed. -/
theorem withChange_eq (accepted : ofParameters asked = .ok config) (change : Change α) :
    config.withChange change = ofParameters (change.apply asked) := by
  rw [withChange, (ofParameters_ok_iff.mp accepted).2, ← ofParameters_named,
    Parameters.named_apply_named, ofParameters_named]

/-- The configuration after a change; one that is refused changes nothing. -/
def after (config : Config α) (change : Change α) : Config α :=
  match config.withChange change with
  | .ok later => later
  | .error _ => config

theorem ofParameters_after (accepted : ofParameters asked = .ok config) (change : Change α) :
    ofParameters (asked.after change) = .ok (config.after change) := by
  rw [Parameters.after, after, withChange_eq accepted]
  obtain ⟨sound, next, taken, _⟩ | ⟨first, found, refused⟩ :=
    ofParameters_cases (change.apply asked)
  · simp [sound, taken]
  · simp [found, refused, accepted]

/-- After any changes the configuration is the one made from all parameters that were not refused. -/
theorem ofParameters_foldl (accepted : ofParameters asked = .ok config)
    (changes : List (Change α)) :
    ofParameters (changes.foldl Parameters.after asked) = .ok (changes.foldl after config) := by
  induction changes generalizing asked config with
  | nil => exact accepted
  | cons change later ih => exact ih (ofParameters_after accepted change)

end Config

namespace Order

/-- An order is refused as its parameters are, and else if its history is longer than the limit. -/
theorem config_cases (order : Order) (settings : Settings) :
    (∃ misfit, Config.ofParameters (order.parameters settings) = .error misfit ∧
        order.config settings = .error misfit) ∨
      ∃ config, Config.ofParameters (order.parameters settings) = .ok config ∧
        ((settings.maxHistory < config.historyLength ∧ order.config settings =
            .error (.lengthAboveLimit settings.maxHistory config.historyLength)) ∨
          ((config.historyLength : Int) ≤ settings.maxHistory ∧
            order.config settings = .ok config)) := by
  rw [Order.config]
  cases Config.ofParameters (order.parameters settings) with
  | error misfit => exact .inl ⟨misfit, rfl, rfl⟩
  | ok config =>
    by_cases long : settings.maxHistory < config.historyLength
    · exact .inr ⟨config, rfl, .inl ⟨long, if_pos long⟩⟩
    · exact .inr ⟨config, rfl, .inr ⟨Int.not_lt.mp long, if_neg long⟩⟩

variable {order : Order} {settings : Settings} {config : Config Float} {misfit : Misfit Float}

theorem config_ok_iff : order.config settings = .ok config ↔
    Config.ofParameters (order.parameters settings) = .ok config ∧
      (config.historyLength : Int) ≤ settings.maxHistory := by
  obtain ⟨first, refused, told⟩ | ⟨built, accepted, ⟨long, told⟩ | ⟨short, told⟩⟩ :=
    order.config_cases settings
  · simp [refused, told]
  · simp only [accepted, told, reduceCtorEq, Except.ok.injEq, false_iff, not_and]
    rintro rfl
    exact Int.not_le.mpr long
  · simp only [accepted, told, Except.ok.injEq, iff_self_and]
    rintro rfl
    exact short

theorem config_error_iff : order.config settings = .error misfit ↔
    Config.ofParameters (order.parameters settings) = .error misfit ∨
      ∃ config, Config.ofParameters (order.parameters settings) = .ok config ∧
        settings.maxHistory < config.historyLength ∧
        misfit = .lengthAboveLimit settings.maxHistory config.historyLength := by
  obtain ⟨first, refused, told⟩ | ⟨built, accepted, ⟨long, told⟩ | ⟨short, told⟩⟩ :=
    order.config_cases settings
  · simp [refused, told]
  · simp [accepted, told, long, eq_comm]
  · simp [accepted, told, short]

end Order

namespace Config

open Binary64

/-- For parameters of which the volatility and the start price are any floats:
- They become a configuration exactly when they are tolerable, and it keeps them, with the fallback
  in place of an empty symbol. They are in range when they are tolerable and both floats are
  numbers.
- Otherwise they are refused for the first rule in order that they break, under the name and with
  the value of the parameter that it is about.
- To change a configuration is to make one from the changed parameters. So after any changes, the
  refused ones skipped, it is made from what was not refused.
- The configuration of an order is one made from its parameters, no longer than the limit; an order
  is refused for its parameters, or because its history is longer. -/
theorem ofParameters_checked (asked : Parameters Float) :
    (∀ config, ofParameters asked = .ok config ↔
        asked.Tolerable ∧ config.parameters = asked.named) ∧
      ((∃ config, ofParameters asked = .ok config) ↔ asked.Tolerable) ∧
      (asked.InRange ↔ asked.Tolerable ∧ asked.volatility.isNaN = false ∧
        ∀ price ∈ asked.startPrice, price.isNaN = false) ∧
      (∀ misfit, ofParameters asked = .error misfit ↔ asked.misfit? = some misfit) ∧
      (∀ misfit, asked.misfit? = some misfit → asked.value? misfit.field = some misfit.value) ∧
      (∀ config, ofParameters asked = .ok config → config.symbol ≠ "" ∧
        (∀ change, config.withChange change = ofParameters (change.apply asked)) ∧
        ∀ changes : List (Change Float),
          ofParameters (changes.foldl Parameters.after asked) = .ok (changes.foldl after config)) ∧
      ∀ (order : Order) (settings : Settings), order.parameters settings = asked →
        (∀ config, order.config settings = .ok config ↔
          ofParameters asked = .ok config ∧ (config.historyLength : Int) ≤ settings.maxHistory) ∧
        ∀ misfit, order.config settings = .error misfit ↔ ofParameters asked = .error misfit ∨
          ∃ config, ofParameters asked = .ok config ∧
            settings.maxHistory < config.historyLength ∧
            misfit = .lengthAboveLimit settings.maxHistory config.historyLength := by
  refine ⟨fun config => ?_, ?_, ?_, fun misfit => ofParameters_error_iff,
    fun misfit => Parameters.value?_of_misfit?, fun config accepted => ⟨?_, ?_, ?_⟩, ?_⟩
  · rw [ofParameters_ok_iff, Parameters.tolerable_iff]
  · rw [← Parameters.tolerable_iff]
    obtain ⟨sound, config, accepted, _⟩ | ⟨misfit, found, refused⟩ := ofParameters_cases asked
    · simp [sound, accepted]
    · simp [found, refused]
  · simp only [Parameters.inRange_iff, defined_iff_isNaN]
  · have kept : config.symbol = Symbol.normal asked.symbol :=
      congrArg Parameters.symbol (ofParameters_ok_iff.mp accepted).2
    rw [kept]
    exact Symbol.normal_ne_empty asked.symbol
  · exact withChange_eq accepted
  · exact ofParameters_foldl accepted
  · rintro order settings rfl
    exact ⟨fun config => Order.config_ok_iff, fun misfit => Order.config_error_iff⟩

/-- Neither a start price nor a volatility that is no number is refused. -/
theorem undefined_accepted :
    let standard : Parameters Float := .standard "X"
    let unpriced := { standard with startPrice := some (0.0 / 0.0) }
    let unsettled := { standard with volatility := 0.0 / 0.0 }
    ((ofParameters unpriced).toOption.isSome ∧ ¬unpriced.InRange) ∧
      (ofParameters unsettled).toOption.isSome ∧ ¬unsettled.InRange := by
  intro standard unpriced unsettled
  refine ⟨⟨by decide +kernel, fun ranged => ?_⟩, by decide +kernel, fun ranged => ?_⟩
  · exact absurd (ranged.startPrice (0.0 / 0.0) rfl) (by decide +kernel)
  · exact absurd ranged.volatility (by decide +kernel)

end Config

end SyntheticMarket
