import SyntheticMarket.Proofs.Price.Order
import SyntheticMarket.Proofs.Session.Tick

/-! Candles from the whole run at once. The trades of a run are drawn in advance and cut into segments
where a bucket ends; each candle is computed from its own segment. Ticking one trade after the other
gives the same candles. -/

namespace SyntheticMarket

variable {α : Type} [PriceScale α]

structure Trade (α : Type) where
  price : α
  share : α
deriving DecidableEq, Repr

namespace Trade

def move (volatility price drawn : α) : α :=
  Price.raise (price * (1.0 + (drawn - 0.5) * 2.0 * volatility))

/-- The next `count` trades. The move is drawn before the share. -/
def path (volatility : α) : Nat → α → Noise → List (Trade α)
  | 0, _, _ => []
  | count + 1, price, noise =>
    let moved := noise.draw (α := α)
    let next := move volatility price moved.1
    let traded := moved.2.draw (α := α)
    { price := next, share := traded.1 } :: path volatility count next traded.2

/-- Which clock readings end the bucket under construction. Each of them ends one bucket only. -/
def cuts (span : Span) : Int → List Int → List Bool
  | _, [] => []
  | start, now :: later =>
    if start + span.ms ≤ now then true :: cuts span (start + span.ms) later
    else false :: cuts span start later

theorem cuts_late {span : Span} {start now : Int} (later : List Int)
    (late : start + span.ms ≤ now) :
    cuts span start (now :: later) = true :: cuts span (start + span.ms) later := if_pos late

theorem cuts_early {span : Span} {start now : Int} (later : List Int)
    (early : now < start + span.ms) :
    cuts span start (now :: later) = false :: cuts span start later :=
  if_neg (Int.not_le.mpr early)

omit [PriceScale α] in
/-- The trades before the first cut, and a segment for every cut, led by the trade at the cut. -/
def segments : List (Bool × Trade α) → List (Trade α) × List (Trade α × List (Trade α))
  | [] => ([], [])
  | (cut, trade) :: rest =>
    let parts := segments rest
    if cut then ([], (trade, parts.1) :: parts.2) else (trade :: parts.1, parts.2)

omit [PriceScale α] in
theorem segments_all {P : Trade α → Prop} {pairs : List (Bool × Trade α)}
    (all : ∀ pair ∈ pairs, P pair.2) :
    (∀ trade ∈ (segments pairs).1, P trade) ∧
      ∀ part ∈ (segments pairs).2, ∀ trade ∈ part.1 :: part.2, P trade := by
  induction pairs with
  | nil => exact ⟨nofun, nofun⟩
  | cons pair rest ih =>
    obtain ⟨cut, trade⟩ := pair
    have own : P trade := all (cut, trade) List.mem_cons_self
    obtain ⟨before, behind⟩ := ih fun pair member => all pair (List.mem_cons_of_mem _ member)
    cases cut with
    | true =>
      have led := List.forall_mem_cons.mpr ⟨own, before⟩
      exact ⟨nofun, List.forall_mem_cons.mpr ⟨led, behind⟩⟩
    | false => exact ⟨List.forall_mem_cons.mpr ⟨own, before⟩, behind⟩

/-- The floor under a move leaves no price undefined. -/
theorem move_defined [PriceScale.Lawful α] (volatility price drawn : α) :
    Price.Defined (move volatility price drawn) :=
  PriceScale.Ordered.right_defined (Price.floor_le_raise _)

theorem path_defined [PriceScale.Lawful α] (volatility : α) (count : Nat) (price : α)
    (noise : Noise) : ∀ trade ∈ path volatility count price noise, Price.Defined trade.price := by
  induction count generalizing price noise with
  | zero => exact nofun
  | succ count ih => exact List.forall_mem_cons.mpr ⟨move_defined _ _ _, ih _ _⟩

/-- The volume after the shares of a segment, added from the left; none counts as zero. -/
def accumulate (volume : Option α) (segment : List (Trade α)) : Option α :=
  segment.foldl
    (fun volume trade => some (Price.orZero volume + (0.2 + trade.share * 0.8))) volume

end Trade

namespace Candle

def extended (bar : Candle α) (segment : List (Trade α)) : Candle α :=
  let prices := segment.map (·.price)
  { bar with
    high := Price.highest bar.high prices
    low := Price.lowest bar.low prices
    closing := prices.getLastD bar.closing
    volume := Trade.accumulate bar.volume segment }

/-- The candle of the bucket from `start` on, entered at the close of `closed`. -/
def opened (closed : Candle α) (start : Int) (first : Trade α) (rest : List (Trade α)) :
    Candle α :=
  let prices := (first :: rest).map (·.price)
  let volume := closed.volume.getD Session.assumedVolume * (0.9 + first.share * 0.2)
  { time := secondOf start
    opening := closed.closing
    high := Price.highest closed.closing prices
    low := Price.lowest closed.closing prices
    closing := prices.getLastD closed.closing
    volume := Trade.accumulate (some volume) rest }

def successors (span : Span) :
    Candle α → Int → List (Trade α × List (Trade α)) → List (Candle α)
  | _, _, [] => []
  | closed, start, (first, rest) :: later =>
    let bar := opened closed (start + span.ms) first rest
    bar :: successors span bar (start + span.ms) later

/-- The candles from `last` on after ticks at `times`, computed from the whole run. -/
def regrouped (config : Config α) (last : Candle α) (start : Int) (price : α) (noise : Noise)
    (times : List Int) : List (Candle α) :=
  let trades := Trade.path config.volatility times.length price noise
  let parts := Trade.segments ((Trade.cuts config.duration start times).zip trades)
  let live := last.extended parts.1
  live :: successors config.duration live start parts.2

/-- The candle of a bucket without any candle before it, at the only price so far. -/
def single (start : Int) (price : α) : Candle α :=
  { time := secondOf start, opening := price, high := price, low := price, closing := price,
    volume := some 0.0 }

structure Reaches (bar : Candle α) (upward downward : List α) : Prop where
  high_mem : bar.high ∈ upward
  le_high : ∀ price ∈ upward, price ≤ bar.high
  low_mem : bar.low ∈ downward
  low_le : ∀ price ∈ downward, bar.low ≤ price

/-- The first candle reaches as far as the given prices, each later one as far as the close before it
and the prices of its own segment. -/
inductive Ladder : List α → List α → List (Trade α × List (Trade α)) → List (Candle α) → Prop
  | last {bar : Candle α} {upward downward : List α} (reaches : bar.Reaches upward downward) :
      Ladder upward downward [] [bar]
  | next {bar : Candle α} {upward downward : List α} {first : Trade α} {rest : List (Trade α)}
      {later : List (Trade α × List (Trade α))} {bars : List (Candle α)}
      (reaches : bar.Reaches upward downward)
      (above : Ladder (bar.closing :: (first :: rest).map (·.price))
        (bar.closing :: (first :: rest).map (·.price)) later bars) :
      Ladder upward downward ((first, rest) :: later) (bar :: bars)

def Spread (config : Config α) (last : Candle α) (start : Int) (price : α) (noise : Noise)
    (times : List Int) (bars : List (Candle α)) : Prop :=
  let trades := Trade.path config.volatility times.length price noise
  let parts := Trade.segments ((Trade.cuts config.duration start times).zip trades)
  let prices := parts.1.map (·.price)
  Ladder (last.high :: prices) (last.low :: prices) parts.2 bars

/-- The prices that a further trade is compared with, or that the next candle is entered at. -/
def Settled (bar : Candle α) : Prop :=
  Price.Defined bar.high ∧ Price.Defined bar.low ∧ Price.Defined bar.closing

variable {config : Config α} {last : Candle α} {start now : Int} {price : α} {noise : Noise}

@[simp] theorem extended_nil (bar : Candle α) : bar.extended [] = bar := rfl

/-- The first trade of a segment may as well have been in the candle already. -/
theorem extended_cons (bar : Candle α) (trade : Trade α) (segment : List (Trade α)) :
    bar.extended (trade :: segment) =
      (Session.touch bar trade.price trade.share).extended segment := by
  simp only [extended, List.map_cons, Price.highest, Price.lowest, Trade.accumulate,
    List.foldl_cons, List.getLastD_cons]
  rfl

/-- A new candle is the one after its first trade, extended by the others. -/
theorem opened_eq (closed : Candle α) (start : Int) (first : Trade α) (rest : List (Trade α)) :
    opened closed start first rest =
      (Session.follow closed (secondOf start) first.price first.share).extended rest := by
  simp only [opened, extended, List.map_cons, Price.highest, Price.lowest, List.foldl_cons,
    List.getLastD_cons]
  rfl

/-- The first trade of a run that does not end the bucket goes into the live candle. -/
theorem regrouped_early (later : List Int) (early : now < start + config.duration.ms) :
    let moved := noise.draw (α := α)
    let next := Trade.move config.volatility price moved.1
    let traded := moved.2.draw (α := α)
    regrouped config last start price noise (now :: later) =
      regrouped config (Session.touch last next traded.1) start next traded.2 later := by
  simp only [regrouped, List.length_cons, Trade.path, Trade.cuts_early later early,
    List.zip_cons_cons, Trade.segments, Bool.false_eq_true, ↓reduceIte, extended_cons]

/-- The first trade of a run that ends the bucket leaves the candle as it is and leads the next. -/
theorem regrouped_late (later : List Int) (late : start + config.duration.ms ≤ now) :
    let moved := noise.draw (α := α)
    let next := Trade.move config.volatility price moved.1
    let traded := moved.2.draw (α := α)
    let bar := Session.follow last (secondOf (start + config.duration.ms)) next traded.1
    regrouped config last start price noise (now :: later) =
      last :: regrouped config bar (start + config.duration.ms) next traded.2 later := by
  simp only [regrouped, List.length_cons, Trade.path, Trade.cuts_late later late,
    List.zip_cons_cons, Trade.segments, ↓reduceIte, extended_nil, successors, opened_eq]

section Lawful

variable [PriceScale.Lawful α]

omit [PriceScale α] [PriceScale.Lawful α] in
private theorem forall_prices {P : α → Prop} {segment : List (Trade α)} {entry : α}
    (own : P entry) (all : ∀ trade ∈ segment, P trade.price) :
    ∀ price ∈ entry :: segment.map (·.price), P price :=
  List.forall_mem_cons.mpr ⟨own, List.forall_mem_map.mpr all⟩

theorem reaches_extremes {bar : Candle α} {upper lower : α} {segment : List (Trade α)}
    (above : Price.Defined upper) (below : Price.Defined lower)
    (defined : ∀ trade ∈ segment, Price.Defined trade.price)
    (high_eq : bar.high = Price.highest upper (segment.map (·.price)))
    (low_eq : bar.low = Price.lowest lower (segment.map (·.price))) :
    let prices := segment.map (·.price)
    bar.Reaches (upper :: prices) (lower :: prices) := by
  obtain ⟨high_mem, le_high⟩ := Price.highest_spec (forall_prices above defined)
  obtain ⟨low_mem, low_le⟩ := Price.lowest_spec (forall_prices below defined)
  rw [← high_eq] at high_mem le_high
  rw [← low_eq] at low_mem low_le
  exact { high_mem, le_high, low_mem, low_le }

theorem extended_reaches {bar : Candle α} {segment : List (Trade α)} (settled : bar.Settled)
    (defined : ∀ trade ∈ segment, Price.Defined trade.price) :
    let prices := segment.map (·.price)
    (bar.extended segment).Reaches (bar.high :: prices) (bar.low :: prices) :=
  reaches_extremes settled.1 settled.2.1 defined rfl rfl

theorem opened_reaches {closed : Candle α} {first : Trade α} {rest : List (Trade α)}
    (entered : Price.Defined closed.closing)
    (defined : ∀ trade ∈ first :: rest, Price.Defined trade.price) (start : Int) :
    let prices := closed.closing :: (first :: rest).map (·.price)
    (opened closed start first rest).Reaches prices prices :=
  reaches_extremes entered entered defined rfl rfl

omit [PriceScale.Lawful α] in
theorem last_defined {entry : α} {segment : List (Trade α)} (entered : Price.Defined entry)
    (defined : ∀ trade ∈ segment, Price.Defined trade.price) :
    Price.Defined ((segment.map (·.price)).getLastD entry) :=
  forall_prices entered defined _ List.getLastD_mem_cons

theorem successors_ladder {bar : Candle α} {upward downward : List α}
    (reaches : bar.Reaches upward downward) (entered : Price.Defined bar.closing) (start : Int)
    {parts : List (Trade α × List (Trade α))}
    (defined : ∀ part ∈ parts, ∀ trade ∈ part.1 :: part.2, Price.Defined trade.price) :
    Ladder upward downward parts (bar :: successors config.duration bar start parts) := by
  induction parts generalizing bar start upward downward with
  | nil => exact .last reaches
  | cons part later ih =>
    obtain ⟨own, others⟩ := List.forall_mem_cons.mp defined
    exact .next reaches
      (ih (opened_reaches entered own _) (last_defined entered own) _ others)

theorem regrouped_spread (settled : last.Settled) (times : List Int) :
    Spread config last start price noise times
      (regrouped config last start price noise times) := by
  have defined : ∀ pair ∈ (Trade.cuts config.duration start times).zip
      (Trade.path config.volatility times.length price noise), Price.Defined pair.2.price :=
    fun pair member => Trade.path_defined _ _ _ _ _ (List.of_mem_zip member).2
  obtain ⟨before, behind⟩ := Trade.segments_all (P := fun trade => Price.Defined trade.price) defined
  exact successors_ladder (extended_reaches settled before)
    (last_defined settled.2.2 before) start behind

omit [PriceScale.Lawful α] in
theorem single_settled (start : Int) (entered : Price.Defined price) :
    (single start price).Settled :=
  ⟨entered, entered, entered⟩

end Lawful

end Candle

namespace Session

variable {session : Session α} {last : Candle α}

/-- The ticks of a run that roll over: a first candle is opened at any clock reading. -/
def cuts (session : Session α) (times : List Int) : List Bool :=
  match session.tape.last?, times with
  | some _, times => Trade.cuts session.config.duration session.bucketStart times
  | none, [] => []
  | none, _ :: later => false :: Trade.cuts session.config.duration session.bucketStart later

/-- The candles after ticks at `times`, computed from the whole run. Opening a first candle draws a
move but no share. -/
def batch (session : Session α) (times : List Int) : List (Candle α) :=
  match session.tape.last?, times with
  | some last, times =>
    session.candles.dropLast ++ Candle.regrouped session.config last session.bucketStart
      session.lastPrice session.noise times
  | none, [] => []
  | none, _ :: later =>
    let moved := session.noise.draw (α := α)
    let price := Trade.move session.config.volatility session.lastPrice moved.1
    Candle.regrouped session.config (Candle.single session.bucketStart price) session.bucketStart
      price moved.2 later

/-- The candles reach as far as the prices of the run, segment by segment. -/
def Spread (session : Session α) (times : List Int) (bars : List (Candle α)) : Prop :=
  match session.tape.last?, times with
  | some last, times =>
    Candle.Spread session.config last session.bucketStart session.lastPrice session.noise times bars
  | none, [] => bars = []
  | none, _ :: later =>
    let moved := session.noise.draw (α := α)
    let price := Trade.move session.config.volatility session.lastPrice moved.1
    Candle.Spread session.config (Candle.single session.bucketStart price) session.bucketStart
      price moved.2 later bars

/-- Behind finished candles, a run changes and adds what the whole run determines. -/
theorem run_regrouped (live : session.tape.last? = some last) (times : List Int) :
    (session.run times).2.candles =
      session.candles.dropLast ++ Candle.regrouped session.config last session.bucketStart
        session.lastPrice session.noise times := by
  induction times generalizing session last with
  | nil => exact candles_eq live
  | cons now later ih =>
    rw [run_cons]
    by_cases late : session.bucketEnd ≤ now
    · rw [tick_of_late live late, Candle.regrouped_late later late, ih rfl]
      have finished := congrArg List.dropLast (candles_rollOver session last)
      rw [List.dropLast_concat, candles_eq live] at finished
      rw [finished, List.append_assoc]
      rfl
    · have early : now < session.bucketEnd := Int.not_le.mp late
      rw [tick_of_early live early, Candle.regrouped_early later early, ih rfl]
      have finished := congrArg List.dropLast (candles_updateLive session last)
      rw [List.dropLast_concat] at finished
      rw [finished]
      rfl

theorem run_cuts_of_live (live : session.tape.last? = some last) (times : List Int) :
    (session.run times).1.map Update.rolledOver =
      Trade.cuts session.config.duration session.bucketStart times := by
  induction times generalizing session last with
  | nil => rfl
  | cons now later ih =>
    rw [run_cons, List.map_cons]
    by_cases late : session.bucketEnd ≤ now
    · rw [tick_of_late live late, ih rfl, Trade.cuts_late later late]
      rfl
    · have early : now < session.bucketEnd := Int.not_le.mp late
      rw [tick_of_early live early, ih rfl, Trade.cuts_early later early]
      rfl

theorem batch_spread [PriceScale.Lawful α] (times : List Int)
    (settled : ∀ last, session.tape.last? = some last → last.Settled) :
    ∃ bars, session.batch times = session.candles.dropLast ++ bars ∧
      session.Spread times bars := by
  unfold batch Spread
  cases held : session.tape.last? with
  | some last => exact ⟨_, rfl, Candle.regrouped_spread (settled last held) times⟩
  | none =>
    have empty : session.candles = [] := Tape.toList_eq_nil held
    rw [empty]
    cases times with
    | nil => exact ⟨[], rfl, rfl⟩
    | cons now later =>
      have single := Candle.single_settled session.bucketStart
        (Trade.move_defined session.config.volatility session.lastPrice session.noise.draw.1)
      exact ⟨_, rfl, Candle.regrouped_spread single later⟩

/-- From any session, however its candles came about, ticking one time after the other rolls over at
the cuts of the whole run and leaves the candles that the segments between the cuts determine. Where
prices are ordered and the last candle has no undefined one, the high of each candle is the highest
of its prices and the low is the lowest. -/
theorem run_eq_batch (session : Session α) (times : List Int) :
    (session.run times).1.map Update.rolledOver = session.cuts times ∧
      (session.run times).2.candles = session.batch times ∧
      ∀ [PriceScale.Lawful α], (∀ last, session.tape.last? = some last → last.Settled) →
        ∃ bars, session.batch times = session.candles.dropLast ++ bars ∧
          session.Spread times bars := by
  rw [← and_assoc]
  refine ⟨?_, batch_spread times⟩
  unfold cuts batch
  cases held : session.tape.last? with
  | some last => exact ⟨run_cuts_of_live held times, run_regrouped held times⟩
  | none =>
    have empty : session.candles = [] := Tape.toList_eq_nil held
    cases times with
    | nil => exact ⟨rfl, empty⟩
    | cons now later =>
      have alone := congrArg List.dropLast (candles_openFirst session)
      rw [List.dropLast_concat, empty] at alone
      rw [run_cons, tick_of_empty held, List.map_cons]
      constructor
      · exact congrArg (false :: ·) (run_cuts_of_live rfl later)
      · rw [run_regrouped rfl later, alone]
        rfl

end Session

end SyntheticMarket
