import SyntheticMarket.Chart
import SyntheticMarket.Proofs.Chart.Multiples
import SyntheticMarket.Proofs.History
import SyntheticMarket.Proofs.Price.Binary64

/-! The bars of a chart query. Their times are the bucket starts that the query asks for, no more of
them than an answer may hold, and each row is a candle of the history up to the end of the range. -/

namespace SyntheticMarket

variable {α : Type} [PriceScale α]

namespace Walk

/-- The candles of a history up to a whole second stand at the last bucket starts before it. -/
theorem times_history {span : Span} (whole : span.ms.fmod 1000 = 0) (noise : Noise) (second : Int)
    (count : Nat) (volatility : α) (startPrice : Option α) :
    (history noise (second * 1000) span count volatility startPrice).tape.toList.map Candle.time =
      lastMultiples (span.ms / 1000) second count := by
  obtain ⟨width, wide⟩ := Int.dvd_of_fmod_eq_zero whole
  have seconds : span.ms / 1000 = width := by
    rw [wide, Int.mul_ediv_cancel_left _ (by decide)]
  have aligned : span.align (second * 1000) = 1000 * (width * second.fdiv width) := by
    rw [Span.align_eq, wide, Int.mul_comm second,
      Int.mul_fdiv_mul_of_pos _ _ (by decide), Int.mul_assoc]
  rw [history, times_extend, Tape.toList_empty, List.map_nil, List.nil_append, lastMultiples,
    seconds]
  refine List.map_congr_left fun index _ => ?_
  have start : span.align (second * 1000) - ((count : Int) - 1) * span.ms + index * span.ms =
      1000 * (width * (second.fdiv width - ((count : Int) - 1 - index))) := by
    rw [aligned, wide]
    ring
  rw [start, secondOf, Int.mul_fdiv_cancel_left _ (by decide)]

/-- The volume of every candle of a history is drawn. -/
theorem volume_history (noise : Noise) (now : Int) (span : Span) (count : Nat) (volatility : α)
    (startPrice : Option α) :
    ∀ bar ∈ (history noise now span count volatility startPrice).tape.toList,
      ∃ word, bar.volume = some (10.0 + PriceScale.fraction word * 90.0) := by
  apply forall_mem_extend
  · intro time opening noise
    exact ⟨_, rfl⟩
  · simp

end Walk

namespace Resolution

variable {resolution : String} {span : Span}

theorem whole_seconds (known : span? resolution = some span) : span.ms.fmod 1000 = 0 := by
  have listed : ∀ entry ∈ widths, entry.2.ms.fmod 1000 = 0 := by decide
  obtain ⟨before, after, parts, _⟩ := List.lookup_eq_some_iff.mp known
  apply listed (canonical (Text.upper (Text.strip resolution)), span)
  rw [parts]
  exact List.mem_append_right before List.mem_cons_self

-- Here and below `delta` is used: an equation of a match on a resolution would be searched for
-- through the whole table of letters.
theorem span_of_some (known : span? resolution = some span) :
    Resolution.span resolution = .ok span := by
  delta Resolution.span
  rw [known]

theorem span_of_none (unknown : span? resolution = none) :
    Resolution.span resolution = .error (.unknownResolution resolution) := by
  delta Resolution.span
  rw [unknown]

end Resolution

namespace Chart

def Bars.row? (bars : Bars α) (index : Nat) : Option (Candle α) := do
  let time ← bars.times[index]?
  let opening ← bars.openings[index]?
  let high ← bars.highs[index]?
  let low ← bars.lows[index]?
  let closing ← bars.closings[index]?
  let volume ← bars.volumes[index]?
  return { time, opening, high, low, closing, volume := some volume }

structure Bars.Rectangular (bars : Bars α) : Prop where
  openings : bars.openings.length = bars.times.length
  highs : bars.highs.length = bars.times.length
  lows : bars.lows.length = bars.times.length
  closings : bars.closings.length = bars.times.length
  volumes : bars.volumes.length = bars.times.length

theorem Bars.rectangular_ofCandles (candles : List (Candle α)) :
    (Bars.ofCandles candles).Rectangular := by
  cases candles with
  | nil => constructor <;> rfl
  | cons first others => constructor <;> simp [ofCandles]

theorem Bars.times_ofCandles (candles : List (Candle α)) :
    (Bars.ofCandles candles).times = candles.map Candle.time := by
  cases candles <;> rfl

/-- The label of some candles is that of their times, and it is no error. -/
theorem Bars.status_ofCandles (candles : List (Candle α)) :
    (Bars.ofCandles candles).status =
      if (Bars.ofCandles candles).times = [] then Status.noData else Status.ok := by
  cases candles <;> rfl

theorem Bars.answer_ofCandles (candles : List (Candle α)) :
    (Bars.ofCandles candles).answer =
      if (Bars.ofCandles candles).times = [] then Answer.noData
      else Answer.bars (Bars.ofCandles candles) := by
  cases candles <;> rfl

theorem Bars.row?_ofCandles {candles : List (Candle α)}
    (told : ∀ bar ∈ candles, bar.volume = some (Price.orZero bar.volume)) (index : Nat) :
    (Bars.ofCandles candles).row? index = candles[index]? := by
  cases candles with
  | nil => rfl
  | cons first others =>
    simp only [row?, ofCandles, List.isEmpty_cons, Bool.false_eq_true, ↓reduceIte,
      List.getElem?_map]
    cases found : (first :: others)[index]? with
    | none => rfl
    | some bar =>
      have volume := told bar (List.mem_of_getElem? found)
      change some { bar with volume := some (Price.orZero bar.volume) } = some bar
      rw [← volume]

namespace Query

variable {query : Query} {terms : Terms α} {span : Span}

/-- The times that a query asks for, in seconds: as many as counted back from the end, or all within
the range; of them the last ones, up to the limit. -/
def times (query : Query) (width limit : Int) : List Int :=
  match query.countback.filter (0 < ·) with
  | some count => lastMultiples width query.last (min count limit).toNat
  | none => (multiples width query.first query.last).rtake limit.toNat

def candles (query : Query) (terms : Terms α) (span : Span) (count : Nat) : List (Candle α) :=
  (Walk.history (Noise.ofSeed (Symbol.seed query.symbol).toNat) (query.last * 1000) span count
    terms.volatility terms.startPrice).tape.toList

theorem length_candles (query : Query) (terms : Terms α) (span : Span) (count : Nat) :
    (query.candles terms span count).length = count := by
  rw [candles, Tape.length_toList, Walk.size_history]

/-- Nothing is lost of the volumes in a column of them. -/
theorem volume_candles [PriceScale.Brisk α] (query : Query) (terms : Terms α) (span : Span)
    (count : Nat) :
    ∀ bar ∈ query.candles terms span count, bar.volume = some (Price.orZero bar.volume) := by
  intro bar member
  obtain ⟨word, volume⟩ := Walk.volume_history _ _ _ _ _ _ bar member
  rw [volume, Price.orZero_of_pos (PriceScale.Brisk.zero_lt_drawn word)]

theorem times_candles (whole : span.ms.fmod 1000 = 0) (count : Nat) :
    (query.candles terms span count).map Candle.time =
      lastMultiples (span.ms / 1000) query.last count :=
  Walk.times_history whole _ _ _ _ _

/-- What is asked for are the last bucket starts up to the end of the range, as many as wanted and
allowed. -/
theorem times_eq (whole : span.ms.fmod 1000 = 0) (query : Query) (limit : Int) :
    query.times (span.ms / 1000) limit =
      lastMultiples (span.ms / 1000) query.last (min (query.wanted span) limit).toNat := by
  obtain ⟨width, wide⟩ := Int.dvd_of_fmod_eq_zero whole
  have positive := span.positive
  have seconds : span.ms / 1000 = width := by
    rw [wide, Int.mul_ediv_cancel_left _ (by decide)]
  have inRange : wanted.inRange query span =
      ((multiples width query.first query.last).length : Int) := by
    rw [wanted.inRange, Span.startsWithin_eq, wide, Int.mul_comm 1000,
      length_multiples_mul (by decide) (by omega)]
  rw [seconds]
  have ranged : (multiples width query.first query.last).rtake limit.toNat =
      lastMultiples width query.last (min (wanted.inRange query span) limit).toNat := by
    rw [inRange, length_multiples (by omega), multiples_eq (by omega), rtake_lastMultiples]
    congr 1
    omega
  unfold times wanted
  cases query.countback with
  | none => exact ranged
  | some count =>
    by_cases asked : 0 < count
    · simp [Option.filter, asked]
    · simp only [Option.filter, asked, decide_false, Bool.false_eq_true, ↓reduceIte]
      exact ranged

end Query

namespace Query

variable {query : Query} {span : Span}

theorem bars_of_unknown (unknown : Resolution.span? query.resolution = none) (terms : Terms α) :
    (query.bars terms).status = .error := by
  delta bars
  rw [Resolution.span_of_none unknown]
  rfl

theorem bars_of_inverted (known : Resolution.span? query.resolution = some span)
    (inverted : query.last < query.first) (terms : Terms α) :
    (query.bars terms).status = .error := by
  delta bars
  rw [Resolution.span_of_some known]
  simp only [if_pos inverted]
  rfl

/-- With a known resolution and a range that is not inverted, the bars are candles, if only none. -/
theorem bars_eq (known : Resolution.span? query.resolution = some span)
    (ordered : query.first ≤ query.last) (terms : Terms α) :
    query.bars terms =
      .ofCandles (query.candles terms span (min (query.wanted span) terms.maxBars).toNat) := by
  delta bars
  rw [Resolution.span_of_some known]
  simp only [if_neg (Int.not_lt.mpr ordered)]
  split
  · rename_i nothing
    rw [Int.toNat_eq_zero.mpr nothing]
    rfl
  · rfl

end Query

/-- The bars of a query are an error exactly for an unknown resolution or an inverted range. Else
their times are those that the query asks for, there are no data exactly if these are none, and each
row is a candle of the history up to the end of the range. The answer that is told to the outside is
the one that the label of the bars says. -/
theorem bars_exact [PriceScale.Brisk α] (query : Query) (terms : Terms α) :
    let bars := query.bars terms
    (bars.status = .error ↔
        Resolution.span? query.resolution = none ∨ query.last < query.first) ∧
      ∀ span, Resolution.span? query.resolution = some span → query.first ≤ query.last →
        bars.times = query.times (span.ms / 1000) terms.maxBars ∧
          (bars.status = .noData ↔ query.times (span.ms / 1000) terms.maxBars = []) ∧
          bars.Rectangular ∧
          (∀ index, bars.row? index = (query.candles terms span bars.times.length)[index]?) ∧
          bars.answer = if bars.times = [] then .noData else .bars bars := by
  intro bars
  constructor
  · constructor
    · intro failed
      by_contra fine
      obtain ⟨known, ordered⟩ := not_or.mp fine
      obtain ⟨span, known⟩ := Option.ne_none_iff_exists'.mp known
      have same : bars = .ofCandles _ := Query.bars_eq known (Int.not_lt.mp ordered) terms
      rw [same, Bars.status_ofCandles] at failed
      split at failed <;> cases failed
    · rintro (unknown | inverted)
      · exact Query.bars_of_unknown unknown terms
      · cases known : Resolution.span? query.resolution with
        | none => exact Query.bars_of_unknown known terms
        | some span => exact Query.bars_of_inverted known inverted terms
  · intro span known ordered
    have whole := Resolution.whole_seconds known
    have same : bars = .ofCandles _ := Query.bars_eq known ordered terms
    have times : bars.times = query.times (span.ms / 1000) terms.maxBars := by
      rw [same, Bars.times_ofCandles, Query.times_candles whole, Query.times_eq whole]
    have size : bars.times.length = (min (query.wanted span) terms.maxBars).toNat := by
      rw [same, Bars.times_ofCandles, List.length_map, Query.length_candles]
    refine ⟨times, ?_, ?_, ?_, ?_⟩
    · rw [← times, same, Bars.status_ofCandles]
      split
      · rename_i empty
        exact iff_of_true rfl empty
      · rename_i nonempty
        exact iff_of_false nofun nonempty
    · rw [same]
      exact Bars.rectangular_ofCandles _
    · intro index
      rw [size, same]
      exact Bars.row?_ofCandles (Query.volume_candles query terms span _) index
    · rw [same]
      exact Bars.answer_ofCandles _

/-- Four minutes start in this range, one of them before the epoch. -/
def minutely : Query :=
  { symbol := "TEST", resolution := " 1", first := -61, last := 121, countback := none }

def scanty : Terms Float := { maxBars := 3, volatility := 0.002, startPrice := none }

theorem minutely_bars :
    let minute : Span := ⟨60000, by decide⟩
    Resolution.span? minutely.resolution = some minute ∧ minutely.first ≤ minutely.last ∧
      (minutely.bars scanty).times = [0, 60, 120] ∧
      (minutely.bars scanty).row? 2 = (minutely.candles scanty minute 3)[2]? := by
  intro minute
  have known : Resolution.span? minutely.resolution = some minute := by decide +kernel
  have ordered : minutely.first ≤ minutely.last := by decide
  have asked : minutely.times (minute.ms / 1000) scanty.maxBars = [0, 60, 120] := by
    decide +kernel
  obtain ⟨times, _, _, rows, _⟩ := (bars_exact minutely scanty).2 minute known ordered
  rw [asked] at times
  refine ⟨known, ordered, times, ?_⟩
  rw [rows 2, times]
  rfl

end Chart

end SyntheticMarket
