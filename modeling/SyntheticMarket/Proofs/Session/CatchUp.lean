import Mathlib.Data.List.Chain
import Mathlib.Data.List.Induction
import Mathlib.Order.Bounds.Basic
import Mathlib.Order.MinMax
import SyntheticMarket.Proofs.Session.Tick

/-! Late buckets. A tick closes one bucket at most, so buckets that ended during a pause are closed
one tick after the other. How many are closed after some ticks has a closed form: the least of what
the ticks up to each of them, and each of their times, allow. -/

namespace SyntheticMarket

namespace Span

/-- How many buckets, the first of which begins at `start`, have ended by the moment. -/
def endedBy (span : Span) (start moment : Int) : Int := (moment - start).fdiv span.ms

/-- What bounds the rollovers of ticks at the times: each tick makes one at most, and up to the tick
at an index there are no more than buckets that have ended by then. -/
def allowances (span : Span) (start : Int) (times : List Int) : List Int :=
  times.length :: times.zipIdx.map fun timed =>
    span.endedBy start timed.1 + (times.length - (timed.2 + 1) : Int)

variable {span : Span} {start now : Int} {times : List Int}

theorem le_endedBy {count : Int} : count ≤ span.endedBy start now ↔ start + count * span.ms ≤ now := by
  rw [endedBy, Int.fdiv_eq_ediv_of_nonneg _ (Int.le_of_lt span.positive),
    Int.le_ediv_iff_mul_le span.positive]
  omega

/-- One tick more allows one rollover more, up to the buckets that have ended by its time. -/
theorem allowances_concat :
    span.allowances start (times ++ [now]) =
      (span.allowances start times).map (· + 1) ++ [span.endedBy start now] := by
  simp only [allowances, List.zipIdx_append, List.map_append, List.length_append,
    List.length_singleton, List.map_cons, List.map_map, List.cons_append]
  congr 2
  · congr 1
    funext timed
    simp only [Function.comp_apply]
    omega
  · simp

theorem isLeast_allowances_concat {count : Int}
    (least : IsLeast {bound | bound ∈ span.allowances start times} count) (now : Int) :
    IsLeast {bound | bound ∈ span.allowances start (times ++ [now])}
      (min (count + 1) (span.endedBy start now)) := by
  obtain ⟨among, lower⟩ := least
  simp only [allowances_concat, List.mem_append, List.mem_map, List.mem_singleton]
  constructor
  · obtain first | second := min_choice (count + 1) (span.endedBy start now)
    · exact .inl ⟨count, among, first.symm⟩
    · exact .inr second
  · rintro bound (⟨earlier, listed, rfl⟩ | rfl)
    · exact (min_le_left _ _).trans (Int.add_le_add_right (lower listed) 1)
    · exact min_le_right _ _

/-- Ticks at one instant close a bucket each until none is left. -/
theorem isLeast_allowances_replicate (count : Nat) (before : start ≤ now) :
    IsLeast {bound | bound ∈ span.allowances start (List.replicate count now)}
      (min (count : Int) (span.endedBy start now)) := by
  induction count with
  | zero =>
    have whole : 0 ≤ span.endedBy start now := le_endedBy.mpr (by omega)
    have none : min ((0 : Nat) : Int) (span.endedBy start now) = 0 := by omega
    rw [none]
    exact ⟨by simp [allowances], by simp [allowances, lowerBounds]⟩
  | succ count ih =>
    have more := isLeast_allowances_concat ih now
    have same : min (min (count : Int) (span.endedBy start now) + 1) (span.endedBy start now) =
        min ((count + 1 : Nat) : Int) (span.endedBy start now) := by
      omega
    rwa [same, ← List.replicate_succ'] at more

end Span

namespace Session

variable {α : Type}

def rolls (updates : List (Update α)) : Nat := updates.countP (·.rolledOver)

variable [PriceScale α] {session later : Session α} {times : List Int} {updates : List (Update α)}
  {now : Int}

omit [PriceScale α] in
theorem rolls_append (earlier later : List (Update α)) :
    rolls (earlier ++ later) = rolls earlier + rolls later :=
  List.countP_append

/-- With a live candle a tick rolls over exactly if the bucket has ended, and then into the next. -/
theorem tick_rolls (live : session.tape.last? ≠ none) (now : Int) :
    let gained := rolls [(session.tick now).1]
    gained = (if session.bucketEnd ≤ now then 1 else 0) ∧
      (session.tick now).2.bucketStart = session.bucketStart + gained * session.config.duration.ms ∧
      (session.tick now).2.rollovers = session.rollovers + gained := by
  obtain ⟨empty, _⟩ | ⟨last, _, early, ticked⟩ | ⟨last, _, late, ticked⟩ := session.tick_cases now
  · exact absurd empty live
  · have none : rolls [(session.moved.updateLive last).1] = 0 := rfl
    rw [if_neg (Int.not_le.mpr early), ticked, none]
    refine ⟨rfl, ?_, rfl⟩
    rw [Int.natCast_zero, Int.zero_mul, Int.add_zero]
    rfl
  · have one : rolls [(session.moved.rollOver last).1] = 1 := rfl
    rw [if_pos late, ticked, one]
    refine ⟨rfl, ?_, rfl⟩
    rw [Int.natCast_one, Int.one_mul]
    rfl

/-- No tick moves the bucket by more than one span, whatever the clock reads. -/
theorem tick_bucketStart (session : Session α) (now : Int) :
    (session.tick now).2.bucketStart = session.bucketStart ∨
      (session.tick now).2.bucketStart = session.bucketEnd := by
  obtain ⟨_, ticked⟩ | ⟨_, _, _, ticked⟩ | ⟨_, _, _, ticked⟩ := session.tick_cases now <;> rw [ticked]
  · exact .inl rfl
  · exact .inl rfl
  · exact .inr rfl

/-- What ticks at the times make of a session: as many rollovers as the least allowance, by which the
bucket has moved, though not past the clock. -/
structure CaughtUp (session : Session α) (times : List Int) (updates : List (Update α))
    (later : Session α) : Prop where
  live : later.tape.last? ≠ none
  config : later.config = session.config
  bucketStart_eq :
    later.bucketStart = session.bucketStart + rolls updates * session.config.duration.ms
  rollovers_eq : later.rollovers = session.rollovers + rolls updates
  least : IsLeast {bound | bound ∈ session.config.duration.allowances session.bucketStart times}
    (rolls updates : Int)
  punctual : later.bucketStart ≤ times.getLast?.getD session.bucketStart

omit [PriceScale α] in
theorem caughtUp_start (live : session.tape.last? ≠ none) : CaughtUp session [] [] session where
  live
  config := rfl
  bucketStart_eq := by simp [rolls]
  rollovers_eq := rfl
  least := ⟨by simp [rolls, Span.allowances], by simp [rolls, Span.allowances, lowerBounds]⟩
  punctual := by simp

theorem CaughtUp.tick (caught : CaughtUp session times updates later)
    (after : times.getLast?.getD session.bucketStart ≤ now) :
    CaughtUp session (times ++ [now]) (updates ++ [(later.tick now).1]) (later.tick now).2 := by
  have reached : later.bucketStart ≤ now := caught.punctual.trans after
  have begun := caught.bucketStart_eq
  obtain ⟨gained, bucketStart, rollovers⟩ := tick_rolls caught.live now
  have counted := rolls_append updates [(later.tick now).1]
  -- The rollovers so far are within what the new time allows, since the bucket is not past it.
  have within : (rolls updates : Int) ≤
      session.config.duration.endedBy session.bucketStart now :=
    Span.le_endedBy.mpr (by omega)
  have ended : later.bucketEnd ≤ now ↔
      (rolls updates : Int) + 1 ≤ session.config.duration.endedBy session.bucketStart now := by
    rw [Span.le_endedBy, bucketEnd_eq, caught.config, begun, Int.add_mul]
    omega
  have grown : (rolls (updates ++ [(later.tick now).1]) : Int) =
      min ((rolls updates : Int) + 1)
        (session.config.duration.endedBy session.bucketStart now) := by
    rw [counted, gained]
    split <;> omega
  refine ⟨?_, ?_, ?_, ?_, ?_, ?_⟩
  · rw [(later.tick_live now).1]
    exact nofun
  · rw [tick_config, caught.config]
  · rw [bucketStart, begun, caught.config, counted, Int.natCast_add, Int.add_mul, Int.add_assoc]
  · rw [rollovers, caught.rollovers_eq, counted, Nat.add_assoc]
  · rw [grown]
    exact Span.isLeast_allowances_concat caught.least now
  · rw [List.getLast?_concat, Option.getD_some, bucketStart, gained]
    split
    · rename_i late
      rw [bucketEnd_eq] at late
      simpa using late
    · simpa using reached

theorem run_caughtUp (live : session.tape.last? ≠ none) (times : List Int)
    (rising : (session.bucketStart :: times).IsChain (· ≤ ·)) :
    CaughtUp session times (session.run times).1 (session.run times).2 := by
  induction times using List.reverseRecOn with
  | nil => exact caughtUp_start live
  | append_singleton times now ih =>
    rw [← List.cons_append] at rising
    obtain ⟨before, -, joined⟩ := List.isChain_append.mp rising
    have step := (ih before).tick (joined _ List.getLast?_cons now rfl)
    rwa [run_append]

/-- A tick less than a span after the end of the bucket leaves the bucket of its time. -/
theorem tick_current (live : session.tape.last? ≠ none)
    (prompt : now < session.bucketEnd + session.config.duration.ms) :
    now < (session.tick now).2.bucketEnd := by
  obtain ⟨gained, bucketStart, _⟩ := tick_rolls live now
  rw [bucketEnd_eq] at prompt gained
  rw [bucketEnd_eq, tick_config, bucketStart, gained]
  split <;> omega

theorem run_live (live : session.tape.last? ≠ none) (times : List Int) :
    (session.run times).2.tape.last? ≠ none := by
  refine run_preserves (fun later => later.tape.last? ≠ none) (fun later now _ => ?_) live times
  rw [(later.tick_live now).1]
  exact nofun

/-- The clock gets into no bucket but the next one before a tick: the first tick comes before the
bucket after that is over, and none comes more than a span after the one before it. -/
structure Prompt (session : Session α) (times : List Int) : Prop where
  first : ∀ first ∈ times.head?, first < session.bucketStart + 2 * session.config.duration.ms
  steady : times.IsChain fun earlier later => later ≤ earlier + session.config.duration.ms

omit [PriceScale α] in
theorem Prompt.before {after : List Int} (prompt : session.Prompt (times ++ after)) :
    session.Prompt times := by
  refine ⟨fun first head => prompt.first first ?_, (List.isChain_append.mp prompt.steady).1⟩
  rw [List.head?_append, head]
  rfl

/-- After prompt ticks the bucket is not over at the last of them. -/
theorem run_current (live : session.tape.last? ≠ none) {times : List Int}
    (prompt : session.Prompt times) :
    ∀ last ∈ times.getLast?, last < (session.run times).2.bucketEnd := by
  induction times using List.reverseRecOn with
  | nil => exact fun last absent => nomatch absent
  | append_singleton times now ih =>
    intro last newest
    obtain rfl : now = last := by simpa using newest
    rw [run_append]
    apply tick_current (run_live live times)
    rw [run_config]
    cases ending : times.getLast? with
    | none =>
      obtain rfl := List.getLast?_eq_none_iff.mp ending
      have first := prompt.first now rfl
      change now < session.bucketStart + session.config.duration.ms + session.config.duration.ms
      omega
    | some previous =>
      have current := ih prompt.before previous ending
      have soon := (List.isChain_append.mp prompt.steady).2.2 previous ending now rfl
      omega

/-- Ticks at times that never go back, none before the bucket of the session, make as many rollovers
as the least allowance: the number of ticks, or the number of buckets that have ended by one of them
and the number of ticks after it. So ticks at one instant close one bucket each until all that have
ended are closed. Each tick moves the bucket by one span at most and not past the clock, and prompt
ticks keep it at the one that contains their time. -/
theorem run_catches_up (nonempty : session.candles ≠ []) {times : List Int}
    (rising : (session.bucketStart :: times).IsChain (· ≤ ·)) :
    let span := session.config.duration
    let start := session.bucketStart
    IsLeast {bound | bound ∈ span.allowances start times} (rolls (session.run times).1 : Int) ∧
      (session.run times).2.rollovers = session.rollovers + rolls (session.run times).1 ∧
      (session.run times).2.bucketStart = start + rolls (session.run times).1 * span.ms ∧
      (∀ (count : Nat) (instant : Int), start ≤ instant →
        (rolls (session.run (List.replicate count instant)).1 : Int) =
          min (count : Int) (span.endedBy start instant)) ∧
      ∀ before now after, times = before ++ now :: after →
        let here := (session.run before).2
        let next := (here.tick now).2
        (next.bucketStart = here.bucketStart ∨ next.bucketStart = here.bucketEnd) ∧
          next.bucketStart ≤ now ∧ (session.Prompt times → now < next.bucketEnd) := by
  intro span start
  have live : session.tape.last? ≠ none := mt Tape.toList_eq_nil nonempty
  have caught := run_caughtUp live times rising
  refine ⟨caught.least, caught.rollovers_eq, caught.bucketStart_eq, ?_, ?_⟩
  · intro count instant later
    have level : (start :: List.replicate count instant).IsChain (· ≤ ·) := by
      cases count with
      | zero => exact .singleton start
      | succ count =>
        exact .cons_cons later (List.isChain_replicate_of_rel (count + 1) (Int.le_refl instant))
    exact (run_caughtUp live _ level).least.unique (Span.isLeast_allowances_replicate count later)
  · rintro before now after rfl here next
    have upTo : before ++ now :: after = (before ++ [now]) ++ after := by simp
    rw [upTo, ← List.cons_append] at rising
    have reached := run_caughtUp live _ (List.isChain_append.mp rising).1
    have ended : (session.run (before ++ [now])).2 = next := by
      rw [run_append]
      rfl
    refine ⟨here.tick_bucketStart now, ?_, ?_⟩
    · have punctual := reached.punctual
      rwa [ended, List.getLast?_concat] at punctual
    · intro prompt
      rw [upTo] at prompt
      have current := run_current live prompt.before now List.getLast?_concat
      rwa [ended] at current

def belated : Session Rat where
  config :=
    { symbol := "TEST"
      duration := ⟨30000, by decide⟩
      historyLength := 1
      interval := ⟨500, by decide⟩
      volatility := 0.002
      startPrice := none
      historyLength_pos := Nat.one_pos
      duration_seconds := by decide }
  noise := Noise.ofSeed 7
  lastPrice := 10
  bucketStart := 60000
  tape := .ofList [{ time := 60, opening := 10, high := 10, low := 10, closing := 10, volume := none }]
  ticks := 0
  rollovers := 0

theorem belated_catches_up :
    let times : List Int := [105000, 105000, 132500, 162500]
    belated.candles ≠ [] ∧ (belated.bucketStart :: times).IsChain (· ≤ ·) ∧
      belated.Prompt times ∧
      belated.config.duration.allowances belated.bucketStart times = [4, 4, 3, 3, 3] ∧
      rolls (belated.run times).1 = 3 ∧
      rolls (belated.run (List.replicate 5 155000)).1 = 3 ∧
      162500 < ((belated.run [105000, 105000, 132500]).2.tick 162500).2.bucketEnd := by
  intro times
  have nonempty : belated.candles ≠ [] := by simp [belated, candles]
  have rising : (belated.bucketStart :: times).IsChain (· ≤ ·) := by decide
  have prompt : belated.Prompt times := ⟨by decide, by decide⟩
  have allowances : belated.config.duration.allowances belated.bucketStart times =
      [4, 4, 3, 3, 3] := by decide
  obtain ⟨least, _, _, instant, each⟩ := run_catches_up nonempty rising
  rw [allowances] at least
  have three : (rolls (belated.run times).1 : Int) = 3 :=
    least.unique ⟨by decide, by simp [lowerBounds]⟩
  refine ⟨nonempty, rising, prompt, allowances, Int.natCast_inj.mp three, ?_, ?_⟩
  · have ended : belated.config.duration.endedBy belated.bucketStart 155000 = 3 := by decide
    have many := instant 5 155000 (by decide)
    rw [ended] at many
    exact Int.natCast_inj.mp many
  · exact (each [105000, 105000, 132500] 162500 [] rfl).2.2 prompt

end Session

end SyntheticMarket
