import SyntheticMarket.Proofs.Noise
import SyntheticMarket.Proofs.Session.Timetable

/-! What a summary is good for. The counter of a noise source is fixed by its seed and by how many
words were drawn from it, and buckets start at whole seconds; so a summary says all that the next
ticks depend on, whatever lies behind them. -/

namespace SyntheticMarket

namespace Walk

variable {α : Type} [PriceScale α] {noise : Noise} {walk : Walk α}

theorem step_isDrawn (drawn : walk.noise.IsDrawn) (volatility : α) (span : Span) :
    (step volatility span walk).noise.IsDrawn :=
  drawn.next.next.next.next

theorem extend_isDrawn (drawn : walk.noise.IsDrawn) (volatility : α) (span : Span) (count : Nat) :
    (extend volatility span count walk).noise.IsDrawn := by
  induction count generalizing walk with
  | zero => exact drawn
  | succ count ih => exact ih (step_isDrawn drawn volatility span)

theorem history_isDrawn (drawn : noise.IsDrawn) (now : Int) (span : Span) (count : Nat)
    (volatility : α) (startPrice : Option α) :
    (history noise now span count volatility startPrice).noise.IsDrawn := by
  refine extend_isDrawn ?_ volatility span count
  cases startPrice with
  | none => exact drawn.next
  | some price => exact drawn

end Walk

/-- Two summaries that cannot be told apart by what the next ticks depend on. -/
structure SessionSummary.Agree {α : Type} (one other : SessionSummary α) : Prop where
  seed : one.seed = other.seed
  draws : one.draws % UInt32.size = other.draws % UInt32.size
  lastPrice : one.lastPrice = other.lastPrice
  bucketStart : one.bucketStart = other.bucketStart
  live : one.live = other.live

namespace Session

variable {α : Type} [PriceScale α] {session left right : Session α}

/-- The noise was drawn from its seed on, and the bucket starts at a whole second. -/
structure Told (session : Session α) : Prop where
  drawn : session.noise.IsDrawn
  whole : 1000 * secondOf session.bucketStart = session.bucketStart

theorem reset_told (config : Config α) (now : Int) : (reset config now).Told where
  drawn := Walk.history_isDrawn (Noise.ofSeed_isDrawn _) now _ _ _ _
  whole := secondOf_align config.duration_seconds now

theorem Told.tick (told : session.Told) (now : Int) : (session.tick now).2.Told := by
  have ended : 1000 * secondOf session.bucketEnd = session.bucketEnd := by
    have spaced := secondOf_add session.config.duration_seconds session.bucketStart
    have whole := told.whole
    rw [bucketEnd_eq]
    omega
  obtain ⟨_, ticked⟩ | ⟨_, _, _, ticked⟩ | ⟨_, _, _, ticked⟩ := session.tick_cases now <;>
    rw [ticked]
  · exact ⟨told.drawn.next, told.whole⟩
  · exact ⟨told.drawn.next.next, told.whole⟩
  · exact ⟨told.drawn.next.next, ended⟩

theorem Told.run (told : session.Told) (times : List Int) : (session.run times).2.Told :=
  run_preserves Told (fun _ now told => told.tick now) told times

/-- Both sessions are about to do the same, whatever they did before. -/
structure Poised (left right : Session α) : Prop where
  config : left.config = right.config
  counter : left.noise.state = right.noise.state
  lastPrice : left.lastPrice = right.lastPrice
  bucketStart : left.bucketStart = right.bucketStart
  live : left.tape.last? = right.tape.last?

omit [PriceScale α] in
theorem Told.poised (leftTold : left.Told) (rightTold : right.Told)
    (config : left.config = right.config) (agree : left.summary.Agree right.summary) :
    Poised left right where
  config := config
  counter := leftTold.drawn.state_eq rightTold.drawn agree.seed agree.draws
  lastPrice := agree.lastPrice
  bucketStart := by
    rw [← leftTold.whole, ← rightTold.whole]
    exact congrArg (1000 * ·) agree.bucketStart
  live := agree.live

omit [PriceScale α] in
theorem Poised.bucketEnd (poised : Poised left right) : left.bucketEnd = right.bucketEnd := by
  rw [bucketEnd_eq, bucketEnd_eq, poised.config, poised.bucketStart]

/-- The live candle and the end of its bucket decide which of its cases a tick takes. -/
theorem Poised.tick_cases (poised : Poised left right) (now : Int) :
    (left.tick now = left.moved.openFirst ∧ right.tick now = right.moved.openFirst) ∨
    (∃ last, left.tick now = left.moved.updateLive last ∧
      right.tick now = right.moved.updateLive last) ∨
    (∃ last, left.tick now = left.moved.rollOver last ∧
      right.tick now = right.moved.rollOver last) := by
  have live := poised.live
  have ended := poised.bucketEnd
  obtain ⟨empty, ticked⟩ | ⟨last, held, early, ticked⟩ | ⟨last, held, late, ticked⟩ :=
    left.tick_cases now
  · exact .inl ⟨ticked, tick_of_empty (live ▸ empty)⟩
  · exact .inr (.inl ⟨last, ticked, tick_of_early (live ▸ held) (ended ▸ early)⟩)
  · exact .inr (.inr ⟨last, ticked, tick_of_late (live ▸ held) (ended ▸ late)⟩)

theorem Poised.tick (poised : Poised left right) (now : Int) :
    (left.tick now).1 = (right.tick now).1 ∧ Poised (left.tick now).2 (right.tick now).2 := by
  have alike := poised.tick_cases now
  obtain ⟨config, ⟨_, state, _⟩, price, start, _, _, _⟩ := left
  obtain ⟨_, ⟨_, _, _⟩, _, _, _, _, _⟩ := right
  obtain ⟨rfl, rfl, rfl, rfl, _⟩ := poised
  obtain ⟨one, other⟩ | ⟨last, one, other⟩ | ⟨last, one, other⟩ := alike <;>
    rw [one, other] <;> exact ⟨rfl, rfl, rfl, rfl, rfl, rfl⟩

theorem Poised.run (poised : Poised left right) (times : List Int) :
    (left.run times).1 = (right.run times).1 := by
  induction times generalizing left right with
  | nil => rfl
  | cons now later ih =>
    obtain ⟨same, next⟩ := poised.tick now
    rw [run_cons, run_cons, same, ih next]

/-- Two simulations of one configuration, reset whenever and ticked however often and at whatever
times: once their summaries agree, they make the same updates at all ticks to come. -/
theorem summary_suffices (config : Config α) (now now' : Int) (past past' : List Int)
    (agree : ((reset config now).run past).2.summary.Agree
      ((reset config now').run past').2.summary) (times : List Int) :
    (((reset config now).run past).2.run times).1 =
      (((reset config now').run past').2.run times).1 := by
  refine Poised.run (Told.poised ?_ ?_ ?_ agree) times
  · exact (reset_told config now).run past
  · exact (reset_told config now').run past'
  · rw [run_config, run_config]
    rfl

def flat : Config Float where
  symbol := "TMW/USDT"
  duration := ⟨3000, by decide⟩
  historyLength := 1
  interval := ⟨300, by decide⟩
  volatility := 0.0
  startPrice := some 1.0
  historyLength_pos := Nat.one_pos
  duration_seconds := by decide

/-- One clock reading for each mark: after all buckets of a session for a bar, before them for any
other mark. -/
def readings (marks : String) : List Int :=
  marks.toList.map fun mark => if mark = '|' then 1800000000000 else 0

/-- Of two sessions of the flat market one was reset a bucket later and rolled over once less. At
twenty ticks they gathered the same volume, to the last bit, and from there on they go together. -/
theorem flat_summary_suffices :
    let one := ((reset flat 1700000003000).run (readings "|||....|.....|.|||..")).2
    let other := ((reset flat 1700000000000).run (readings "|..|.|..||...|..||.|")).2
    one.summary.Agree other.summary ∧ one.rollovers = 8 ∧ other.rollovers = 9 ∧
      ∀ times, (one.run times).1 = (other.run times).1 := by
  intro one other
  obtain ⟨same, rolled⟩ : one.summary = { other.summary with candles := 9, rollovers := 8 } ∧
      other.rollovers = 9 := by decide +kernel
  have agree : one.summary.Agree other.summary := by
    constructor <;> rw [same]
  exact ⟨agree, congrArg (·.rollovers) same, rolled, summary_suffices flat _ _ _ _ agree⟩

end Session

end SyntheticMarket
