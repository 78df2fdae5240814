import SyntheticMarket.History
import SyntheticMarket.Proofs.Tape

/-! The course of a generated walk: one linked candle and four draws for each bucket, so a history
ends exactly in the bucket of the present. -/

namespace SyntheticMarket

theorem secondOf_add {span : Span} (whole : span.ms.fmod 1000 = 0) (moment : Int) :
    1000 * (secondOf (moment + span.ms) - secondOf moment) = span.ms := by
  simp only [secondOf, Int.fdiv_eq_ediv_of_nonneg _ (by decide : (0 : Int) ≤ 1000),
    Int.fmod_eq_emod_of_nonneg _ (by decide : (0 : Int) ≤ 1000)] at *
  omega

/-- A bucket of whole seconds starts at a whole second. -/
theorem secondOf_align {span : Span} (whole : span.ms.fmod 1000 = 0) (moment : Int) :
    1000 * secondOf (span.align moment) = span.align moment := by
  have seconds : (1000 : Int) ∣ span.ms := Int.dvd_of_fmod_eq_zero whole
  have started : (1000 : Int) ∣ span.align moment := Int.dvd_trans seconds (span.dvd_align moment)
  exact Int.mul_fdiv_cancel' started

namespace Walk

variable {α : Type} [PriceScale α] {span : Span} {start : Int} {walk : Walk α}

/-- A walk from `start` on: its buckets follow each other, and it stands at its newest close. -/
structure OnCourse (span : Span) (start : Int) (walk : Walk α) : Prop where
  bucketStart_eq : walk.bucketStart = start + walk.tape.size * span.ms
  linked : walk.tape.Linked span
  newest : ∀ last, walk.tape.last? = some last →
    last.time = secondOf (walk.bucketStart - span.ms) ∧ last.closing = walk.price

theorem step_eq (volatility : α) (span : Span) (walk : Walk α) :
    ∃ bar : Candle α, bar.time = secondOf walk.bucketStart ∧ bar.opening = walk.price ∧
      (step volatility span walk).tape = walk.tape.push bar ∧
      (step volatility span walk).price = bar.closing ∧
      (step volatility span walk).bucketStart = walk.bucketStart + span.ms ∧
      (step volatility span walk).noise.draws = walk.noise.draws + 4 :=
  ⟨(candle volatility (secondOf walk.bucketStart) walk.price walk.noise).1,
    rfl, rfl, rfl, rfl, rfl, rfl⟩

theorem toList_step (volatility : α) (span : Span) (walk : Walk α) :
    (step volatility span walk).tape.toList = walk.tape.toList ++
      [(candle volatility (secondOf walk.bucketStart) walk.price walk.noise).1] :=
  Tape.toList_push _ _

theorem OnCourse.step (course : walk.OnCourse span start) (whole : span.ms.fmod 1000 = 0)
    (volatility : α) : (Walk.step volatility span walk).OnCourse span start := by
  obtain ⟨bar, time, opening, tape, price, bucketStart, -⟩ := step_eq volatility span walk
  refine ⟨?_, ?_, ?_⟩
  · rw [bucketStart, tape, Tape.size_push, course.bucketStart_eq, Int.natCast_add, Int.add_mul,
      Int.natCast_one, Int.one_mul, Int.add_assoc]
  · rw [tape]
    apply course.linked.push
    intro last live
    obtain ⟨lastTime, lastClose⟩ := course.newest last live
    refine ⟨?_, by rw [opening, lastClose]⟩
    have spaced := secondOf_add whole (walk.bucketStart - span.ms)
    rwa [Int.sub_add_cancel, ← time, ← lastTime] at spaced
  · intro last live
    obtain rfl : bar = last := by simpa [tape] using live
    exact ⟨by rw [bucketStart, Int.add_sub_cancel, time], price.symm⟩

theorem OnCourse.extend (course : walk.OnCourse span start) (whole : span.ms.fmod 1000 = 0)
    (volatility : α) (count : Nat) :
    (Walk.extend volatility span count walk).OnCourse span start := by
  induction count generalizing walk with
  | zero => exact course
  | succ count ih => exact ih (course.step whole volatility)

/-- Buckets follow each other from the one that a walk stands at. -/
theorem times_extend (volatility : α) (span : Span) (count : Nat) (walk : Walk α) :
    (extend volatility span count walk).tape.toList.map Candle.time =
      walk.tape.toList.map Candle.time ++ (List.range count).map fun index : Nat =>
        secondOf (walk.bucketStart + index * span.ms) := by
  induction count generalizing walk with
  | zero => simp [extend]
  | succ count ih =>
    have start : (step volatility span walk).bucketStart = walk.bucketStart + span.ms := rfl
    have next (index : Nat) : walk.bucketStart + span.ms + index * span.ms =
        walk.bucketStart + (index + 1 : Nat) * span.ms := by
      rw [Int.natCast_add, Int.add_mul]
      omega
    have first : (candle volatility (secondOf walk.bucketStart) walk.price walk.noise).1.time =
        secondOf (walk.bucketStart + (0 : Nat) * span.ms) := by
      rw [Int.natCast_zero, Int.zero_mul, Int.add_zero]
      rfl
    rw [extend, ih, toList_step, List.map_append, List.append_assoc, List.range_succ_eq_map]
    simp only [start, next, List.map_cons, List.map_nil, List.map_map, first]
    rfl

/-- What every candle of a bucket has, be it entered at whatever price, every candle of a walk has. -/
theorem forall_mem_extend {volatility : α} {holds : Candle α → Prop}
    (entered : ∀ time opening noise, holds (candle volatility time opening noise).1)
    (past : ∀ bar ∈ walk.tape.toList, holds bar) (span : Span) (count : Nat) :
    ∀ bar ∈ (extend volatility span count walk).tape.toList, holds bar := by
  induction count generalizing walk with
  | zero => exact past
  | succ count ih =>
    apply ih
    intro bar member
    rw [toList_step] at member
    rcases List.mem_append.mp member with old | new
    · exact past bar old
    · obtain rfl := List.mem_singleton.mp new
      exact entered _ _ _

theorem size_extend (volatility : α) (span : Span) (count : Nat) (walk : Walk α) :
    (extend volatility span count walk).tape.size = walk.tape.size + count := by
  induction count generalizing walk with
  | zero => rfl
  | succ count ih =>
    obtain ⟨bar, -, -, tape, -⟩ := step_eq volatility span walk
    rw [extend, ih, tape, Tape.size_push]
    omega

theorem bucketStart_extend (volatility : α) (span : Span) (count : Nat) (walk : Walk α) :
    (extend volatility span count walk).bucketStart = walk.bucketStart + count * span.ms := by
  induction count generalizing walk with
  | zero => rw [extend, Int.natCast_zero, Int.zero_mul, Int.add_zero]
  | succ count ih =>
    have next : (step volatility span walk).bucketStart = walk.bucketStart + span.ms := rfl
    rw [extend, ih, next, Int.natCast_add, Int.add_mul]
    omega

theorem draws_extend (volatility : α) (span : Span) (count : Nat) (walk : Walk α) :
    (extend volatility span count walk).noise.draws = walk.noise.draws + 4 * count := by
  induction count generalizing walk with
  | zero => rfl
  | succ count ih =>
    obtain ⟨bar, -, -, -, -, -, draws⟩ := step_eq volatility span walk
    rw [extend, ih, draws]
    omega

theorem draws_basePrice (noise : Noise) (startPrice : Option α) :
    (basePrice noise startPrice).2.draws =
      noise.draws + if startPrice.isSome then 0 else 1 := by
  cases startPrice <;> rfl

theorem size_history (noise : Noise) (now : Int) (span : Span) (count : Nat) (volatility : α)
    (startPrice : Option α) :
    (history noise now span count volatility startPrice).tape.size = count := by
  rw [history, size_extend, Tape.size_empty, Nat.zero_add]

theorem draws_history (noise : Noise) (now : Int) (span : Span) (count : Nat) (volatility : α)
    (startPrice : Option α) :
    (history noise now span count volatility startPrice).noise.draws =
      noise.draws + (if startPrice.isSome then 0 else 1) + 4 * count := by
  rw [history, draws_extend, draws_basePrice]

/-- The bucket after a history is the one after the bucket of the present. -/
theorem history_onCourse (noise : Noise) (now : Int) (span : Span)
    (whole : span.ms.fmod 1000 = 0) (count : Nat) (volatility : α) (startPrice : Option α) :
    (history noise now span count volatility startPrice).OnCourse span
      (span.align now - ((count : Int) - 1) * span.ms) := by
  apply OnCourse.extend _ whole
  exact ⟨by simp, Tape.linked_empty, by simp⟩

theorem bucketStart_history (noise : Noise) (now : Int) (span : Span) (count : Nat) (volatility : α)
    (startPrice : Option α) :
    (history noise now span count volatility startPrice).bucketStart = span.align now + span.ms := by
  have reached : (history noise now span count volatility startPrice).bucketStart =
      span.align now - ((count : Int) - 1) * span.ms + count * span.ms :=
    bucketStart_extend volatility span count _
  rw [reached, Int.sub_mul]
  omega

end Walk

end SyntheticMarket
