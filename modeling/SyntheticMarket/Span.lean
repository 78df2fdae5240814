import SyntheticMarket.Fault

/-! Buckets of fixed width on the time line. A moment is a whole number of milliseconds of any
sign and size; a bucket of a span starts at a multiple of it. -/

namespace SyntheticMarket

/-- A width of time, in milliseconds. -/
structure Span where
  ms : Int
  positive : 0 < ms
deriving DecidableEq

namespace Span

def ofMs? (ms : Int) : Option Span := if positive : 0 < ms then some ⟨ms, positive⟩ else none

/-- The span of a bucket, or the refusal of a width that is not positive. -/
def ofBucketMs {α : Type} (ms : Int) : Except (Misfit α) Span :=
  match ofMs? ms with
  | some span => .ok span
  | none => .error (.bucketNotPositive ms)

theorem ofBucketMs_ms {α : Type} (span : Span) :
    (ofBucketMs span.ms : Except (Misfit α) Span) = .ok span := by
  rw [ofBucketMs, ofMs?, dif_pos span.positive]

theorem ofBucketMs_of_nonpos {α : Type} {ms : Int} (nonpos : ms ≤ 0) :
    (ofBucketMs ms : Except (Misfit α) Span) = .error (.bucketNotPositive ms) := by
  rw [ofBucketMs, ofMs?, dif_neg (Int.not_lt.mpr nonpos)]

def align (span : Span) (moment : Int) : Int := moment - moment.fmod span.ms

theorem align_le (span : Span) (moment : Int) : span.align moment ≤ moment := by
  have := Int.fmod_nonneg_of_pos moment span.positive
  unfold align
  omega

theorem lt_align_add (span : Span) (moment : Int) : moment < span.align moment + span.ms := by
  have := Int.fmod_lt_of_pos moment span.positive
  unfold align
  omega

theorem dvd_align (span : Span) (moment : Int) : span.ms ∣ span.align moment := by
  refine ⟨moment.fdiv span.ms, ?_⟩
  have := Int.mul_fdiv_add_fmod moment span.ms
  unfold align
  omega

/-- How many buckets start within the two moments, both included. The first start is the one at or
after `first`, the last one the one at or before `last`. -/
def startsWithin (span : Span) (first last : Int) : Int :=
  let lastStart := span.align last
  let below := span.align first
  let firstStart := if below < first then below + span.ms else below
  if lastStart < firstStart then 0 else (lastStart - firstStart).fdiv span.ms + 1

end Span

def secondOf (moment : Int) : Int := moment.fdiv 1000

end SyntheticMarket
