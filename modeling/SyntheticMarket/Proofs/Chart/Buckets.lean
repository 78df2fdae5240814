import SyntheticMarket.Chart
import SyntheticMarket.Proofs.Chart.Multiples

/-! Counting buckets. The buckets of a width are numbered along the time line, with zero at the epoch
and negative numbers before it. How many start between two seconds is the number of their numbers,
also where a width is no whole number of seconds. -/

namespace SyntheticMarket

/-- The numbers of the buckets that start within two moments, both included. A bucket starts at its
number times the width. -/
def bucketNumbers (width first last : Int) : Set Int :=
  {number | first ≤ number * width ∧ number * width ≤ last}

variable {width first last : Int}

theorem starts_bucketNumbers (width first last : Int) :
    (· * width) '' bucketNumbers width first last =
      {moment | moment ∈ multiples width first last} := by
  ext moment
  rw [Set.mem_image, Set.mem_ofPred_eq, mem_multiples]
  constructor
  · rintro ⟨number, ⟨above, below⟩, rfl⟩
    exact ⟨Int.dvd_mul_left number width, above, below⟩
  · rintro ⟨⟨number, rfl⟩, above, below⟩
    rw [Int.mul_comm] at above below ⊢
    exact ⟨number, ⟨above, below⟩, rfl⟩

/-- No two buckets start together, so there are as many as multiples of the width. -/
theorem encard_bucketNumbers (positive : 0 < width) (first last : Int) :
    (bucketNumbers width first last).encard = (multiples width first last).length := by
  have apart : Function.Injective (· * width) := mul_left_injective₀ (Int.ne_of_gt positive)
  have distinct : (multiples width first last).Nodup := (multiples_sorted width first last).nodup
  rw [← apart.encard_image, starts_bucketNumbers, ← List.coe_toFinset,
    Set.encard_coe_eq_coe_finsetCard, List.toFinset_card_of_nodup distinct]

theorem bucketNumbers_of_inverted (inverted : last < first) :
    bucketNumbers width first last = ∅ := by
  apply Set.eq_empty_of_forall_notMem
  rintro number ⟨above, below⟩
  omega

namespace Chart

variable {α : Type}

theorem bucketCount_ms (span : Span) (first last : Int) :
    bucketCount (α := α) first last span.ms =
      .ok (multiples span.ms (first * 1000) (last * 1000)).length := by
  rw [bucketCount, Span.ofBucketMs_ms, Except.map, Span.startsWithin_eq]

/-- For every positive width the count that is told is that of the buckets that start between the two
seconds, and so none for an inverted range. Any other width is refused. -/
theorem bucketCount_exact (first last durationMs : Int) :
    (0 < durationMs → ∃ count : Nat,
        bucketCount (α := α) first last durationMs = .ok (count : Int) ∧
          (bucketNumbers durationMs (first * 1000) (last * 1000)).encard = count ∧
          (last < first → count = 0)) ∧
      (durationMs ≤ 0 →
        bucketCount (α := α) first last durationMs = .error (.bucketNotPositive durationMs)) := by
  constructor
  · intro positive
    have counted := encard_bucketNumbers positive (first * 1000) (last * 1000)
    refine ⟨_, bucketCount_ms ⟨durationMs, positive⟩ first last, counted, ?_⟩
    intro inverted
    have empty : bucketNumbers durationMs (first * 1000) (last * 1000) = ∅ :=
      bucketNumbers_of_inverted (by omega)
    rw [empty, Set.encard_empty] at counted
    exact_mod_cast counted.symm
  · intro nonpos
    rw [bucketCount, Span.ofBucketMs_of_nonpos nonpos]
    rfl

/-- Four buckets of a second and a half start from two seconds before the epoch to three after it,
the last one just at the end; none start in the inverted range, and a width below zero is refused. -/
theorem uneven_buckets :
    (0 : Int) < 1500 ∧ bucketCount (α := Float) (-2) 3 1500 = .ok 4 ∧
      (bucketNumbers 1500 (-2 * 1000) (3 * 1000)).encard = (4 : Nat) ∧
      (-2 : Int) < 3 ∧ bucketCount (α := Float) 3 (-2) 1500 = .ok 0 ∧
      (-1500 : Int) ≤ 0 ∧
      bucketCount (α := Float) (-2) 3 (-1500) = .error (.bucketNotPositive (-1500)) := by
  have positive : (0 : Int) < 1500 := by decide
  have inverted : (-2 : Int) < 3 := by decide
  have nonpos : (-1500 : Int) ≤ 0 := by decide
  have four : bucketCount (α := Float) (-2) 3 1500 = .ok 4 := rfl
  obtain ⟨count, told, counted, _⟩ := (bucketCount_exact (α := Float) (-2) 3 1500).1 positive
  obtain ⟨other, told', _, nothing⟩ := (bucketCount_exact (α := Float) 3 (-2) 1500).1 positive
  have same : count = 4 := by
    rw [four] at told
    have whole : (4 : Int) = count := Except.ok.inj told
    omega
  rw [same] at counted
  rw [nothing inverted] at told'
  exact ⟨positive, four, counted, inverted, told', nonpos,
    (bucketCount_exact (-2) 3 (-1500)).2 nonpos⟩

end Chart

end SyntheticMarket
