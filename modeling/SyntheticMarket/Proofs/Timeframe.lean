import Mathlib
import SyntheticMarket.Config

/-! Labels of widths in whole seconds. A label is a count followed by the letter of a unit, and the
width is that many units, so no two widths share a label and no label holds a comma or a blank. -/

namespace SyntheticMarket

/-- A width that candles may have: a positive number of whole seconds. -/
structure Width where
  ms : Int
  positive : 0 < ms
  seconds : ms.fmod 1000 = 0

def Config.width {α : Type} (config : Config α) : Width :=
  { ms := config.duration.ms
    positive := config.duration.positive
    seconds := config.duration_seconds }

namespace Timeframe

/-- The letters that a label may end in, each with the unit that it stands for. -/
def scale : List (Char × Int) :=
  [('W', 604800000), ('D', 86400000), ('h', 3600000), ('m', 60000), ('s', 1000)]

/-- The width is a count of the letter's units, and these are what its label tells. -/
structure Told (ms : Int) (count : Nat) (letter : Char) (unit : Int) : Prop where
  listed : (letter, unit) ∈ scale
  ms_eq : ms = count * unit
  label_eq : (label ms).toList = count.repr.toList ++ [letter]

variable {width other : Width}

/-- The units that are tried, and after them the seconds, are those of the letters. -/
theorem units_append :
    units ++ [(1000, "s")] = scale.map fun entry => (entry.2, String.singleton entry.1) := rfl

theorem told_of_unit {ms unit : Int} {letter : Char} (listed : (letter, unit) ∈ scale)
    (wide : 0 < ms) (whole : ms.fmod unit = 0)
    (spelled : label ms = toString (ms.fdiv unit) ++ String.singleton letter) :
    ∃ count, Told ms count letter unit := by
  have positive : ∀ entry ∈ scale, 0 < entry.2 := by decide
  obtain ⟨count, counted⟩ := Int.eq_ofNat_of_zero_le
    (Int.fdiv_nonneg (Int.le_of_lt wide) (Int.le_of_lt (positive _ listed)))
  have parts := Int.mul_fdiv_add_fmod ms unit
  rw [counted, whole, Int.add_zero, Int.mul_comm] at parts
  refine ⟨count, listed, parts.symm, ?_⟩
  rw [spelled, counted, String.toList_append, String.toList_singleton]
  rfl

theorem exists_told (width : Width) : ∃ count letter unit, Told width.ms count letter unit := by
  cases found : units.find? fun unit => width.ms.fmod unit.1 == 0 with
  | some entry =>
    have among : entry ∈ units ++ [(1000, "s")] :=
      List.mem_append_left _ (List.mem_of_find?_eq_some found)
    rw [units_append] at among
    obtain ⟨⟨letter, unit⟩, listed, rfl⟩ := List.mem_map.mp among
    have divides : width.ms.fmod unit = 0 := by simpa using List.find?_some found
    obtain ⟨count, told⟩ := told_of_unit listed width.positive divides (by rw [label, found])
    exact ⟨count, letter, unit, told⟩
  | none =>
    have seconds : ('s', 1000) ∈ scale := by decide
    obtain ⟨count, told⟩ :=
      told_of_unit seconds width.positive width.seconds (by rw [label, found]; rfl)
    exact ⟨count, 's', 1000, told⟩

/-- Different widths have different labels. -/
theorem label_inj : label width.ms = label other.ms ↔ width = other := by
  have lettered : ∀ entry ∈ scale, ∀ entry' ∈ scale, entry.1 = entry'.1 → entry.2 = entry'.2 := by
    decide
  constructor
  · intro same
    obtain ⟨count, letter, unit, told⟩ := exists_told width
    obtain ⟨count', letter', unit', told'⟩ := exists_told other
    have letters : count.repr.toList ++ [letter] = count'.repr.toList ++ [letter'] := by
      rw [← told.label_eq, ← told'.label_eq, same]
    obtain ⟨digits, ending⟩ := List.append_inj' letters rfl
    have counts : count = count' := Nat.repr_inj.mp (String.toList_inj.mp digits)
    have units : unit = unit' :=
      lettered _ told.listed _ told'.listed (List.singleton_inj.mp ending)
    have equal : width.ms = other.ms := by rw [told.ms_eq, told'.ms_eq, counts, units]
    cases width
    cases other
    cases equal
    rfl
  · rintro rfl
    rfl

/-- A label consists of letters that are neither a comma nor a blank. -/
theorem label_plain (width : Width) :
    ∀ letter ∈ (label width.ms).toList, letter ≠ ',' ∧ Text.isBlank letter = false := by
  have endings : ∀ entry ∈ scale, entry.1 ≠ ',' ∧ Text.isBlank entry.1 = false := by decide
  obtain ⟨count, ending, unit, told⟩ := exists_told width
  intro letter member
  rw [told.label_eq, Nat.toList_repr] at member
  obtain digit | last := List.mem_append.mp member
  · have range := Char.isDigit_iff_toNat.mp
      (Nat.isDigit_of_mem_toDigits (by decide) (by decide) digit)
    constructor
    · rintro rfl
      exact absurd range (by decide)
    · have low : 48 ≤ letter.toNat := range.1
      have high : letter.toNat ≤ 57 := range.2
      simp [Text.isBlank, Text.isSpace]
      omega
  · rw [List.mem_singleton.mp last]
    exact endings _ told.listed

theorem label_ne_empty (width : Width) : label width.ms ≠ "" := by
  obtain ⟨count, letter, unit, told⟩ := exists_told width
  intro empty
  have letters := told.label_eq
  rw [empty] at letters
  exact List.append_ne_nil_of_right_ne_nil _ (List.cons_ne_nil letter []) letters.symm

end Timeframe

end SyntheticMarket
