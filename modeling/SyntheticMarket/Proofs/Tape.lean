import Mathlib.Data.List.Chain
import Mathlib.Data.List.Nodup
import SyntheticMarket.Candle
import SyntheticMarket.Span

/-! Tapes without gaps. On a linked tape each candle starts one span after the candle before it and
opens at the close of that candle; pushing a successor and repainting the newest candle keep it
linked. -/

namespace SyntheticMarket

variable {α : Type} {span : Span}

/-- The candle starts one span after the earlier one, at the very price that one closed at. -/
structure Candle.Succeeds (span : Span) (later earlier : Candle α) : Prop where
  time_eq : 1000 * (later.time - earlier.time) = span.ms
  opening_eq : later.opening = earlier.closing

theorem Candle.Succeeds.time_lt {later earlier : Candle α} (next : later.Succeeds span earlier) :
    earlier.time < later.time := by
  have spaced := next.time_eq
  have wide := span.positive
  omega

namespace Tape

variable {tape : Tape α} {last bar : Candle α}

/-- Every two neighbours on the tape are a candle and its successor. -/
def Linked (span : Span) (tape : Tape α) : Prop :=
  tape.toList.IsChain fun earlier later => later.Succeeds span earlier

@[simp] theorem size_empty : (empty : Tape α).size = 0 := rfl

@[simp] theorem size_push (tape : Tape α) (bar : Candle α) :
    (tape.push bar).size = tape.size + 1 := rfl

theorem size_replaceLast (live : tape.last? = some last) (bar : Candle α) :
    (tape.replaceLast bar).size = tape.size := by
  obtain ⟨newestFirst⟩ := tape
  cases newestFirst with
  | nil => cases live
  | cons newest older => rfl

@[simp] theorem last?_empty : (empty : Tape α).last? = none := rfl

@[simp] theorem last?_push (tape : Tape α) (bar : Candle α) :
    (tape.push bar).last? = some bar := rfl

@[simp] theorem last?_replaceLast (tape : Tape α) (bar : Candle α) :
    (tape.replaceLast bar).last? = some bar := rfl

theorem eq_of_last? (live : tape.last? = some last) :
    ∃ older, tape.toList = older ++ [last] := by
  obtain ⟨older, same⟩ := List.getLast?_eq_some_iff.mp (by rw [← last?_eq]; exact live)
  exact ⟨older, same⟩

theorem toList_eq_nil (empty : tape.last? = none) : tape.toList = [] := by
  rw [last?_eq] at empty
  exact List.getLast?_eq_none_iff.mp empty

theorem linked_empty : (empty : Tape α).Linked span := .nil

theorem Linked.push (linked : tape.Linked span)
    (next : ∀ last, tape.last? = some last → bar.Succeeds span last) :
    (tape.push bar).Linked span := by
  rw [Linked, toList_push]
  refine List.isChain_append.mpr ⟨linked, .singleton _, ?_⟩
  intro earlier newest later only
  rw [← last?_eq] at newest
  obtain rfl : bar = later := by simpa using only
  exact next earlier newest

/-- A new version of the newest candle with the same time and opening fits in its place. -/
theorem Linked.replaceLast (linked : tape.Linked span) (live : tape.last? = some last)
    (time : bar.time = last.time) (opening : bar.opening = last.opening) :
    (tape.replaceLast bar).Linked span := by
  obtain ⟨older, same⟩ := eq_of_last? live
  rw [Linked, same] at linked
  obtain ⟨settled, -, joined⟩ := List.isChain_append.mp linked
  rw [Linked, toList_replaceLast, same, List.dropLast_concat]
  refine List.isChain_append.mpr ⟨settled, .singleton _, ?_⟩
  intro earlier newest later only
  obtain rfl : bar = later := by simpa using only
  have before := joined earlier newest last (by simp)
  exact ⟨by rw [time]; exact before.time_eq, by rw [opening]; exact before.opening_eq⟩

/-- The times of a linked tape strictly ascend. -/
theorem Linked.ascending (linked : tape.Linked span) :
    (tape.toList.map Candle.time).Pairwise (· < ·) := by
  have rising : (tape.toList.map Candle.time).IsChain (· < ·) :=
    (List.isChain_map _).mpr (linked.imp fun _ _ next => next.time_lt)
  exact rising.pairwise

end Tape

end SyntheticMarket
