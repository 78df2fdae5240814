/-! A text cut at a mark. -/

namespace SyntheticMarket.Text

/-- The pieces between the marks, one more than there are marks. -/
def pieces (mark : Char) : List Char → List (List Char)
  | [] => [[]]
  | letter :: rest =>
    if letter = mark then [] :: pieces mark rest
    else
      match pieces mark rest with
      | [] => [[letter]]
      | piece :: others => (letter :: piece) :: others

theorem pieces_of_not_mem {mark : Char} {letters : List Char} (free : mark ∉ letters) :
    pieces mark letters = [letters] := by
  induction letters with
  | nil => rfl
  | cons letter rest ih =>
    have other : letter ≠ mark := (List.ne_of_not_mem_cons free).symm
    rw [pieces, if_neg other, ih (List.not_mem_of_not_mem_cons free)]

theorem pieces_append {mark : Char} {piece : List Char} (free : mark ∉ piece)
    (rest : List Char) : pieces mark (piece ++ mark :: rest) = piece :: pieces mark rest := by
  induction piece with
  | nil => simp [pieces]
  | cons letter others ih =>
    have other : letter ≠ mark := (List.ne_of_not_mem_cons free).symm
    rw [List.cons_append, pieces, if_neg other, ih (List.not_mem_of_not_mem_cons free)]

theorem pieces_intercalate {mark : Char} {parts : List (List Char)} (nonempty : parts ≠ [])
    (free : ∀ part ∈ parts, mark ∉ part) : pieces mark ([mark].intercalate parts) = parts := by
  induction parts with
  | nil => exact absurd rfl nonempty
  | cons first others ih =>
    obtain ⟨here, there⟩ := List.forall_mem_cons.mp free
    cases others with
    | nil => rw [List.intercalate_singleton, pieces_of_not_mem here]
    | cons second rest =>
      rw [List.intercalate_cons_cons, List.append_assoc, List.singleton_append,
        pieces_append here, ih (List.cons_ne_nil second rest) there]

end SyntheticMarket.Text
