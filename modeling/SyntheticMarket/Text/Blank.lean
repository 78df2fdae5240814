/-! White space at the ends of a text. Two sets are in use: the Unicode white space characters, and
these together with the four information separators. -/

namespace SyntheticMarket.Text

/-- The characters with the Unicode property White_Space. -/
def isSpace (letter : Char) : Bool :=
  let code := letter.toNat
  (9 ≤ code && code ≤ 13) || code == 0x20 || code == 0x85 || code == 0xA0 || code == 0x1680 ||
    (0x2000 ≤ code && code ≤ 0x200A) || code == 0x2028 || code == 0x2029 || code == 0x202F ||
    code == 0x205F || code == 0x3000

/-- White space or one of the information separators U+001C to U+001F. -/
def isBlank (letter : Char) : Bool :=
  isSpace letter || (0x1C ≤ letter.toNat && letter.toNat ≤ 0x1F)

def trimLetters (inClass : Char → Bool) (letters : List Char) : List Char :=
  ((letters.dropWhile inClass).reverse.dropWhile inClass).reverse

def strip (text : String) : String := String.ofList (trimLetters isBlank text.toList)

/-- What stands between letters of the class, and holds none of them, is what is left of a text. -/
theorem trimLetters_append {inClass : Char → Bool} {before core after : List Char}
    (leading : ∀ letter ∈ before, inClass letter = true)
    (trailing : ∀ letter ∈ after, inClass letter = true)
    (plain : ∀ letter ∈ core, inClass letter = false) :
    trimLetters inClass (before ++ (core ++ after)) = core := by
  have kept (letters : List Char) (sound : ∀ letter ∈ letters, inClass letter = false) :
      letters.dropWhile inClass = letters := by
    cases letters with
    | nil => rfl
    | cons first others =>
      exact List.dropWhile_cons_of_neg (Bool.eq_false_iff.mp (sound first List.mem_cons_self))
  have backwards : (after.reverse ++ core.reverse).dropWhile inClass = core.reverse := by
    rw [List.dropWhile_append_of_pos fun letter member =>
      trailing letter (List.mem_reverse.mp member)]
    exact kept _ fun letter member => plain letter (List.mem_reverse.mp member)
  rw [trimLetters, List.dropWhile_append_of_pos leading]
  cases core with
  | nil =>
    have nothing : (after ++ []).dropWhile inClass = [] := List.dropWhile_append_of_pos trailing
    rw [List.append_nil] at nothing
    rw [List.nil_append, nothing]
    rfl
  | cons first others =>
    have sound := plain first List.mem_cons_self
    rw [List.cons_append, List.dropWhile_cons_of_neg (Bool.eq_false_iff.mp sound),
      ← List.cons_append, List.reverse_append, backwards, List.reverse_reverse]

theorem trimLetters_infix (inClass : Char → Bool) (letters : List Char) :
    trimLetters inClass letters <:+: letters := by
  have front := List.dropWhile_suffix inClass (l := letters)
  have back := List.dropWhile_suffix inClass (l := (letters.dropWhile inClass).reverse)
  rw [← List.reverse_prefix, List.reverse_reverse] at back
  exact back.isInfix.trans front.isInfix

theorem strip_infix (text : String) : (strip text).toList <:+: text.toList := by
  rw [strip, String.toList_ofList]
  exact trimLetters_infix isBlank text.toList

end SyntheticMarket.Text
