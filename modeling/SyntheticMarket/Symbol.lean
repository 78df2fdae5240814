/-! Symbols and their seeds. A symbol is any text; its hash folds the code points one by one, so
every character and its place contribute. Texts hold no lone surrogates. -/

namespace SyntheticMarket.Symbol

/-- The symbol that stands in for an empty one. -/
def fallback : String := "SYMBOL"

def normal (symbol : String) : String := if symbol.isEmpty then fallback else symbol

theorem normal_ne_empty (symbol : String) : normal symbol ≠ "" := by
  unfold normal
  split
  · decide
  · rename_i present
    intro empty
    exact present (by simp [empty])

@[simp] theorem normal_normal (symbol : String) : normal (normal symbol) = normal symbol :=
  if_neg (mt String.isEmpty_iff.mp (normal_ne_empty symbol))

def absorb (hash : UInt32) (letter : Char) : UInt32 := (hash ^^^ letter.val) * 16777619

/-- The 32-bit hash of a text. A lone surrogate, which no text holds, would be absorbed by its number
like any other code point. -/
def hash (symbol : String) : UInt32 := symbol.toList.foldl absorb 2166136261

def seed (symbol : String) : UInt32 := hash (normal symbol)

end SyntheticMarket.Symbol
