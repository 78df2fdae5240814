import SyntheticMarket.Text.Blank
import SyntheticMarket.Text.Uppercase

/-! Selections from lists: the newest candles, and the symbols that match a search. -/

namespace SyntheticMarket.Catalog

/-- A positive count keeps that many items at the end; any other drops as many at the front as it is
below zero. -/
def fromEnd {β : Type} (count : Int) (items : List β) : List β :=
  if 0 < count then items.drop (items.length - count.toNat) else items.drop (-count).toNat

def occurs (needle : List Char) : List Char → Bool
  | [] => needle.isEmpty
  | letter :: rest => needle.isPrefixOf (letter :: rest) || occurs needle rest

/-- Whether a symbol matches a search; case does not matter, nor do blanks around the search. -/
def found (search symbol : String) : Bool :=
  occurs (Text.upper (Text.strip search)).toList (Text.upper symbol).toList

def search (symbols : List String) (text : String) (limit : Nat) : List String :=
  ((symbols.mergeSort fun left right => !(right < left)).filter (found text)).take limit

end SyntheticMarket.Catalog
