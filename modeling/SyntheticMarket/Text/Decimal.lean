import SyntheticMarket.Text.Blank

/-! Numbers in text. A decimal is a digit string with a point and an exponent, and is read to the
nearest float. Whole numbers and reals may also come as loosely written text. -/

namespace SyntheticMarket.Text

def isDigit (letter : Char) : Bool := '0' ≤ letter && letter ≤ '9'

def digitValue (letter : Char) : Nat := letter.toNat - '0'.toNat

def digitsValue (digits : List Char) : Nat :=
  digits.foldl (fun value digit => value * 10 + digitValue digit) 0

/-- The float nearest to `digits · 10 ^ exponent`. Numbers far outside the range of floats are
settled without computing the power. -/
def nearestFloat (digits : Nat) (exponent : Int) : Float :=
  let size : Int := (Nat.toDigits 10 digits).length
  if digits = 0 then 0.0
  else if 400 < size + exponent then 1.0 / 0.0
  else if size + exponent < -400 then 0.0
  else if exponent < 0 then Float.ofScientific digits true exponent.natAbs
  else Float.ofScientific digits false exponent.natAbs

structure Decimal where
  negative : Bool
  whole : List Char
  fraction : List Char
  exponent : Int
deriving DecidableEq, Repr

def Decimal.toFloat (decimal : Decimal) : Float :=
  let magnitude := nearestFloat (digitsValue (decimal.whole ++ decimal.fraction))
    (decimal.exponent - decimal.fraction.length)
  if decimal.negative then -magnitude else magnitude

def takeSign : List Char → Bool × List Char
  | '-' :: rest => (true, rest)
  | '+' :: rest => (false, rest)
  | letters => (false, letters)

def signedDigits? (letters : List Char) : Option Int :=
  let (negative, digits) := takeSign letters
  if !digits.isEmpty && digits.all isDigit then
    some (if negative then -(digitsValue digits : Int) else digitsValue digits)
  else none

def exponent? : List Char → Option Int
  | [] => some 0
  | mark :: rest => if mark == 'e' || mark == 'E' then signedDigits? rest else none

/-- A number with digits on at least one side of its point, or without a point. -/
def decimal? (letters : List Char) : Option Decimal :=
  let (negative, letters) := takeSign letters
  let whole := letters.takeWhile isDigit
  let rest := letters.dropWhile isDigit
  let (fraction, rest) :=
    match rest with
    | '.' :: rest => (rest.takeWhile isDigit, rest.dropWhile isDigit)
    | _ => ([], rest)
  if whole.isEmpty && fraction.isEmpty then none
  else (exponent? rest).map fun exponent => { negative, whole, fraction, exponent }

def unboundedWord? (letters : List Char) : Option Float :=
  let (negative, letters) := takeSign letters
  match String.ofList (letters.map Char.toLower) with
  | "inf" | "infinity" => some (if negative then -(1.0 / 0.0) else 1.0 / 0.0)
  | "nan" => some (0.0 / 0.0)
  | _ => none

def strictReal? (letters : List Char) : Option Float :=
  (unboundedWord? letters).or ((decimal? letters).map Decimal.toFloat)

/-- The letters without their underscores, provided that each one stands alone and inside. -/
def withoutUnderscores? (letters : List Char) : Option (List Char) :=
  let doubled := (letters.zip letters.tail).any fun pair => pair.1 == '_' && pair.2 == '_'
  if letters.head? == some '_' || letters.getLast? == some '_' || doubled ||
      !letters.contains '_' then none
  else some (letters.filter (· != '_'))

/-- A real written as text: space around it does not matter, or it may hold single underscores. -/
def looseReal? (text : String) : Option Float :=
  let letters := text.toList
  (strictReal? (trimLetters isSpace letters)).or
    ((withoutUnderscores? letters).bind strictReal?)

/-- What follows a zero in front; `marked` tells whether an underscore came last. -/
def afterZeros? (marked : Bool) : List Char → Option (List Char)
  | [] => if marked then none else some ['0']
  | '0' :: rest => afterZeros? false rest
  | '_' :: rest => if marked then none else afterZeros? true rest
  | '.' :: rest => if marked then none else some ('0' :: '.' :: rest)
  | letter :: rest => if isDigit letter then some (letter :: rest) else none

/-- Zeros in front of another digit or of a point go, and with them single underscores between
them. A minus sign protects them; anything else in front is no number. -/
def withoutLeadingZeros? : List Char → Option (List Char)
  | '0' :: rest => afterZeros? false rest
  | letter :: rest => if isDigit letter || letter == '-' then some (letter :: rest) else none
  | [] => none

def withoutDecimalZeros (letters : List Char) : List Char :=
  match letters.dropWhile (· != '.') with
  | '.' :: zeros => if zeros.all (· == '0') then letters.takeWhile (· != '.') else letters
  | _ => letters

/-- A plus sign in front goes, unless a minus sign follows it. -/
def withoutPlus? : List Char → Option (List Char)
  | '+' :: '-' :: _ => none
  | '+' :: rest => some rest
  | letters => some letters

def plainWhole? (letters : List Char) : Option Int :=
  let (negative, digits) :=
    match letters with
    | '-' :: rest => (true, rest)
    | _ => (false, letters)
  if digits.isEmpty || !digits.all isDigit || (digits.head? == some '0' && 1 < digits.length) then
    none
  else
    let size : Int := digitsValue digits
    some (if negative then -size else size)

inductive WholeFault where
  | unreadable
  | tooLong
deriving DecidableEq, Repr

def wholeLimit : Nat := 4300

/-- A whole number written as text: with space around it, a plus sign, leading zeros, single
underscores and a fraction of zeros. -/
def looseWhole (text : String) : Except WholeFault Int :=
  let letters := trimLetters isSpace text.toList
  if wholeLimit < letters.length then .error .tooLong
  else
    match tidied? letters >>= plainWhole? with
    | some value => .ok value
    | none => .error .unreadable
where
  tidied? (letters : List Char) : Option (List Char) := do
    let letters ← withoutPlus? letters
    let letters := withoutDecimalZeros (← withoutLeadingZeros? letters)
    return (withoutUnderscores? letters).getD letters

end SyntheticMarket.Text
