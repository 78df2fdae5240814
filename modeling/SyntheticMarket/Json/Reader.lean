import SyntheticMarket.Json
import SyntheticMarket.Text.Decimal

/-! Reading JSON text. A fault is placed at the character where reading stopped: the text before it
can be continued to a value, or it is where the broken item starts. -/

namespace SyntheticMarket.Json

/-- Why a text is not read: it breaks off or goes wrong in front of `rest`, or a whole number in it
is too long. -/
inductive ReadStop where
  | at (rest : List Char)
  | oversized
deriving DecidableEq, Repr

inductive ReadFault where
  | malformed (position : Nat)
  | oversized
deriving DecidableEq, Repr

namespace Reader

def isGap (letter : Char) : Bool :=
  letter == ' ' || letter == '\t' || letter == '\n' || letter == '\r'

def skipGap (letters : List Char) : List Char := letters.dropWhile isGap

def hexValue? (letter : Char) : Option Nat :=
  if Text.isDigit letter then some (Text.digitValue letter)
  else if 'a' ≤ letter && letter ≤ 'f' then some (letter.toNat - 'a'.toNat + 10)
  else if 'A' ≤ letter && letter ≤ 'F' then some (letter.toNat - 'A'.toNat + 10)
  else none

def hexUnit? : List Char → Option (Nat × List Char)
  | a :: b :: c :: d :: next :: rest => do
    let value := (← hexValue? a) * 4096 + (← hexValue? b) * 256 + (← hexValue? c) * 16 +
      (← hexValue? d)
    return (value, next :: rest)
  | _ => none

def isHighUnit (unit : Nat) : Bool := 0xD800 ≤ unit && unit ≤ 0xDBFF

def isLowUnit (unit : Nat) : Bool := 0xDC00 ≤ unit && unit ≤ 0xDFFF

/-- The character of a unit that stands alone. Half of a pair without the other half is no character,
and so in no text here; where JSON allows it, the replacement character stands for it. -/
def ofUnit (unit : Nat) : Char :=
  if isHighUnit unit || isLowUnit unit then '\uFFFD' else Char.ofNat unit

/-- The character of an escaped unit and of its other half, if that follows. `mark` is the text from
the letter `u` on. -/
def unicode (mark : List Char) : Except ReadStop (Char × List Char) :=
  match hexUnit? (mark.drop 1) with
  | none => .error (.at mark)
  | some (high, rest) =>
    match rest with
    | '\\' :: 'u' :: more =>
      if isHighUnit high && 4 < more.length then
        match hexUnit? more with
        | none => .error (.at ('u' :: more))
        | some (low, later) =>
          if isLowUnit low then
            .ok (Char.ofNat (0x10000 + (high - 0xD800) * 0x400 + (low - 0xDC00)), later)
          else .ok (ofUnit high, rest)
      else .ok (ofUnit high, rest)
    | _ => .ok (ofUnit high, rest)

def simpleEscape? : Char → Option Char
  | '"' => some '"'
  | '\\' => some '\\'
  | '/' => some '/'
  | 'b' => some '\x08'
  | 'f' => some '\x0c'
  | 'n' => some '\n'
  | 'r' => some '\r'
  | 't' => some '\t'
  | _ => none

def string (start : List Char) : Nat → List Char → List Char →
    Except ReadStop (String × List Char)
  | 0, _, _ => .error (.at start)
  | _ + 1, _, [] => .error (.at start)
  | fuel + 1, taken, letter :: rest =>
    if letter == '"' then .ok (String.ofList taken.reverse, rest)
    else if letter == '\\' then
      match rest with
      | [] => .error (.at start)
      | 'u' :: more =>
        match unicode ('u' :: more) with
        | .error stop => .error stop
        | .ok (value, later) => string start fuel (value :: taken) later
      | mark :: more =>
        match simpleEscape? mark with
        | none => .error (.at (letter :: rest))
        | some value => string start fuel (value :: taken) more
    else if letter.toNat < 0x20 then .error (.at (letter :: rest))
    else string start fuel (letter :: taken) rest

def fractionPart : List Char → Option (List Char × List Char)
  | '.' :: digit :: rest =>
    if Text.isDigit digit then
      some ((digit :: rest).takeWhile Text.isDigit, (digit :: rest).dropWhile Text.isDigit)
    else none
  | _ => none

def exponentPart : List Char → Option (Int × List Char)
  | mark :: rest =>
    if mark == 'e' || mark == 'E' then
      let (negative, digits) := Text.takeSign rest
      let value := digits.takeWhile Text.isDigit
      if value.isEmpty then none
      else
        let size : Int := Text.digitsValue value
        some (if negative then -size else size, digits.dropWhile Text.isDigit)
    else none
  | [] => none

/-- A number at the front of a text. It is whole unless it has a fraction or an exponent; a fraction
or exponent that is not complete is left for what follows. -/
def number (letters : List Char) : Except ReadStop (Json × List Char) :=
  let (negative, unsigned) :=
    match letters with
    | '-' :: rest => (true, rest)
    | _ => (false, letters)
  match unsigned with
  | [] => .error (.at letters)
  | first :: rest =>
    if !Text.isDigit first then .error (.at letters)
    else
      let whole := if first == '0' then ['0'] else unsigned.takeWhile Text.isDigit
      let after := if first == '0' then rest else unsigned.dropWhile Text.isDigit
      let (fraction, after, pointed) :=
        match fractionPart after with
        | some (digits, later) => (digits, later, true)
        | none => ([], after, false)
      let (exponent, after, scaled) :=
        match exponentPart after with
        | some (value, later) => (value, later, true)
        | none => (0, after, false)
      if pointed || scaled then
        .ok (.real (Text.Decimal.toFloat { negative, whole, fraction, exponent }), after)
      else if Text.wholeLimit < whole.length then .error .oversized
      else
        let size : Int := Text.digitsValue whole
        .ok (.whole (if negative then -size else size), after)

def words : List (List Char × Json) := [
  ("null".toList, .null), ("true".toList, .bool true), ("false".toList, .bool false),
  ("NaN".toList, .real (0.0 / 0.0)), ("Infinity".toList, .real (1.0 / 0.0)),
  ("-Infinity".toList, .real (-(1.0 / 0.0)))]

def word? (letters : List Char) : Option (Json × List Char) :=
  (words.find? fun entry => entry.1.isPrefixOf letters).map fun entry =>
    (entry.2, letters.drop entry.1.length)

mutual

def value : Nat → List Char → Except ReadStop (Json × List Char)
  | 0, letters => .error (.at letters)
  | fuel + 1, letters =>
    match letters with
    | '"' :: rest =>
      (string letters (rest.length + 1) [] rest).map fun read => (.text read.1, read.2)
    | '{' :: rest =>
      match skipGap rest with
      | '}' :: later => .ok (.record [], later)
      | inside => members fuel [] inside
    | '[' :: rest =>
      match skipGap rest with
      | ']' :: later => .ok (.list [], later)
      | inside => items fuel [] inside
    | _ =>
      match word? letters with
      | some read => .ok read
      | none => number letters

/-- The members of a record from a name on; `taken` holds the earlier ones, the last first. -/
def members : Nat → List (String × Json) → List Char → Except ReadStop (Json × List Char)
  | 0, _, letters => .error (.at letters)
  | fuel + 1, taken, letters =>
    match letters with
    | '"' :: rest =>
      match string letters (rest.length + 1) [] rest with
      | .error stop => .error stop
      | .ok (name, after) =>
        match skipGap after with
        | ':' :: rest =>
          match value fuel (skipGap rest) with
          | .error stop => .error stop
          | .ok (item, after) =>
            match skipGap after with
            | '}' :: later => .ok (.record ((name, item) :: taken).reverse, later)
            | ',' :: later => members fuel ((name, item) :: taken) (skipGap later)
            | other => .error (.at other)
        | other => .error (.at other)
    | _ => .error (.at letters)

def items : Nat → List Json → List Char → Except ReadStop (Json × List Char)
  | 0, _, letters => .error (.at letters)
  | fuel + 1, taken, letters =>
    match value fuel letters with
    | .error stop => .error stop
    | .ok (item, after) =>
      match skipGap after with
      | ']' :: later => .ok (.list (item :: taken).reverse, later)
      | ',' :: later => items fuel (item :: taken) (skipGap later)
      | other => .error (.at other)

end

end Reader

/-- The value that a whole text stands for. Each nested value uses up at least one character, so the
length of the text bounds the depth of reading. -/
def read (text : String) : Except ReadFault Json :=
  let letters := text.toList
  let placed : ReadStop → ReadFault
    | .at rest => .malformed (letters.length - rest.length)
    | .oversized => .oversized
  match Reader.value (letters.length + 1) (Reader.skipGap letters) with
  | .error stop => .error (placed stop)
  | .ok (value, rest) =>
    match Reader.skipGap rest with
    | [] => .ok value
    | other => .error (placed (.at other))

end SyntheticMarket.Json
