import SdkFeed.Text.Character

/-!
Reading integers. Three forms occur: plain natural numbers in ASCII digits; the liberal form of
entries written by hand, with a sign, digits of any script and underscores between them; and
integers to a given base, with a sign, digits of any script, and perhaps a mark of the base. None
may have more than 4300 digits, except to a base that is a power of two.
-/

namespace SdkFeed.Text

/-- The greatest number of digits that is read, leading zeros included. -/
def digitLimit : Nat :=
  4300

/-- What is said about a text with more digits. -/
def tooManyDigits (count : Nat) : String :=
  "Exceeds the limit (4300 digits) for integer string conversion: value has " ++ toString count ++
    " digits; use sys.set_int_max_str_digits() to increase the limit"

/-- What is said about an integer that has more digits when it is shown. -/
def tooLargeToShow : String :=
  "Exceeds the limit (4300 digits) for integer string conversion; " ++
    "use sys.set_int_max_str_digits() to increase the limit"

/-- The number that a row of digits to a base stands for. -/
def ofDigitsTo (base : Nat) (digits : List Nat) : Nat :=
  digits.foldl (fun value digit => base * value + digit) 0

/-- The number that a row of decimal digits stands for. -/
def ofDigits (digits : List Nat) : Nat :=
  ofDigitsTo 10 digits

/-- Digits with at most one underscore between any two of them. `acc` holds the values read so
far, reversed; `joins` tells that an underscore may follow. -/
def groupedDigits? (acc : List Nat) (joins : Bool) : List Char → Option (List Nat)
  | [] => if joins then some acc.reverse else none
  | '_' :: rest => if joins then groupedDigits? acc false rest else none
  | c :: rest => do groupedDigits? ((← digit? c) :: acc) true rest

/-- A natural number in liberal form. -/
def grouped? (chars : List Char) : Option Nat := do
  let digits ← groupedDigits? [] false chars
  guard (digits.length ≤ digitLimit)
  return ofDigits digits

/-- An integer in liberal form: a natural number behind an optional sign. -/
def integer? : List Char → Option Int
  | '-' :: rest => (grouped? rest).map fun n => -(n : Int)
  | '+' :: rest => (grouped? rest).map Int.ofNat
  | chars => (grouped? chars).map Int.ofNat

/-- A natural number in plain form: ASCII digits only. -/
def natural? (chars : List Char) : Option Nat :=
  if chars.isEmpty || !chars.all Char.isDigit || digitLimit < chars.length then none
  else some (ofDigits (chars.map fun c => c.toNat - '0'.toNat))

/-- Blanks around numbers. The information separators are none. -/
def isNumberBlank (c : Char) : Bool :=
  isBlank c && !('\x1c' ≤ c && c ≤ '\x1f')

/-- A text without the blanks around a number. -/
def trimNumber (chars : List Char) : List Char :=
  dropEnd isNumberBlank (chars.dropWhile isNumberBlank)

/-- A digit to a base: a decimal digit of any script, or an ASCII letter from ten on. -/
def digitTo? (base : Nat) (c : Char) : Option Nat :=
  let value :=
    if 'a' ≤ c && c ≤ 'z' then some (c.toNat - 'a'.toNat + 10)
    else if 'A' ≤ c && c ≤ 'Z' then some (c.toNat - 'A'.toNat + 10)
    else digit? c
  value.filter (· < base)

/-- The letter that marks a base behind a zero. -/
def baseMark? (base : Nat) : Option Char :=
  [(2, 'b'), (8, 'o'), (16, 'x')].lookup base

/-- What follows the mark of a base, if the text starts with it. -/
def skipBaseMark (base : Nat) : List Char → List Char
  | zero :: mark :: rest =>
    if digit? zero == some 0 && baseMark? base == some mark.toLower then rest
    else zero :: mark :: rest
  | chars => chars

/-- Why a text is no integer. -/
inductive IntegerFault where
  | notDigits
  | tooManyDigits (count : Nat)
deriving DecidableEq, Repr

/-- The integer to a base that a text without underscores stands for. Only bases that are not a
power of two limit the number of digits. -/
def integerTo (base : Nat) (chars : List Char) : Except IntegerFault Int :=
  let (isNegative, body) := match trimNumber chars with
    | '-' :: rest => (true, rest)
    | '+' :: rest => (false, rest)
    | rest => (false, rest)
  let body := skipBaseMark base body
  let digits := (body.map (digitTo? base)).takeWhile Option.isSome |>.filterMap id
  if (baseMark? base).isNone && digitLimit < digits.length then
    .error (.tooManyDigits digits.length)
  else if digits.isEmpty || digits.length < body.length then .error .notDigits
  else
    let value : Int := ofDigitsTo base digits
    .ok (if isNegative then -value else value)

end SdkFeed.Text
