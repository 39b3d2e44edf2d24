import SdkFeed.Text.Integer

/-!
Floating point numbers of double precision, in exact arithmetic. Main definitions: `ofRatio`
rounds a fraction to the nearest number, and `ofText?` reads one from a text.
-/

namespace SdkFeed.Number

/-- A floating point number: `mantissa * 2 ^ exponent` with its sign, or no finite number. -/
inductive Double where
  | finite (isNegative : Bool) (mantissa : Nat) (exponent : Int)
  | infinite (isNegative : Bool)
  | undefined
deriving DecidableEq, Repr, Inhabited

/-- The whole number nearest to a fraction; of two that are equally near, the even one. -/
def roundDiv (num den : Nat) : Nat :=
  let whole := num / den
  let rest := num % den
  if 2 * rest < den then whole
  else if den < 2 * rest then whole + 1
  else whole + whole % 2

/-- The fraction `num / den` times a power of `base`, as a fraction. -/
def scaled (base num den : Nat) (power : Int) : Nat × Nat :=
  if 0 ≤ power then (num * Nat.pow base power.toNat, den)
  else (num, den * Nat.pow base (-power).toNat)

/-- The greatest power of two that is not above a fraction, which is not 0. -/
def binaryExponent (num den : Nat) : Int :=
  let guess := (num.log2 : Int) - den.log2
  let (n, d) := scaled 2 num den (-guess)
  if n < d then guess - 1 else guess

namespace Double

/-- Zero with a sign. -/
def zero (isNegative : Bool) : Double :=
  finite isNegative 0 0

/-- The number nearest to a fraction with a positive denominator. A fraction beyond all finite
numbers becomes infinite. -/
def ofRatio (isNegative : Bool) (num den : Nat) : Double :=
  if num == 0 then zero isNegative
  else
    let exponent := max (binaryExponent num den - 52) (-1074)
    let (n, d) := scaled 2 num den (-exponent)
    let mantissa := roundDiv n d
    let (mantissa, exponent) :=
      if mantissa == Nat.pow 2 53 then (Nat.pow 2 52, exponent + 1) else (mantissa, exponent)
    if mantissa == 0 then zero isNegative
    else if 971 < exponent then infinite isNegative
    else finite isNegative mantissa exponent

/-- The number nearest to `digits * 10 ^ power`. Powers far beyond all numbers are not worked
out. -/
def ofDecimal (isNegative : Bool) (digits : Nat) (power : Int) : Double :=
  let size := (digits.log2 : Int) * 30103 / 100000 + power
  if digits == 0 || size < -400 then zero isNegative
  else if 400 < size then infinite isNegative
  else
    let (num, den) := scaled 10 digits 1 power
    ofRatio isNegative num den

/-- A finite number as a fraction without its sign. -/
def ratio (mantissa : Nat) (exponent : Int) : Nat × Nat :=
  scaled 2 mantissa 1 exponent

/-- The signed numerator over a power of two that is common to two numbers. -/
def signed (isNegative : Bool) (n : Nat) : Int :=
  if isNegative then -(n : Int) else n

/-- The sum of two numbers, rounded. -/
def add : Double → Double → Double
  | finite s m e, finite t n f =>
    let least := min e f
    let total := signed s (m * Nat.pow 2 (e - least).toNat) +
      signed t (n * Nat.pow 2 (f - least).toNat)
    if total == 0 then zero (s && t)
    else
      let (num, den) := scaled 2 total.natAbs 1 least
      ofRatio (total < 0) num den
  | undefined, _ | _, undefined => undefined
  | infinite s, infinite t => if s == t then infinite s else undefined
  | infinite s, _ | _, infinite s => infinite s

/-- The product of two numbers, rounded. -/
def mul : Double → Double → Double
  | finite s m e, finite t n f =>
    let (num, den) := scaled 2 (m * n) 1 (e + f)
    ofRatio (s != t) num den
  | undefined, _ | _, undefined => undefined
  | infinite s, infinite t => infinite (s != t)
  | infinite s, finite t m _ | finite t m _, infinite s =>
    if m == 0 then undefined else infinite (s != t)

/-- The opposite of a number. -/
def neg : Double → Double
  | finite s m e => finite (!s) m e
  | infinite s => infinite (!s)
  | undefined => undefined

end Double

open SdkFeed.Text

/-- A row of digits of any script with single underscores between them, and what follows. -/
def digitRun (acc : List Nat) : List Char → List Nat × List Char
  | c :: rest =>
    match digit? c with
    | some d => digitRun (d :: acc) rest
    | none =>
      match c, rest with
      | '_', d :: rest' =>
        match digit? d, acc with
        | some n, _ :: _ => digitRun (n :: acc) rest'
        | _, _ => (acc.reverse, c :: rest)
      | _, _ => (acc.reverse, c :: rest)
  | [] => (acc.reverse, [])

/-- The power of ten at the end of a decimal, if there is nothing else. -/
def powerOf? : List Char → Option Int
  | [] => some 0
  | e :: rest => do
    guard (e == 'e' || e == 'E')
    let (isNegative, rest) := match rest with
      | '-' :: rest => (true, rest)
      | '+' :: rest => (false, rest)
      | rest => (false, rest)
    let (digits, rest) := digitRun [] rest
    guard (!digits.isEmpty && rest.isEmpty)
    return Double.signed isNegative (ofDigits digits)

/-- A decimal without its sign. -/
def decimal? (isNegative : Bool) (chars : List Char) : Option Double := do
  let (whole, rest) := digitRun [] chars
  let (fraction, rest) := match rest with
    | '.' :: rest => digitRun [] rest
    | rest => ([], rest)
  guard (!(whole.isEmpty && fraction.isEmpty))
  return .ofDecimal isNegative (ofDigits (whole ++ fraction)) ((← powerOf? rest) - fraction.length)

/-- A number from its text: a decimal, or the name of a number that is not finite. -/
def Double.ofText? (chars : List Char) : Option Double :=
  let (isNegative, rest) := match chars with
    | '-' :: rest => (true, rest)
    | '+' :: rest => (false, rest)
    | rest => (false, rest)
  let word := String.ofList (rest.map Char.toLower)
  if word == "inf" || word == "infinity" then some (.infinite isNegative)
  else if word == "nan" then some .undefined
  else decimal? isNegative rest

end SdkFeed.Number
