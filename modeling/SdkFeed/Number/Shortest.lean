import SdkFeed.Number.Double

/-!
The text of a floating point number: the fewest digits that read back as the number, and of those
the nearest.
-/

namespace SdkFeed.Number

/-- The power of ten of the first digit of a fraction that is not 0. The power is found on the
fraction made whole, and all numbers of double precision are whole after 400 digits. -/
def decimalExponent (num den : Nat) : Int :=
  ((Nat.toDigits 10 (num * Nat.pow 10 400 / den)).length : Int) - 401

/-- The whole numbers of a grid next to a number, nearest first; the even one first on a tie. -/
def neighbours (num den : Nat) : List Nat :=
  let low := num / den
  if roundDiv num den == low then [low, low + 1] else [low + 1, low]

/-- The digits and the power of ten of their unit, with so many digits as asked, if they read back
as the number. -/
def shortestWith? (mantissa : Nat) (exponent : Int) (count : Nat) : Option (Nat × Int) :=
  let (num, den) := Double.ratio mantissa exponent
  let unit := decimalExponent num den - count + 1
  let (n, d) := scaled 10 num den (-unit)
  ((neighbours n d).find? fun digits =>
    Double.ofDecimal false digits unit == .finite false mantissa exponent).map (·, unit)

/-- The fewest digits that read back, and the power of ten of their unit. Seventeen are always
enough. -/
def shortest (mantissa : Nat) (exponent : Int) : Nat × Int :=
  ((List.range' 1 17).findSome? (shortestWith? mantissa exponent)).getD (0, 0)

/-- The digits of a number above 0 without zeros at the end, and the place of the decimal point
behind the first of them. -/
def significant (mantissa : Nat) (exponent : Int) : List Char × Int :=
  let (digits, unit) := shortest mantissa exponent
  let chars := Nat.toDigits 10 digits
  ((chars.reverse.dropWhile (· == '0')).reverse, unit + chars.length)

/-- Digits with a decimal point. Very small and very great numbers are written with a power of
ten. -/
def layOut (digits : List Char) (point : Int) : List Char :=
  if -4 < point && point ≤ 16 then
    if point ≤ 0 then '0' :: '.' :: List.replicate (-point).toNat '0' ++ digits
    else
      let whole := digits.take point.toNat
      let rest := digits.drop point.toNat
      whole ++ List.replicate (point.toNat - whole.length) '0' ++ ['.'] ++
        (if rest.isEmpty then ['0'] else rest)
  else
    let power := point - 1
    let powerDigits := Nat.toDigits 10 power.natAbs
    digits.take 1 ++ (if digits.length ≤ 1 then [] else '.' :: digits.drop 1) ++
      ['e', if power < 0 then '-' else '+'] ++
      List.replicate (2 - powerDigits.length) '0' ++ powerDigits

/-- The text of a number. -/
def Double.render : Double → String
  | undefined => "nan"
  | infinite isNegative => if isNegative then "-inf" else "inf"
  | finite isNegative mantissa exponent =>
    let text :=
      if mantissa == 0 then ['0', '.', '0']
      else
        let (digits, point) := significant mantissa exponent
        layOut digits point
    String.ofList (if isNegative then '-' :: text else text)

end SdkFeed.Number
