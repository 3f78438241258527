import BuildYard.Word
/-!
# Decimal numbers that binary64 can hold

Whether a decimal number of any size rounds to a finite binary64 value, in exact arithmetic.
-/

namespace BuildYard.Text

/-- Does the number with these decimal digits, times a power of ten, round to a finite binary64
value? The least magnitude that does not is `2 ^ 1024 - 2 ^ 970`. The number is compared with it
exactly only where the count of its digits leaves the answer open. -/
def isFiniteDecimal (digits : List Char) (power : Int) : Bool :=
  let digits := digits.dropWhile (· == '0')
  let places := (digits.length : Int) + power
  if digits.isEmpty then true
  else if places > 310 then false
  else if places < 300 then true
  else
    let mantissa := Nat.ofDigitChars 10 digits 0
    let bound := wordSize 1024 - wordSize 970
    if power ≥ 0 then mantissa * tenTo power.toNat < bound
    else mantissa < bound * tenTo (-power).toNat

/-- The number that the digits of an exponent stand for. -/
def exponentValue (isNegative : Bool) (digits : List Char) : Int :=
  let n : Int := Nat.ofDigitChars 10 digits 0
  if isNegative then -n else n

end BuildYard.Text
