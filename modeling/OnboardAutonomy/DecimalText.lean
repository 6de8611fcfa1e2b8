import OnboardAutonomy.ExactDouble
import Mathlib.Data.Nat.Log

namespace DecimalText
open ExactDouble
set_option autoImplicit true

/-- A non-negative fraction rounded to the nearest whole number, ties to even. -/
def roundHalfEven (num den : Nat) : Nat :=
  let whole := num / den
  let twice := 2 * (num % den)
  if twice < den then whole
  else if den < twice then whole + 1
  else if whole % 2 = 0 then whole else whole + 1

def padLeft (width : Nat) (text : String) : String :=
  String.ofList (List.replicate (width - text.length) '0') ++ text

/-- A whole number written with a decimal point in front of its last digits. -/
def pointed (precision scaled : Nat) : String :=
  if precision = 0 then toString scaled
  else toString (scaled / 10 ^ precision) ++ "." ++
    padLeft precision (toString (scaled % 10 ^ precision))

def signed (q : ℚ) (text : String) : String := if q < 0 then "-" ++ text else text

/-- What a stream prints for a double under `std::fixed` and `std::setprecision`. -/
def fixed (precision : Nat) : Double → String
  | .finite q => signed q
      (pointed precision (roundHalfEven (q.num.natAbs * 10 ^ precision) q.den))
  | .posInf => "inf"
  | .negInf => "-inf"
  | .nan => "nan"

def dropTrailingZeros (text : String) : String :=
  let digits := (text.toList.reverse.dropWhile (· = '0')).dropWhile (· = '.')
  String.ofList digits.reverse

/-- The decimal exponent of a positive fraction. -/
def decimalExponent (num den : Nat) : Int :=
  if den ≤ num then (Nat.log 10 (num / den) : Int)
  else -(Nat.clog 10 ((den + num - 1) / num) : Int)

/-- Six significant digits of a positive fraction and the exponent of the first of them. -/
def significant (num den : Nat) : Nat × Int :=
  let exponent := decimalExponent num den
  let digits := if exponent ≤ 5
    then roundHalfEven (num * 10 ^ (5 - exponent).toNat) den
    else roundHalfEven num (den * 10 ^ (exponent - 5).toNat)
  if digits = 10 ^ 6 then (10 ^ 5, exponent + 1) else (digits, exponent)

/-- What a stream prints for a double by default: six significant digits, trailing zeros
dropped. -/
def general : Double → String
  | .finite q =>
    if q = 0 then "0" else
      let (digits, exponent) := significant q.num.natAbs q.den
      signed q <|
        if exponent < -4 ∨ 6 ≤ exponent then
          dropTrailingZeros (pointed 5 digits) ++ "e" ++ (if exponent < 0 then "-" else "+") ++
            padLeft 2 (toString exponent.natAbs)
        else if exponent = 5 then toString digits
        else if 0 ≤ exponent then dropTrailingZeros (pointed (5 - exponent.toNat) digits)
        else dropTrailingZeros (pointed (5 + exponent.natAbs) digits)
  | .posInf => "inf"
  | .negInf => "-inf"
  | .nan => "nan"

example : fixed 2 (.finite (81 / 8)) = "10.12" := by decide +kernel
example : general (.finite (81 / 8)) = "10.125" := by decide +kernel

end DecimalText
