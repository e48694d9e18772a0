/-
  SchemaRecovery.Number.Binary64

  Floating-point numbers with 53 bits of precision, as a mantissa times a
  power of two. A decimal is rounded to the nearest of them, a tie to the even
  mantissa, in exact arithmetic.
-/
namespace SchemaRecovery

/-- A floating-point number: `± mantissa · 2 ^ exponent`, an infinity, or no
number at all. -/
inductive Binary64 where
  | finite (negative : Bool) (mantissa : Nat) (exponent : Int)
  | infinite (negative : Bool)
  | nan
  deriving DecidableEq

namespace Binary64

/-- Mantissas stay below this bound. -/
def mantissaBound : Nat := Nat.pow 2 53

/-- The exponent of the numbers next to zero. -/
def leastExponent : Int := -1074

/-- The exponent of the largest numbers. -/
def greatestExponent : Int := 971

/-- `num / den` to the nearest whole number, a tie to the even one. -/
def roundDiv (num den : Nat) : Nat :=
  let q := num / den
  let r := num % den
  if 2 * r < den then q
  else if den < 2 * r then q + 1
  else if q % 2 = 0 then q else q + 1

/-- `num / den · 2 ^ (-e)` as a fraction. -/
def scaled (num den : Nat) (e : Int) : Nat × Nat :=
  if 0 ≤ e then (num, den * Nat.pow 2 e.toNat) else (num * Nat.pow 2 (-e).toNat, den)

/-- The exponent at which `num / den` has a mantissa of 53 bits, or the least
exponent if that is greater. -/
def exponentFor (num den : Nat) : Int :=
  let e := max leastExponent ((num.log2 : Int) - (den.log2 : Int) - 53)
  let (n, d) := scaled num den e
  if n / d < mantissaBound then e else e + 1

/-- The floating-point number nearest to the fraction `± num / den`. -/
def ofFraction (negative : Bool) (num den : Nat) : Binary64 :=
  let e := exponentFor num den
  let (n, d) := scaled num den e
  let m := roundDiv n d
  let (m, e) := if m = mantissaBound then (m / 2, e + 1) else (m, e)
  if greatestExponent < e then infinite negative else finite negative m e

/-- The number of decimal digits of `n`; zero has one. -/
def decimalLength (n : Nat) : Nat := (Nat.toDigits 10 n).length

/-- The floating-point number nearest to `± digits · 10 ^ e`. Decimals far
beyond either end of the range are settled by their size alone. -/
def ofDecimal (negative : Bool) (digits : Nat) (e : Int) : Binary64 :=
  if digits = 0 then finite negative 0 leastExponent
  else if 310 < decimalLength digits + e then infinite negative
  else if decimalLength digits + e < -330 then finite negative 0 leastExponent
  else if 0 ≤ e then ofFraction negative (digits * Nat.pow 10 e.toNat) 1
  else ofFraction negative digits (Nat.pow 10 (-e).toNat)

/-- The number is zero, of either sign. -/
def isZero : Binary64 → Bool
  | finite _ m _ => m == 0
  | infinite _ => false
  | nan => false

/-- The whole part of `m · 2 ^ e`. -/
def wholePart (m : Nat) (e : Int) : Nat :=
  if 0 ≤ e then m * Nat.pow 2 e.toNat else m / Nat.pow 2 (-e).toNat

end Binary64

end SchemaRecovery
