/-! Binary floating point numbers of 64 bits, read from decimal notation by rounding to the nearest
one, halves to the even one. All arithmetic is on whole numbers. -/
namespace Outline.Decimal

/-- A number `mantissa · 2 ^ exponent` with its sign, or no such number. -/
inductive Binary where
  | finite (negative : Bool) (mantissa : Nat) (exponent : Int)
  | infinite (negative : Bool)
  | nan
deriving Repr, DecidableEq, Inhabited

/-- The least exponent, and the number of bits of a mantissa. -/
def leastExponent : Int := -1074
def mantissaBits : Nat := 53

/-- The nearest whole number to a fraction, halves to the even one. -/
def roundDiv (num den : Nat) : Nat :=
  let q := num / den
  let twice := 2 * (num % den)
  if den < twice || (twice = den && q % 2 = 1) then q + 1 else q

/-- A power of ten. -/
def tenTo (n : Nat) : Nat := Nat.pow 10 n

/-- `num / den · 2 ^ -e` as a fraction. -/
def scaleDown (num den : Nat) (e : Int) : Nat × Nat :=
  if 0 ≤ e then (num, den <<< e.toNat) else (num <<< (-e).toNat, den)

/-- The exponent at which a positive fraction has a mantissa of full length, or the least one. -/
def exponentFor (num den : Nat) : Int :=
  let e : Int := max leastExponent ((num.log2 : Int) - den.log2 - mantissaBits)
  let (n, d) := scaleDown num den e
  if n / d < 1 <<< mantissaBits then e else e + 1

/-- The nearest number to a positive fraction. -/
def nearestFraction (negative : Bool) (num den : Nat) : Binary :=
  let e := exponentFor num den
  let (n, d) := scaleDown num den e
  let m := roundDiv n d
  let (m, e) := if m = 1 <<< mantissaBits then (m / 2, e + 1) else (m, e)
  if 971 < e then .infinite negative else .finite negative m e

/-- The nearest number to `digits · 10 ^ power`. Far out of range nothing has to be computed. -/
def nearest (negative : Bool) (digits : Nat) (power : Int) : Binary :=
  let size : Int := power + (Nat.toDigits 10 digits).length
  if digits = 0 || size < -400 then .finite negative 0 leastExponent
  else if 400 < size then .infinite negative
  else if 0 ≤ power then nearestFraction negative (digits * tenTo power.toNat) 1
  else nearestFraction negative digits (tenTo (-power).toNat)

end Outline.Decimal
