import Outline.Decimal.Nearest

/-! The shortest decimal notation of a binary floating point number: the fewest digits that read
back as the number, of two such the nearer, and of two as near the larger. -/
namespace Outline.Decimal

/-- The numbers that round to a mantissa and exponent, in units of `2 ^ (exponent - 2)`, and whether
the ends belong to them. -/
structure Interval where
  low : Nat
  high : Nat
  closed : Bool
deriving Repr, DecidableEq

/-- Below a power of two numbers are twice as close. -/
def interval (mantissa : Nat) (exponent : Int) : Interval :=
  let atPower := mantissa = 1 <<< (mantissaBits - 1) && leastExponent < exponent
  ⟨4 * mantissa - (if atPower then 1 else 2), 4 * mantissa + 2, mantissa % 2 = 0⟩

def Interval.has (i : Interval) (num den : Nat) : Bool :=
  if i.closed then i.low * den ≤ num && num ≤ i.high * den
  else i.low * den < num && num < i.high * den

/-- `n · 10 ^ power` in units of `2 ^ unit` as a fraction. -/
def inUnits (n : Nat) (power unit : Int) : Nat × Nat :=
  let num := (n * tenTo power.toNat) <<< (-unit).toNat
  let den := tenTo (-power).toNat <<< unit.toNat
  (num, den)

/-- The multiple of `10 ^ power` in the interval of a number that is nearest to it, if there is
one. -/
def onGrid? (mantissa : Nat) (exponent power : Int) : Option Nat :=
  let i := interval mantissa exponent
  let unit := exponent - 2
  -- the value in units of the grid, as a fraction
  let num := (4 * mantissa * tenTo (-power).toNat) <<< unit.toNat
  let den := tenTo power.toNat <<< (-unit).toNat
  let below := num / den
  let fits (n : Nat) : Bool := let (a, b) := inUnits n power unit; i.has a b
  match fits below, fits (below + 1) with
  | true, true => some (if 2 * (num % den) < den then below else below + 1)
  | true, false => some below
  | false, true => some (below + 1)
  | false, false => none

/-- The coarsest grid with a hit, from `power` down. -/
def search (mantissa : Nat) (exponent : Int) : Nat → (power : Int) → Nat × Int
  | 0, power => (0, power)
  | fuel + 1, power =>
    match onGrid? mantissa exponent power with
    | some n => if n = 0 then search mantissa exponent fuel (power - 1) else (n, power)
    | none => search mantissa exponent fuel (power - 1)

/-- The digits of a positive number and the power of ten of the last of them. -/
def shortest (mantissa : Nat) (exponent : Int) : Nat × Int :=
  let top : Int := (mantissa.log2 + 1 + exponent) * 30103 / 100000 + 1
  search mantissa exponent 24 top

/-- Digits with a point between the whole part and the rest, both never empty. -/
def positional (digits : Nat) (power : Int) : String :=
  let ds := Nat.toDigits 10 digits
  if 0 ≤ power then String.ofList (ds ++ List.replicate power.toNat '0') ++ ".0"
  else
    let places := (-power).toNat
    let ds := List.replicate (places + 1 - ds.length) '0' ++ ds
    String.ofList (ds.take (ds.length - places)) ++ "." ++
      String.ofList (ds.drop (ds.length - places))

/-- A number in positional notation, however long. -/
def Binary.text : Binary → String
  | nan => "NaN"
  | infinite negative => (if negative then "-" else "") ++ "inf"
  | finite negative m e =>
    (if negative then "-" else "") ++
      if m = 0 then "0.0"
      else
        let (digits, power) := shortest m e
        positional digits power

example : (nearest false 15 (-1)).text = "1.5" := by decide +kernel
example : (nearest false 5 (-324)).text = (positional 5 (-324)) := by decide +kernel
example : (nearest true 1 23).text = "-100000000000000000000000.0" := by decide +kernel

end Outline.Decimal
