/-! # Binary floating-point numbers of 64 bits

A number is its bit pattern. A decimal is rounded to the nearest number, a tie to the even one, in
exact arithmetic, and a number is shown by the fewest digits that round to it.
-/
namespace RestScaffold

structure Binary64 where
  bits : UInt64
  deriving DecidableEq, Repr

namespace Binary64

/-- The exponent of the least bit of the smallest numbers. -/
def minExponent : Int := -1074

/-- The exponent of the least bit of the largest finite numbers. -/
def maxExponent : Int := 971

def signBit (negative : Bool) : Nat := if negative then Nat.pow 2 63 else 0

def infinity (negative : Bool) : Binary64 := ⟨(signBit negative + 0x7FF * Nat.pow 2 52).toUInt64⟩

def nan (negative : Bool) : Binary64 := ⟨(signBit negative + 0x7FF8 * Nat.pow 2 48).toUInt64⟩

/-- The number `significand * 2 ^ exponent`, where the significand has 53 bits, or fewer at the
least exponent. -/
def ofParts (negative : Bool) (significand : Nat) (exponent : Int) : Binary64 :=
  let biased := if significand < Nat.pow 2 52 then 0 else (exponent - minExponent + 1).toNat
  ⟨(signBit negative + biased * Nat.pow 2 52 + significand % Nat.pow 2 52).toUInt64⟩

/-- The quotient rounded to the nearest whole number, a tie to the even one. -/
def roundQuotient (num den : Nat) : Nat :=
  let q := num / den
  let twice := 2 * (num % den)
  if twice < den ∨ (twice = den ∧ q % 2 = 0) then q else q + 1

/-- The fraction in units of `2 ^ exponent`. -/
def scaled (num den : Nat) (exponent : Int) : Nat × Nat :=
  (num * Nat.pow 2 (-exponent).toNat, den * Nat.pow 2 exponent.toNat)

/-- The exponent at which a positive fraction has 53 bits before the point, if that is allowed. -/
def exponentOf (num den : Nat) : Int :=
  let guess : Int := (num.log2 : Int) - den.log2 - 52
  let (n, d) := scaled num den guess
  max minExponent (if n / d < Nat.pow 2 52 then guess - 1 else guess)

/-- The number nearest to a fraction, or none if that is out of range. -/
def ofFraction? (negative : Bool) (num den : Nat) : Option Binary64 :=
  if num = 0 then some (ofParts negative 0 minExponent)
  else
    let exponent := exponentOf num den
    let (n, d) := scaled num den exponent
    let q := roundQuotient n d
    let (significand, exponent) :=
      if q = Nat.pow 2 53 then (Nat.pow 2 52, exponent + 1) else (q, exponent)
    if maxExponent < exponent then none else some (ofParts negative significand exponent)

/-- Decimals with their first digit further than this from the point are out of range or zero. -/
def decimalRange : Int := 400

/-- The number nearest to `digits * 10 ^ exponent`, `count` being how many digits there are. -/
def ofDecimal? (negative : Bool) (digits count : Nat) (exponent : Int) : Option Binary64 :=
  if digits = 0 ∨ exponent + count < -decimalRange then ofFraction? negative 0 1
  else if decimalRange < exponent ∧ digits ≠ 0 then none
  else ofFraction? negative (digits * Nat.pow 10 exponent.toNat) (Nat.pow 10 (-exponent).toNat)

def isNegative (x : Binary64) : Bool := Nat.pow 2 63 ≤ x.bits.toNat

def biasedExponent (x : Binary64) : Nat := x.bits.toNat / Nat.pow 2 52 % Nat.pow 2 11

def fraction (x : Binary64) : Nat := x.bits.toNat % Nat.pow 2 52

def isNan (x : Binary64) : Bool := x.biasedExponent = 0x7FF ∧ x.fraction ≠ 0

def isInfinite (x : Binary64) : Bool := x.biasedExponent = 0x7FF ∧ x.fraction = 0

def significand (x : Binary64) : Nat :=
  if x.biasedExponent = 0 then x.fraction else x.fraction + Nat.pow 2 52

def exponent (x : Binary64) : Int :=
  if x.biasedExponent = 0 then minExponent else x.biasedExponent - 1 + minExponent

/-- The decimals that round to `significand * 2 ^ exponent`, in quarters of the unit: the least and
the greatest, and whether these two belong to them. -/
def rounding (significand : Nat) (exponent : Int) : Nat × Nat × Bool :=
  let narrow := significand = Nat.pow 2 52 ∧ minExponent < exponent
  (4 * significand - (if narrow then 1 else 2), 4 * significand + 2, significand % 2 = 0)

/-- The multiple of `10 ^ place` nearest to a number, if one rounds to it. Of two that are equally
near the greater is taken. -/
def digitsAt? (significand : Nat) (exponent place : Int) : Option Nat :=
  let quarter := exponent - 2
  let left := Nat.pow 2 quarter.toNat * Nat.pow 10 (-place).toNat
  let right := Nat.pow 2 (-quarter).toNat * Nat.pow 10 place.toNat
  let (low, high, ends) := rounding significand exponent
  let hits := fun d : Nat =>
    if ends then low * left ≤ d * right && d * right ≤ high * left
    else low * left < d * right && d * right < high * left
  let exact := 4 * significand * left
  let below := exact / right
  let belowFirst := exact - below * right < (below + 1) * right - exact
  let candidates := if belowFirst then [below, below + 1] else [below + 1, below]
  candidates.find? fun d => d != 0 && hits d

/-- The fewest digits, and the place of the last one, from `n` places above the least one down. -/
def shortestFrom (significand : Nat) (exponent : Int) : Nat → Nat × Int
  | 0 => (significand, exponent)
  | n + 1 =>
    let place : Int := (n : Int) - decimalRange
    match digitsAt? significand exponent place with
    | some digits => (digits, place)
    | none => shortestFrom significand exponent n

/-- Digits with the last of them at a place, written without an exponent. -/
def positional (digits : Nat) (place : Int) : String :=
  if 0 ≤ place then toString (digits * Nat.pow 10 place.toNat) ++ ".0"
  else
    let shown := (toString digits).toList
    let width := (-place).toNat
    let padded := List.replicate (width + 1 - shown.length) '0' ++ shown
    let whole := padded.length - width
    String.ofList (padded.take whole) ++ "." ++ String.ofList (padded.drop whole)

/-- A finite number always has a point and a digit on either side of it. -/
def text (x : Binary64) : String :=
  if x.isNan then "NaN"
  else
    let sign := if x.isNegative then "-" else ""
    if x.isInfinite then sign ++ "inf"
    else if x.significand = 0 then sign ++ "0.0"
    else
      let (digits, place) :=
        shortestFrom x.significand x.exponent (2 * decimalRange.toNat)
      sign ++ positional digits place

end Binary64
end RestScaffold
