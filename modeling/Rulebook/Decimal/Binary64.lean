/-!
# Binary numbers of 64 bits

A `Binary64` is an infinity, not a number at all, or a sign with `significand · 2 ^ exponent`.
Everything is exact arithmetic on natural numbers: a ratio is rounded to the nearest such number,
and of two that are equally near to the one with an even significand.
-/

namespace Rulebook

/-- A number in binary floating point. In a finite one the significand has 53 bits, or fewer if the
exponent is the least one. -/
inductive Binary64 where
  | nan
  | infinity (negative : Bool)
  | finite (negative : Bool) (significand : Nat) (exponent : Int)
  deriving DecidableEq, Repr, Inhabited

namespace Binary64

/-- The number of bits of a significand. -/
def precision : Nat := 53

/-- The least exponent. -/
def leastExponent : Int := -1074

/-- The greatest exponent. -/
def greatestExponent : Int := 971

/-- Positive zero. -/
def zero : Binary64 :=
  .finite false 0 leastExponent

/-- The quotient rounded to the nearest natural number, and to the even one of two. -/
def roundDiv (n d : Nat) : Nat :=
  let q := n / d
  let r := n % d
  if 2 * r > d || (2 * r = d && q % 2 = 1) then q + 1 else q

/-- The quotient `n / d` times a power of two, as a numerator and a denominator. -/
def timesPower (n d : Nat) (power : Int) : Nat × Nat :=
  (n * Nat.pow 2 power.toNat, d * Nat.pow 2 (-power).toNat)

/-- The place of the first bit of `n / d`, which is positive. -/
def leadingBit (n d : Nat) : Int :=
  let guess := (n.log2 : Int) - d.log2
  let (a, b) := timesPower n d (-guess)
  if a < b then guess - 1 else guess

/-- The number nearest to `n / d`. -/
def ofRatio (negative : Bool) (n d : Nat) : Binary64 :=
  if n = 0 then .finite negative 0 leastExponent
  else
    let exponent := max (leadingBit n d - (precision - 1)) leastExponent
    let (a, b) := timesPower n d (-exponent)
    let significand := roundDiv a b
    let (significand, exponent) :=
      if significand = Nat.pow 2 precision then (Nat.pow 2 (precision - 1), exponent + 1)
      else (significand, exponent)
    if exponent > greatestExponent then .infinity negative
    else .finite negative significand exponent

/-- The number nearest to `digits · 10 ^ power`. Powers far outside of the range are not
computed. -/
def ofDecimal (negative : Bool) (digits : Nat) (power : Int) : Binary64 :=
  let size := power + ((Nat.toDigits 10 digits).length : Int)
  if digits = 0 || size < -400 then .finite negative 0 leastExponent
  else if size > 400 then .infinity negative
  else ofRatio negative (digits * Nat.pow 10 power.toNat) (Nat.pow 10 (-power).toNat)

/-- The size of a finite number as a ratio. -/
def ratio? : Binary64 → Option (Nat × Nat)
  | .finite _ significand exponent => some (timesPower significand 1 exponent)
  | _ => none

/-- The negated number. -/
def neg : Binary64 → Binary64
  | .nan => .nan
  | .infinity negative => .infinity !negative
  | .finite negative significand exponent => .finite (!negative) significand exponent

/-- The sum of two numbers that are not negative. -/
def addAbs (x y : Binary64) : Binary64 :=
  match x.ratio?, y.ratio? with
  | some (a, b), some (c, d) => ofRatio false (a * d + c * b) (b * d)
  | _, _ => .infinity false

/-- The product of two numbers that are not negative. -/
def mulAbs (x y : Binary64) : Binary64 :=
  match x.ratio?, y.ratio? with
  | some (a, b), some (c, d) => ofRatio false (a * c) (b * d)
  | _, _ => .infinity false

end Binary64

end Rulebook
