import Rulebook.Decimal.Binary64

/-!
# The shortest decimal that reads back

A binary number is written with the fewest digits from which it can be read again, and of those
with the nearest ones. `ReadsBack` is the test: a decimal reads back if it lies among the ratios
that round to the number. `shortest` tries one digit, two digits and so on; on each grid only the
two neighbours of the number can be nearest. `render` lays the digits out: positionally between
`10 ^ -4` and `10 ^ 16`, otherwise with an exponent.
-/

namespace Rulebook.Binary64

/-- The decimal `digits · 10 ^ power`. -/
structure Decimal where
  digits : Nat
  power : Int
  deriving DecidableEq, Repr, Inhabited

/-- Compares `a · 10 ^ i` with `n · 2 ^ j`. -/
def compareScaled (a : Nat) (i : Int) (n : Nat) (j : Int) : Ordering :=
  compare (a * Nat.pow 10 i.toNat * Nat.pow 2 (-j).toNat)
    (n * Nat.pow 2 j.toNat * Nat.pow 10 (-i).toNat)

/-- Whether a decimal lies among the ratios that round to `significand · 2 ^ exponent`. They reach
halfway to both neighbours, the ends included if the significand is even; below a power of two the
lower neighbour is half as far away. -/
def readsBack (significand : Nat) (exponent : Int) (d : Decimal) : Bool :=
  let narrow := significand = Nat.pow 2 (precision - 1) && exponent > leastExponent
  let low := 4 * significand - (if narrow then 1 else 2)
  let high := 4 * significand + 2
  let closed := significand % 2 = 0
  let below := compareScaled d.digits d.power low (exponent - 2)
  let above := compareScaled d.digits d.power high (exponent - 2)
  (below = .gt || (closed && below = .eq)) && (above = .lt || (closed && above = .eq))

/-- The least power of ten above `n / d`, which is positive. -/
def powerAbove (n d : Nat) : Int :=
  let guess := (((n.log2 : Int) - d.log2) * 30103) / 100000
  let isAbove := fun (k : Int) => n * Nat.pow 10 (-k).toNat < d * Nat.pow 10 k.toNat
  (([guess - 1, guess, guess + 1, guess + 2].find? isAbove).getD (guess + 3))

/-- The decimal of at most `count` digits that reads back and is nearest to the number, if there is
one. -/
def onGrid? (significand : Nat) (exponent : Int) (above : Int) (count : Nat) : Option Decimal :=
  let (n, d) := timesPower significand 1 exponent
  let power := above - count
  let scaled := n * Nat.pow 10 (-power).toNat
  let unit := d * Nat.pow 10 power.toNat
  let low : Decimal := ⟨scaled / unit, power⟩
  let high : Decimal := ⟨scaled / unit + 1, power⟩
  match readsBack significand exponent low, readsBack significand exponent high with
  | true, true =>
    let twice := 2 * (scaled % unit)
    if twice < unit || (twice = unit && low.digits % 2 = 0) then some low else some high
  | true, false => some low
  | false, true => some high
  | false, false => none

/-- The shortest decimal that reads back as a positive number. Seventeen digits are enough. -/
def shortest (significand : Nat) (exponent : Int) : Decimal :=
  let (n, d) := timesPower significand 1 exponent
  let above := powerAbove n d
  (((List.range 17).map (· + 1)).findSome? (onGrid? significand exponent above)).getD
    ⟨n / d, 0⟩

/-- The digits of a decimal without the zeros at their end. -/
def Decimal.significant (d : Decimal) : List Char :=
  ((Nat.toDigits 10 d.digits).reverse.dropWhile (· = '0')).reverse

/-- The place of the decimal point, counted from before the first digit. -/
def Decimal.point (d : Decimal) : Int :=
  ((Nat.toDigits 10 d.digits).length : Int) + d.power

/-- Writes digits with the decimal point at a place. -/
def positional (digits : List Char) (point : Int) : List Char :=
  if point ≤ 0 then '0' :: '.' :: List.replicate (-point).toNat '0' ++ digits
  else
    let n := point.toNat
    if digits.length ≤ n then
      digits ++ List.replicate (n - digits.length) '0' ++ ['.', '0']
    else digits.take n ++ '.' :: digits.drop n

/-- Writes digits with an exponent of at least two digits. -/
def scientific (digits : List Char) (point : Int) : List Char :=
  let exponent := point - 1
  let size := Nat.toDigits 10 exponent.natAbs
  let mantissa :=
    match digits with
    | [] => []
    | [x] => [x]
    | x :: rest => x :: '.' :: rest
  mantissa ++ 'e' :: (if exponent < 0 then '-' else '+') ::
    List.replicate (2 - size.length) '0' ++ size

/-- Writes a number. -/
def render : Binary64 → String
  | .nan => "nan"
  | .infinity negative => if negative then "-inf" else "inf"
  | .finite negative significand exponent =>
    let text :=
      if significand = 0 then ['0', '.', '0']
      else
        let d := shortest significand exponent
        if -4 < d.point && d.point ≤ 16 then positional d.significant d.point
        else scientific d.significant d.point
    String.ofList (if negative then '-' :: text else text)

end Rulebook.Binary64
