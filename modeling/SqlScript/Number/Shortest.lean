import SqlScript.Number.Binary64
import SqlScript.Text.Basic

/-!
# Shortest decimals

The decimal that stands for a binary floating-point number is the one with the fewest digits among
those that are read as that number again, and of several such the nearest to it, or the one with
the even last digit where two are equally near. The numbers that are read as `m * 2 ^ q` lie
around it, half way to its two neighbours, with the ends included exactly when `m` is even. For 1,
2, … 17 digits the decimals just below and above the number are tried; if any decimal with so many
digits lies in between, one of these two does.

A decimal whose first digit stands for 10⁻⁴ up to 10¹⁵ is written with a point and at least one
digit on either side of it, and any other with an exponent of at least two digits behind its sign.
-/

namespace SqlScript.Number

open SqlScript

/-- The number of decimal digits of a natural number. -/
def digitCount (n : Nat) : Nat := (Nat.toDigits 10 n).length

/-- The `k` with `10 ^ (k - 1) ≤ num / den < 10 ^ k`, for a positive quotient that is not a power of
ten below one. -/
def decimalTop (num den : Nat) : Int :=
  if den ≤ num then digitCount (num / den) else 1 - digitCount (den / num)

/-- A positive number as a quotient, with the bounds of what is read as it over the same
denominator. -/
structure Neighbourhood where
  /-- The numerator of the number. -/
  value : Nat
  /-- The numerator of the lower bound. -/
  low : Nat
  /-- The numerator of the upper bound. -/
  high : Nat
  /-- The denominator of the three. -/
  den : Nat
  /-- Whether the bounds themselves are read as the number. -/
  closed : Bool

namespace Neighbourhood

/-- The neighbourhood of `significand * 2 ^ exponent`. The neighbour below a power of two is nearer
than the one above, unless it has the same exponent because there is no smaller. -/
def of (significand : Nat) (exponent : Int) : Neighbourhood :=
  let unit := powerUp 2 (exponent - 2)
  let below := if significand = Binary64.leastFull ∧ Binary64.leastExponent < exponent then 1 else 2
  { value := 4 * significand * unit
    low := (4 * significand - below) * unit
    high := (4 * significand + 2) * unit
    den := powerUp 2 (2 - exponent)
    closed := significand % 2 = 0 }

/-- Whether the quotient `num / den` is read as the number. -/
def holds (n : Neighbourhood) (num den : Nat) : Bool :=
  if n.closed then n.low * den ≤ num * n.den && num * n.den ≤ n.high * den
  else n.low * den < num * n.den && num * n.den < n.high * den

/-- The nearest decimal of `count` digits that is read as the number, when its first digit stands
`top` places before the point: the digits as one number. -/
def nearest? (n : Neighbourhood) (top : Int) (count : Nat) : Option Nat :=
  let up := powerUp 10 (top - count)
  let down := powerUp 10 (count - top)
  let below := n.value * down / (n.den * up)
  match n.holds (below * up) down, n.holds ((below + 1) * up) down with
  | true, true => some (roundQuotient (n.value * down) (n.den * up))
  | true, false => some below
  | false, true => some (below + 1)
  | false, false => none

/-- The digits of the shortest decimal, tried from `count` digits on, and the place of its point
behind the first of them. -/
def shortest (n : Neighbourhood) (top : Int) (count : Nat) : (tries : Nat) → Nat × Int
  | 0 => (0, top)
  | tries + 1 =>
    match n.nearest? top count with
    | some digits => (digits, top + digitCount digits - count)
    | none => shortest n top (count + 1) tries

end Neighbourhood

namespace Binary64

/-- The decimal digits of a number without the zeros at their end, of which one is kept if there is
nothing else. -/
def significantDigits (digits : Nat) : Text :=
  match ((Nat.toDigits 10 digits).reverse.dropWhile (· = '0')).reverse with
  | [] => ['0']
  | shown => shown

/-- Digits with a point behind the first `point` of them and at least one digit on either side. -/
def positional (digits : Text) (point : Int) : Text :=
  if point ≤ 0 then '0' :: '.' :: List.replicate (-point).toNat '0' ++ digits
  else
    let whole := point.toNat
    if digits.length ≤ whole then
      digits ++ List.replicate (whole - digits.length) '0' ++ ['.', '0']
    else digits.take whole ++ '.' :: digits.drop whole

/-- Digits with a point behind the first, and the exponent behind them. -/
def exponential (digits : Text) (point : Int) : Text :=
  let exponent := point - 1
  let shown := Text.ofNat exponent.natAbs
  let fraction := if digits.length ≤ 1 then [] else '.' :: digits.drop 1
  digits.take 1 ++ fraction ++ ['e', if exponent < 0 then '-' else '+'] ++
    (if shown.length < 2 then '0' :: shown else shown)

/-- The text of a number. -/
def text : Binary64 → Text
  | nan => "nan"
  | infinite negative => if negative then "-inf" else "inf"
  | finite negative significand exponent =>
    let shown : Text :=
      if significand = 0 then "0.0"
      else
        let n := Neighbourhood.of significand exponent
        let (digits, point) := n.shortest (decimalTop n.value n.den) 1 17
        if -4 < point ∧ point ≤ 16 then positional (significantDigits digits) point
        else exponential (significantDigits digits) point
    if negative then '-' :: shown else shown

end Binary64

end SqlScript.Number
