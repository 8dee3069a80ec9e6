import Tunnel.Number.Binary64
import Tunnel.Text.Digits

/-!
# Shortest decimals

The decimal with the fewest digits among those that are read as a given magnitude, the nearest of
these to it. It is found on the decimal grids from the coarsest to the finest: on each, only the two
neighbours of the magnitude have to be tried.

## Main definitions

* `Binary64.Decimal` — a decimal number
* `Binary64.shortest` — the shortest decimal that is read as a magnitude
* `Binary64.render` — its text, positional from `0.00001` up to below `10 ^ 16`
-/

namespace Tunnel.Binary64

/-- The number `digits * 10 ^ exponent`. -/
structure Decimal where
  digits : Nat
  exponent : Int
deriving DecidableEq, Repr

/-- A range of rational numbers that are read as the same magnitude, as numerators over a common
denominator. -/
structure Cell where
  low : Nat
  value : Nat
  high : Nat
  denominator : Nat
  /-- Whether the two ends belong to it. -/
  closed : Bool

/-- What is read as the magnitude `x`: all that lies nearer to it than to its neighbours. -/
def cell (x : Binary64) : Cell :=
  let unit := x.scaled / x.mantissa
  let below := if x.mantissa = Nat.pow 2 52 ∧ leastExponent < x.exponent then unit else 2 * unit
  ⟨4 * x.scaled - below, 4 * x.scaled, 4 * x.scaled + 2 * unit, 4 * scale, x.mantissa % 2 = 0⟩

/-- Whether `num / den` lies in the cell. -/
def Cell.contains (c : Cell) (num den : Nat) : Bool :=
  let n := num * c.denominator
  if c.closed then c.low * den ≤ n && n ≤ c.high * den
  else c.low * den < n && n < c.high * den

/-- A decimal as a quotient. -/
def Decimal.quotient (d : Decimal) : Nat × Nat :=
  if 0 ≤ d.exponent then (d.digits * Nat.pow 10 d.exponent.toNat, 1)
  else (d.digits, Nat.pow 10 (-d.exponent).toNat)

/-- How far apart two quotients are, over the product of their denominators. -/
def distance (num den num' den' : Nat) : Nat :=
  (num * den' - num' * den) + (num' * den - num * den')

/-- The decimal of the grid with this exponent that lies in the cell: the nearer one of two, and
from a tie the even one. -/
def Cell.onGrid? (c : Cell) (exponent : Int) : Option Decimal :=
  let under : Nat :=
    if 0 ≤ exponent then c.value / (c.denominator * Nat.pow 10 exponent.toNat)
    else c.value * Nat.pow 10 (-exponent).toNat / c.denominator
  let candidates := [under, under + 1].map fun digits => (⟨digits, exponent⟩ : Decimal)
  let hits := candidates.filter fun d => c.contains d.quotient.1 d.quotient.2
  match hits with
  | [] => none
  | [d] => some d
  | d :: e :: _ =>
    let far (x : Decimal) := distance x.quotient.1 x.quotient.2 c.value c.denominator
    if far d < far e then some d
    else if far e < far d then some e
    else if d.digits % 2 = 0 then some d else some e

/-- The exponent of a grid that is too coarse for the quotient: a power of ten above it, from the
number of its binary digits. -/
def pointPlace (num den : Nat) : Int :=
  if den ≤ num then ((num / den).log2 * 30103 / 100000 : Nat) + 2
  else 1 - ((den / num).log2 * 30103 / 100000 : Nat)

/-- The first hit on the grids from `exponent` downwards. -/
def Cell.search (c : Cell) : (tries : Nat) → (exponent : Int) → Decimal
  | 0, exponent => ⟨c.value / c.denominator, exponent⟩
  | tries + 1, exponent =>
    match c.onGrid? exponent with
    | some d => if d.digits = 0 then c.search tries (exponent - 1) else d
    | none => c.search tries (exponent - 1)

/-- A decimal whose last digit is not zero. -/
def Decimal.stripped (d : Decimal) : Decimal :=
  let digits := (Text.decimalDigits d.digits).reverse
  let zeros := (digits.takeWhile (· = '0')).length
  ⟨d.digits / Nat.pow 10 zeros, d.exponent + zeros⟩

/-- The shortest decimal that is read as the magnitude, which is not zero. -/
def shortest (x : Binary64) : Decimal :=
  let c := x.cell
  (c.search 24 (pointPlace c.value c.denominator)).stripped

/-- A decimal with a point, and at least one digit on each side of it. -/
def Decimal.positional (d : Decimal) : List Char :=
  let digits := Text.decimalDigits d.digits
  if 0 ≤ d.exponent then digits ++ List.replicate d.exponent.toNat '0' ++ ['.', '0']
  else
    let places := (-d.exponent).toNat
    if places < digits.length then
      digits.take (digits.length - places) ++ '.' :: digits.drop (digits.length - places)
    else '0' :: '.' :: (List.replicate (places - digits.length) '0' ++ digits)

/-- A decimal with one digit before the point and a signed power of ten behind it. -/
def Decimal.scientific (d : Decimal) : List Char :=
  let digits := Text.decimalDigits d.digits
  let power : Int := d.exponent + (digits.length - 1 : Nat)
  let mantissa := match digits with
    | [] => ['0']
    | [single] => [single]
    | first :: more => first :: '.' :: more
  mantissa ++ 'e' :: (if power < 0 then '-' else '+') :: Text.decimalDigits power.natAbs

/-- The text of a magnitude: positional from `0.00001` up to below `10 ^ 16`. -/
def render (x : Binary64) : List Char :=
  if x.isZero then ['0', '.', '0']
  else
    let d := x.shortest
    let power : Int := d.exponent + ((Text.decimalDigits d.digits).length - 1 : Nat)
    if -5 ≤ power ∧ power < 16 then d.positional else d.scientific

end Tunnel.Binary64
