/-!
# Binary floating point of 64 bits

Magnitudes of double precision, computed exactly: a result is formed as a quotient of natural
numbers and rounded once, to the nearest magnitude and from a tie to the even one. A result past the
largest magnitude is none.

## Main definitions

* `Binary64` — a finite magnitude, as a multiple of a power of two
* `Binary64.round?` — the magnitude nearest to a quotient
* `Binary64.mul?`, `Binary64.div?` — product and quotient of magnitudes
-/

namespace Tunnel

/-- The magnitude `mantissa * 2 ^ exponent`. -/
structure Binary64 where
  mantissa : Nat
  exponent : Int
deriving DecidableEq, Repr

namespace Binary64

/-- The least exponent, which the smallest magnitudes share. -/
def leastExponent : Int := -1074

/-- The greatest exponent. -/
def greatestExponent : Int := 971

/-- The quotient rounded to the nearest natural number, from a tie to the even one. -/
def divideToEven (num den : Nat) : Nat :=
  let quotient := num / den
  let twice := 2 * (num % den)
  if twice < den then quotient
  else if den < twice then quotient + 1
  else quotient + quotient % 2

/-- The exponent at which a quotient other than zero has 53 bits, or the least exponent. -/
def exponentOf (num den : Nat) : Int :=
  let bits : Int := (num.log2 : Int) - den.log2
  let below := if 0 ≤ bits then num < den <<< bits.toNat else num <<< (-bits).toNat < den
  max leastExponent (bits - if below then 53 else 52)

/-- The magnitude nearest to `num / den`, unless it is past the largest. -/
def round? (num den : Nat) : Option Binary64 :=
  if num = 0 then some ⟨0, leastExponent⟩
  else
    let exponent := exponentOf num den
    let mantissa :=
      if 0 ≤ exponent then divideToEven num (den <<< exponent.toNat)
      else divideToEven (num <<< (-exponent).toNat) den
    let rounded : Binary64 :=
      if mantissa = Nat.pow 2 53 then ⟨Nat.pow 2 52, exponent + 1⟩ else ⟨mantissa, exponent⟩
    if greatestExponent < rounded.exponent then none else some rounded

/-- The numerator of the magnitude over `2 ^ 1074`. -/
def scaled (x : Binary64) : Nat := x.mantissa <<< (x.exponent - leastExponent).toNat

/-- The denominator that goes with `scaled`. -/
def scale : Nat := Nat.pow 2 1074

/-- The magnitude nearest to a natural number. -/
def ofNat? (n : Nat) : Option Binary64 := round? n 1

/-- The product, rounded. -/
def mul? (x y : Binary64) : Option Binary64 := round? (x.scaled * y.scaled) (scale * scale)

/-- The quotient, rounded; the divisor is not zero. -/
def div? (x y : Binary64) : Option Binary64 := round? x.scaled y.scaled

/-- The magnitude zero. -/
def zero : Binary64 := ⟨0, leastExponent⟩

/-- Whether the magnitude is zero. -/
def isZero (x : Binary64) : Bool := x.mantissa == 0

end Binary64

end Tunnel
