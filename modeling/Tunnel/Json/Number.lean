import Tunnel.Json.Reader

/-!
# JSON numbers

A number without fraction and exponent is an integer if it fits into 64 bits; any other is a binary
floating-point number. Of the significant digits as many count as fit into an unsigned word of 64
bits; that word is rounded, and then multiplied or divided by a rounded power of ten.

## Main definitions

* `Json.Significand` — the digits that count, and the power of ten that goes with them
* `Json.readNumber` — a number, which may begin with a minus sign
* `Json.skipNumber` — a number of which only the form counts

## Main results

* `Json.skipNumber_length_lt` — leaving out a number shortens the text
-/

namespace Tunnel.Json

/-- Whether `c` is a decimal digit. -/
abbrev isDigit (c : Char) : Bool := Text.isDigitOf 10 c

/-- The digits of a number that count, as `value * 10 ^ exponent`. -/
structure Significand where
  value : Nat
  exponent : Int
deriving DecidableEq, Repr

namespace Significand

/-- The significand with one more digit, if it still fits into 64 bits. -/
def push? (value : Nat) (digit : Char) : Option Nat :=
  let next := value * 10 + (Text.digitValue? 10 digit).getD 0
  if next < Nat.pow 2 64 then some next else none

/-- Takes digits as long as they fit; the answer tells how many digits are left. -/
def pushAll (value : Nat) : List Char → Nat × Nat
  | [] => (value, 0)
  | digit :: digits =>
    match push? value digit with
    | some next => pushAll next digits
    | none => (value, digits.length + 1)

/-- The digits before the point. Those that do not fit raise the exponent. -/
def ofInteger (digits : List Char) : Significand :=
  let (value, left) := pushAll 0 digits
  ⟨value, left⟩

/-- The significand with the digits behind the point. Those that do not fit are left out. -/
def withFraction (x : Significand) (digits : List Char) : Significand :=
  let (value, left) := pushAll x.value digits
  ⟨value, x.exponent - ((digits.length - left : Nat) : Int)⟩

/-- A power of ten, rounded. -/
def powerOfTen? (exponent : Nat) : Option Binary64 :=
  Binary64.ofNat? (Nat.pow 10 exponent)

/-- The greatest power of ten that is a magnitude. -/
def greatestPower : Nat := 308

/-- The magnitude divided by the greatest power of ten, so many times. -/
def stepDown : Nat → Binary64 → Option Binary64
  | 0, magnitude => some magnitude
  | steps + 1, magnitude =>
    if magnitude.isZero then some magnitude
    else (powerOfTen? greatestPower).bind magnitude.div? |>.bind (stepDown steps)

/-- The magnitude divided by a power of ten, which is taken in steps if it is too great for one. -/
def scaleDown (magnitude : Binary64) (exponent : Nat) : Option Binary64 :=
  let steps := (exponent - 1) / greatestPower
  (stepDown steps magnitude).bind fun smaller =>
    (powerOfTen? (exponent - steps * greatestPower)).bind smaller.div?

/-- The magnitude times a power of ten. -/
def scaleUp (magnitude : Binary64) (exponent : Nat) : Option Binary64 :=
  if exponent ≤ greatestPower then (powerOfTen? exponent).bind magnitude.mul?
  else if magnitude.isZero then some magnitude
  else none

/-- The magnitude that the significand stands for. -/
def magnitude (x : Significand) : Except Fault Binary64 :=
  let scaled := (Binary64.ofNat? x.value).bind fun word =>
    if 0 ≤ x.exponent then scaleUp word x.exponent.toNat else scaleDown word (-x.exponent).toNat
  scaled.elim (.error .numberOutOfRange) .ok

end Significand

/-- The greatest exponent that is counted; a larger one is as good as unbounded. -/
def greatestExponent : Nat := Nat.pow 2 31 - 1

/-- The digits at the front of a text. -/
def takeDigits (s : List Char) : List Char × List Char := (s.takeWhile isDigit, s.dropWhile isDigit)

/-- A floating-point number without exponent. -/
def finishFloat (negative : Bool) (x : Significand) (rest : List Char) : Reading Found :=
  x.magnitude.map fun magnitude => (.floating negative magnitude, rest)

/-- The exponent behind its letter. -/
def readExponent (negative : Bool) (x : Significand) (s : List Char) : Reading Found :=
  let (down, s) := match s with
    | '+' :: rest => (false, rest)
    | '-' :: rest => (true, rest)
    | _ => (false, s)
  match takeDigits s with
  | ([], []) => .error .endInValue
  | ([], _ :: _) => .error .invalidNumber
  | (digits, rest) =>
    let exponent := Text.numeral 10 digits
    if greatestExponent < exponent then
      if x.value ≠ 0 ∧ !down then .error .numberOutOfRange
      else .ok (.floating negative Binary64.zero, rest)
    else
      let shifted : Significand :=
        ⟨x.value, if down then x.exponent - exponent else x.exponent + exponent⟩
      finishFloat negative shifted rest

/-- The fraction behind its point, and the exponent if there is one. -/
def readFraction (negative : Bool) (x : Significand) (s : List Char) : Reading Found :=
  match takeDigits s with
  | ([], []) => .error .endInValue
  | ([], _ :: _) => .error .invalidNumber
  | (digits, 'e' :: rest) | (digits, 'E' :: rest) =>
    readExponent negative (x.withFraction digits) rest
  | (digits, rest) => finishFloat negative (x.withFraction digits) rest

/-- A number that ends with its integer part. Minus zero is no integer. -/
def finishInteger (negative : Bool) (x : Significand) (rest : List Char) : Reading Found :=
  if x.exponent ≠ 0 then finishFloat negative x rest
  else if !negative then .ok (.integer x.value, rest)
  else if x.value = 0 ∨ Nat.pow 2 63 < x.value then finishFloat negative x rest
  else .ok (.integer (-x.value), rest)

/-- What follows the integer part. -/
def readTail (negative : Bool) (x : Significand) (s : List Char) : Reading Found :=
  match s with
  | '.' :: rest => readFraction negative x rest
  | 'e' :: rest | 'E' :: rest => readExponent negative x rest
  | _ => finishInteger negative x s

/-- A number behind its sign. A leading zero stands alone. -/
def readUnsigned (negative : Bool) (s : List Char) : Reading Found :=
  match takeDigits s with
  | ([], []) => .error .endInValue
  | ([], _ :: _) => .error .invalidNumber
  | ('0' :: _ :: _, _) => .error .invalidNumber
  | (digits, rest) => readTail negative (Significand.ofInteger digits) rest

/-- A number. -/
def readNumber (s : List Char) : Reading Found :=
  match s with
  | '-' :: rest => readUnsigned true rest
  | _ => readUnsigned false s

/-! ### Numbers that are left out -/

/-- The digits of an exponent, of which only the form counts. -/
def skipExponentDigits (s : List Char) : Except Fault (List Char) :=
  match takeDigits s with
  | ([], _) => .error .invalidNumber
  | (_ :: _, rest) => .ok rest

/-- The exponent behind its letter, of which only the form counts. -/
def skipExponent (s : List Char) : Except Fault (List Char) :=
  match s with
  | '+' :: rest | '-' :: rest => skipExponentDigits rest
  | _ => skipExponentDigits s

/-- The fraction behind its point, of which only the form counts. -/
def skipFraction (s : List Char) : Except Fault (List Char) :=
  match takeDigits s with
  | ([], _) => .error .invalidNumber
  | (_ :: _, 'e' :: rest) | (_ :: _, 'E' :: rest) => skipExponent rest
  | (_ :: _, rest) => .ok rest

/-- A number behind its sign, of which only the form counts, so that none is out of range. -/
def skipUnsigned (s : List Char) : Except Fault (List Char) :=
  match takeDigits s with
  | ([], _) => .error .invalidNumber
  | ('0' :: _ :: _, _) => .error .invalidNumber
  | (_ :: _, '.' :: rest) => skipFraction rest
  | (_ :: _, 'e' :: rest) | (_ :: _, 'E' :: rest) => skipExponent rest
  | (_ :: _, rest) => .ok rest

/-- A number of which only the form counts. -/
def skipNumber (s : List Char) : Except Fault (List Char) :=
  match s with
  | '-' :: rest => skipUnsigned rest
  | _ => skipUnsigned s

theorem length_of_takeDigits {s digits rest : List Char} (h : takeDigits s = (digits, rest)) :
    digits.length + rest.length = s.length := by
  cases h
  rw [← List.length_append, List.takeWhile_append_dropWhile]

theorem length_lt_of_takeDigits_cons {s digits rest : List Char} {d : Char}
    (h : takeDigits s = (d :: digits, rest)) : rest.length < s.length := by
  have := length_of_takeDigits h
  rw [List.length_cons] at this
  omega

/-- The mark behind digits is gone as well where something is taken off what follows it. -/
theorem length_lt_of_takeDigits_mark {s digits after rest : List Char} {d mark : Char}
    (hdigits : takeDigits s = (d :: digits, mark :: after)) (h : rest.length < after.length) :
    rest.length < s.length := by
  have := length_lt_of_takeDigits_cons hdigits
  rw [List.length_cons] at this
  omega

theorem skipExponentDigits_length_lt {s rest : List Char} (h : skipExponentDigits s = .ok rest) :
    rest.length < s.length := by
  rw [skipExponentDigits] at h
  split at h
  · cases h
  · next hdigits =>
    cases h
    exact length_lt_of_takeDigits_cons hdigits

theorem skipExponent_length_lt {s rest : List Char} (h : skipExponent s = .ok rest) :
    rest.length < s.length := by
  unfold skipExponent at h
  split at h
  · exact Nat.lt_succ_of_lt (skipExponentDigits_length_lt h)
  · exact Nat.lt_succ_of_lt (skipExponentDigits_length_lt h)
  · exact skipExponentDigits_length_lt h

theorem skipFraction_length_lt {s rest : List Char} (h : skipFraction s = .ok rest) :
    rest.length < s.length := by
  rw [skipFraction] at h
  split at h
  · cases h
  · next hdigits =>
    exact length_lt_of_takeDigits_mark hdigits (skipExponent_length_lt h)
  · next hdigits =>
    exact length_lt_of_takeDigits_mark hdigits (skipExponent_length_lt h)
  · next hdigits =>
    cases h
    exact length_lt_of_takeDigits_cons hdigits

theorem skipUnsigned_length_lt {s rest : List Char} (h : skipUnsigned s = .ok rest) :
    rest.length < s.length := by
  rw [skipUnsigned] at h
  split at h
  · cases h
  · cases h
  · next hdigits =>
    exact length_lt_of_takeDigits_mark hdigits (skipFraction_length_lt h)
  · next hdigits =>
    exact length_lt_of_takeDigits_mark hdigits (skipExponent_length_lt h)
  · next hdigits =>
    exact length_lt_of_takeDigits_mark hdigits (skipExponent_length_lt h)
  · next hdigits =>
    cases h
    exact length_lt_of_takeDigits_cons hdigits

theorem skipNumber_length_lt {s rest : List Char} (h : skipNumber s = .ok rest) :
    rest.length < s.length := by
  unfold skipNumber at h
  split at h
  · exact Nat.lt_succ_of_lt (skipUnsigned_length_lt h)
  · exact skipUnsigned_length_lt h

end Tunnel.Json
