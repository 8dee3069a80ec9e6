/-!
# Digits

Reading numbers in decimal and hexadecimal: which characters are digits of a base, how many stand
at the front of a text, and what number they spell.

## Main definitions

* `Text.digitValue?` — the value of a character as a digit
* `Text.isDigitOf` — whether it is one
* `Text.numeral` — the number that a row of digits spells
* `Text.hexDigits` — a number in lower-case hexadecimal

## Main results

* `Text.takeWhile_append_dropWhile_digits` — splitting off the digits at the front loses nothing
* `Text.numeral_concat` — appending a digit multiplies and adds
* `Text.isDigitOf_of_mem_hexDigits` — a number is written in digits of its base
-/

namespace Tunnel.Text

/-- The value of `c` as a digit of `base`, which is at most 16. Letters count in both cases. -/
def digitValue? (base : Nat) (c : Char) : Option Nat :=
  let n := c.toNat
  let value :=
    if 0x30 ≤ n ∧ n ≤ 0x39 then some (n - 0x30)
    else if 0x61 ≤ n ∧ n ≤ 0x66 then some (n - 0x61 + 10)
    else if 0x41 ≤ n ∧ n ≤ 0x46 then some (n - 0x41 + 10)
    else none
  value.filter (· < base)

/-- Whether `c` is a digit of `base`. -/
def isDigitOf (base : Nat) (c : Char) : Bool := (digitValue? base c).isSome

/-- The number that the digits spell, the first being the most significant. -/
def numeral (base : Nat) (digits : List Char) : Nat :=
  digits.foldl (fun n d => n * base + (digitValue? base d).getD 0) 0

/-- `n` in hexadecimal with lower-case digits and no leading zero. -/
def hexDigits (n : Nat) : List Char := Nat.toDigits 16 n

/-- `n` in decimal with no leading zero. -/
def decimalDigits (n : Nat) : List Char := Nat.toDigits 10 n

theorem digitValue?_lt {base n : Nat} {c : Char} (h : digitValue? base c = some n) : n < base := by
  simpa using (Option.filter_eq_some_iff.1 h).2

theorem takeWhile_append_dropWhile_digits (base : Nat) (s : List Char) :
    s.takeWhile (isDigitOf base) ++ s.dropWhile (isDigitOf base) = s :=
  List.takeWhile_append_dropWhile

@[simp] theorem numeral_nil (base : Nat) : numeral base [] = 0 := rfl

theorem numeral_concat (base : Nat) (digits : List Char) (d : Char) :
    numeral base (digits ++ [d]) = numeral base digits * base + (digitValue? base d).getD 0 := by
  simp [numeral]

theorem isDigitOf_digitChar : ∀ n < 16, isDigitOf 16 (Nat.digitChar n) = true := by decide

/-- A number is written in digits of its base. -/
theorem isDigitOf_of_mem_hexDigits {n : Nat} {c : Char} (h : c ∈ hexDigits n) :
    isDigitOf 16 c = true := by
  induction n using Nat.strongRecOn with
  | ind n ih =>
    rw [hexDigits] at h
    rcases Nat.lt_or_ge n 16 with hn | hn
    · rw [Nat.toDigits_of_lt_base hn, List.mem_singleton] at h
      exact h ▸ isDigitOf_digitChar n hn
    · rw [Nat.toDigits_of_base_le (by decide) hn, List.mem_append, List.mem_singleton] at h
      rcases h with h | rfl
      · exact ih (n / 16) (by omega) h
      · exact isDigitOf_digitChar _ (Nat.mod_lt n (by decide))

end Tunnel.Text
