import Mathlib.Algebra.Group.Nat.Defs
import Mathlib.Data.List.Basic
import Mathlib.Data.List.Induction
import Tunnel.Text.Digits

/-!
# Numbers read back from their digits

A number that was written in a base is spelled by its digits, and a reader that takes all the digits
at the front of a text takes just those, if no digit follows them.

## Main definitions

* `Text.Spells` — a row of digits of a base, with the number that it spells
* `Text.Halts` — a text at whose front a reader of digits stops

## Main results

* `Text.numeral_toDigits` — the digits of a number spell it
* `Text.numeral_lt` — few digits spell no large number
* `Text.spells_ten_iff` — what decimal digits spell
* `Text.Spells.takeWhile_eq`, `Text.Spells.dropWhile_eq` — they are what is taken from the front
* `Text.head?_toDigits_ne` — no number but zero begins with a zero
-/

namespace Tunnel.Text

variable {base n : Nat} {rest : List Char}

theorem digitValue?_digitChar (hbase : base ≤ 16) (h : n < base) :
    digitValue? base (Nat.digitChar n) = some n := by
  have table : ∀ base < 17, ∀ n < base, digitValue? base (Nat.digitChar n) = some n := by decide
  exact table base (Nat.lt_succ_of_le hbase) n h

/-- The digits of a number in a base, taken off from the last one on. -/
theorem toDigits_induction {P : Nat → List Char → Prop} (hbase : 1 < base)
    (single : ∀ n < base, P n [Nat.digitChar n])
    (concat : ∀ n digits, base ≤ n → digits = Nat.toDigits base (n / base) → P (n / base) digits →
      P n (digits ++ [Nat.digitChar (n % base)])) (n : Nat) : P n (Nat.toDigits base n) := by
  induction n using Nat.strongRecOn with
  | ind n ih =>
    rcases Nat.lt_or_ge n base with hn | hn
    · rw [Nat.toDigits_of_lt_base hn]
      exact single n hn
    · rw [Nat.toDigits_of_base_le hbase hn]
      exact concat n _ hn rfl (ih (n / base) (Nat.div_lt_self (by omega) hbase))

/-- **The digits of a number spell it.** -/
theorem numeral_toDigits (hlt : 1 < base) (hle : base ≤ 16) (n : Nat) :
    numeral base (Nat.toDigits base n) = n := by
  refine toDigits_induction (P := fun n digits => numeral base digits = n) hlt ?_ ?_ n
  · intro n hn
    rw [← List.nil_append [n.digitChar], numeral_concat, digitValue?_digitChar hle hn]
    simp
  · intro n digits _ _ ih
    rw [numeral_concat, ih, digitValue?_digitChar hle (Nat.mod_lt n (by omega))]
    exact Nat.div_add_mod' n base

/-- A digit of a base is a digit of every greater one. -/
theorem isDigitOf_mono {larger : Nat} {c : Char} (hle : base ≤ larger)
    (h : isDigitOf base c = true) : isDigitOf larger c = true := by
  obtain ⟨value, hvalue⟩ := Option.isSome_iff_exists.1 h
  obtain ⟨hsome, hlt⟩ := Option.filter_eq_some_iff.1 hvalue
  have hlt : value < larger := Nat.lt_of_lt_of_le (by simpa using hlt) hle
  exact Option.isSome_iff_exists.2 ⟨value, Option.filter_eq_some_iff.2 ⟨hsome, by simpa using hlt⟩⟩

theorem isDigitOf_of_mem_toDigits (hlt : 1 < base) (hle : base ≤ 16) {c : Char}
    (h : c ∈ Nat.toDigits base n) : isDigitOf base c = true := by
  have hdigit : ∀ n < base, isDigitOf base (Nat.digitChar n) = true := by
    intro n hn
    rw [isDigitOf, digitValue?_digitChar hle hn]
    rfl
  refine toDigits_induction (P := fun _ digits => ∀ c ∈ digits, isDigitOf base c = true) hlt ?_ ?_
    n c h
  · intro n hn c hc
    rw [List.mem_singleton.1 hc]
    exact hdigit n hn
  · intro n digits _ _ ih c hc
    rcases List.mem_append.1 hc with hc | hc
    · exact ih c hc
    · rw [List.mem_singleton.1 hc]
      exact hdigit _ (Nat.mod_lt n (by omega))

/-- No number but zero begins with a zero. -/
theorem head?_toDigits_ne (hlt : 1 < base) (hn : n ≠ 0) :
    (Nat.toDigits base n).head? ≠ some '0' := by
  refine toDigits_induction (P := fun n digits => n ≠ 0 → digits.head? ≠ some '0') hlt ?_ ?_ n hn
  · intro n _ hn
    simpa [Nat.digitChar_eq_zero] using hn
  · intro n digits hge hdigits ih _
    obtain ⟨first, later, rfl⟩ := List.exists_cons_of_ne_nil (hdigits ▸ Nat.toDigits_ne_nil)
    exact ih (Nat.ne_of_gt (Nat.div_pos hge (by omega)))

/-! ### Digits at the front of a text -/

/-- No digit stands at the front of the text. -/
def Halts (base : Nat) (rest : List Char) : Prop := ∀ c ∈ rest.head?, isDigitOf base c = false

theorem halts_nil : Halts base [] := fun _ h => by simp at h

theorem halts_cons {c : Char} (h : isDigitOf base c = false) : Halts base (c :: rest) := by
  simpa [Halts] using h

theorem Halts.takeWhile_eq (h : Halts base rest) : rest.takeWhile (isDigitOf base) = [] := by
  cases rest with
  | nil => rfl
  | cons c rest => exact List.takeWhile_cons_of_neg (by simpa using h c rfl)

theorem Halts.dropWhile_eq (h : Halts base rest) : rest.dropWhile (isDigitOf base) = rest := by
  cases rest with
  | nil => rfl
  | cons c rest => exact List.dropWhile_cons_of_neg (by simpa using h c rfl)

theorem halts_dropWhile (base : Nat) (s : List Char) : Halts base (s.dropWhile (isDigitOf base)) :=
  fun c hc => by
    have hne := List.head?_dropWhile_not (isDigitOf base) s
    rw [hc] at hne
    simpa using hne

/-! ### Rows of digits -/

/-- The digits, one at least, spell the number. -/
structure Spells (base : Nat) (digits : List Char) (n : Nat) : Prop where
  ne_nil : digits ≠ []
  digit : ∀ c ∈ digits, isDigitOf base c = true
  numeral_eq : numeral base digits = n

variable {digits s : List Char}

theorem spells_toDigits (hlt : 1 < base) (hle : base ≤ 16) (n : Nat) :
    Spells base (Nat.toDigits base n) n where
  ne_nil := Nat.toDigits_ne_nil
  digit _ hc := isDigitOf_of_mem_toDigits hlt hle hc
  numeral_eq := numeral_toDigits hlt hle n

theorem spells_takeWhile (h : s.takeWhile (isDigitOf base) ≠ []) :
    Spells base (s.takeWhile (isDigitOf base)) (numeral base (s.takeWhile (isDigitOf base))) :=
  ⟨h, fun _ hc => List.all_eq_true.1 List.all_takeWhile _ hc, rfl⟩

theorem Spells.takeWhile_eq (h : Spells base digits n) (hrest : Halts base rest) :
    (digits ++ rest).takeWhile (isDigitOf base) = digits := by
  rw [List.takeWhile_append_of_pos h.digit, hrest.takeWhile_eq, List.append_nil]

theorem Spells.dropWhile_eq (h : Spells base digits n) (hrest : Halts base rest) :
    (digits ++ rest).dropWhile (isDigitOf base) = rest := by
  rw [List.dropWhile_append_of_pos h.digit, hrest.dropWhile_eq]

/-- Few digits spell no large number. -/
theorem numeral_lt (hpos : 0 < base) (digits : List Char) :
    numeral base digits < base ^ digits.length := by
  induction digits using List.reverseRecOn with
  | nil => exact Nat.one_pos
  | append_singleton digits d ih =>
    have hd : (digitValue? base d).getD 0 < base := by
      cases hvalue : digitValue? base d with
      | none => exact hpos
      | some value => exact digitValue?_lt hvalue
    rw [numeral_concat, List.length_append, List.length_singleton, Nat.pow_succ]
    exact Nat.lt_of_lt_of_le (Nat.add_lt_add_left hd _)
      ((Nat.succ_mul _ _).symm ▸ Nat.mul_le_mul_right base ih)

/-! ### Decimal digits -/

theorem digitValue?_ten (c : Char) :
    digitValue? 10 c = if c.isDigit then some (c.toNat - '0'.toNat) else none := by
  have hzero : '0'.toNat = 0x30 := rfl
  have hnine : '9'.toNat = 0x39 := rfl
  simp only [digitValue?, Char.isDigit_iff_toNat, hzero, hnine]
  by_cases hdigit : 0x30 ≤ c.toNat ∧ c.toNat ≤ 0x39
  · rw [if_pos hdigit, if_pos hdigit, Option.filter_some, if_pos (by simp; omega)]
  · rw [if_neg hdigit, if_neg hdigit]
    split
    · rw [Option.filter_some, if_neg (by simp)]
    split
    · rw [Option.filter_some, if_neg (by simp)]
    · rfl

theorem isDigitOf_ten (c : Char) : isDigitOf 10 c = c.isDigit := by
  rw [isDigitOf, digitValue?_ten]
  split <;> simp_all

/-- In base ten digits and their numbers are those of the library. -/
theorem spells_ten_iff : Spells 10 digits n ↔
    digits ≠ [] ∧ (∀ c ∈ digits, c.isDigit = true) ∧ Nat.ofDigitChars 10 digits 0 = n := by
  have hvalue (h : ∀ c ∈ digits, c.isDigit = true) :
      numeral 10 digits = Nat.ofDigitChars 10 digits 0 := by
    refine List.foldl_ext _ _ 0 fun m c hc => ?_
    rw [digitValue?_ten, if_pos (h c hc), Option.getD_some, Nat.mul_comm]
  constructor
  · rintro ⟨hne, hdigit, rfl⟩
    simp only [isDigitOf_ten] at hdigit
    exact ⟨hne, hdigit, (hvalue hdigit).symm⟩
  · rintro ⟨hne, hdigit, rfl⟩
    refine ⟨hne, ?_, hvalue hdigit⟩
    simpa only [isDigitOf_ten] using hdigit

end Tunnel.Text
