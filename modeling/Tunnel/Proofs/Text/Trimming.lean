import Tunnel.Text.Blank
import Tunnel.Text.Digits

/-!
# Trimming

What it is for a text to be another one without the blanks at its ends, and that trimming comes to
this.

## Main definitions

* `Text.Trimmed` — a text without the blanks at its ends

## Main results

* `Text.isBlank_of_isDigitOf` — a digit is no blank
* `Text.trimmed_iff` — trimming takes off the blanks at the two ends and nothing else
-/

namespace Tunnel.Text

variable {s t : List Char}

theorem isBlank_of_isDigitOf {base : Nat} {c : Char} (h : isDigitOf base c = true) :
    isBlank c = false := by
  obtain ⟨value, hvalue⟩ := Option.isSome_iff_exists.1 h
  have hsome := (Option.filter_eq_some_iff.1 hvalue).1
  have hrange : 0x30 ≤ c.toNat ∧ c.toNat ≤ 0x66 := by
    split at hsome
    · omega
    split at hsome
    · omega
    split at hsome
    · omega
    · cases hsome
  simp only [isBlank, Bool.or_eq_false_iff, Bool.and_eq_false_iff, decide_eq_false_iff_not,
    beq_eq_false_iff_ne]
  omega

/-- The text `t` is the text `s` without the blanks at its ends. -/
structure Trimmed (s t : List Char) : Prop where
  eq_append : ∃ left right, s = left ++ (t ++ right) ∧
    (∀ c ∈ left, isBlank c = true) ∧ ∀ c ∈ right, isBlank c = true
  first : ∀ c ∈ t.head?, isBlank c = false
  last : ∀ c ∈ t.getLast?, isBlank c = false

theorem dropWhile_isBlank (h : ∀ c ∈ t.head?, isBlank c = false) : t.dropWhile isBlank = t := by
  cases t with
  | nil => rfl
  | cons c later => exact List.dropWhile_cons_of_neg (by simp [h c rfl])

theorem trimEnd_append {right : List Char} (hright : ∀ c ∈ right, isBlank c = true)
    (hlast : ∀ c ∈ t.getLast?, isBlank c = false) : trimEnd (t ++ right) = t := by
  have hreverse : ∀ c ∈ right.reverse, isBlank c = true := fun c hc =>
    hright c (List.mem_reverse.1 hc)
  rw [trimEnd, List.reverse_append, List.dropWhile_append_of_pos hreverse,
    dropWhile_isBlank (by rwa [List.head?_reverse]), List.reverse_reverse]

theorem isBlank_of_mem_dropWhile {c : Char} (h : c ∈ (s.dropWhile isBlank).head?) :
    isBlank c = false := by
  have hnot := List.head?_dropWhile_not isBlank s
  rw [h] at hnot
  simpa using hnot

theorem trimmed_trim (s : List Char) : Trimmed s (trim s) := by
  have hstart : s.takeWhile isBlank ++ s.dropWhile isBlank = s := List.takeWhile_append_dropWhile
  have hend : trim s ++ ((s.dropWhile isBlank).reverse.takeWhile isBlank).reverse =
      s.dropWhile isBlank := by
    rw [trim, trimEnd, ← List.reverse_append, List.takeWhile_append_dropWhile,
      List.reverse_reverse]
  constructor
  · refine ⟨_, _, hend.symm ▸ hstart.symm, List.all_eq_true.1 List.all_takeWhile, fun c hc => ?_⟩
    exact List.all_eq_true.1 List.all_takeWhile c (List.mem_reverse.1 hc)
  · intro c hc
    apply isBlank_of_mem_dropWhile (s := s)
    rw [← hend, List.head?_append, Option.mem_def.1 hc]
    rfl
  · intro c hc
    rw [trim, trimEnd, List.getLast?_reverse] at hc
    exact isBlank_of_mem_dropWhile hc

/-- **Trimming takes off the blanks at the two ends**, and nothing else. -/
theorem trimmed_iff : Trimmed s t ↔ trim s = t := by
  constructor
  · rintro ⟨⟨left, right, rfl, hleft, hright⟩, hfirst, hlast⟩
    rw [trim, List.dropWhile_append_of_pos hleft]
    cases t with
    | nil =>
      rw [List.nil_append, ← List.append_nil right, List.dropWhile_append_of_pos hright]
      rfl
    | cons c later =>
      rw [dropWhile_isBlank (t := c :: later ++ right) hfirst]
      exact trimEnd_append hright hlast
  · rintro rfl
    exact trimmed_trim s

end Tunnel.Text
