/-!
# Blank characters

The characters of the Unicode property `White_Space`, and trimming by it. Route prefixes are
trimmed this way before they are read, so that a no-break or ideographic space around an address
does no harm. The set is larger than the ASCII blanks of `Char.isWhitespace`.

## Main definitions

* `Text.isBlank` — the property
* `Text.trim` — a text without the blanks at its two ends

## Main results

* `Text.isBlank_of_isWhitespace` — every ASCII blank is a blank
* `Text.trim_eq_self` — a text with no blank at either end is left alone
-/

namespace Tunnel.Text

/-- The Unicode property `White_Space`. -/
def isBlank (c : Char) : Bool :=
  let n := c.toNat
  (0x09 ≤ n && n ≤ 0x0D) || n == 0x20 || n == 0x85 || n == 0xA0 || n == 0x1680 ||
    (0x2000 ≤ n && n ≤ 0x200A) || n == 0x2028 || n == 0x2029 || n == 0x202F || n == 0x205F ||
    n == 0x3000

theorem isBlank_of_isWhitespace {c : Char} (h : c.isWhitespace = true) : isBlank c = true := by
  simp only [Char.isWhitespace, Bool.or_eq_true, decide_eq_true_eq] at h
  rcases h with ((rfl | rfl) | rfl) | rfl <;> rfl

/-- The text without the blanks at its end. -/
def trimEnd (s : List Char) : List Char := (s.reverse.dropWhile isBlank).reverse

/-- The text without the blanks at its two ends. -/
def trim (s : List Char) : List Char := trimEnd (s.dropWhile isBlank)

@[simp] theorem trim_nil : trim [] = [] := rfl

theorem trimEnd_concat {s : List Char} {c : Char} (h : isBlank c = false) :
    trimEnd (s ++ [c]) = s ++ [c] := by
  simp [trimEnd, h]

/-- A text whose first and last characters are no blanks is its own trimmed form. -/
theorem trim_eq_self {s : List Char} (hfirst : ∀ c ∈ s.head?, isBlank c = false)
    (hlast : ∀ c ∈ s.getLast?, isBlank c = false) : trim s = s := by
  cases s with
  | nil => rfl
  | cons c r =>
    have hc : isBlank c = false := hfirst c (by simp)
    rw [trim, List.dropWhile_cons_of_neg (by simp [hc])]
    rcases List.eq_nil_or_concat (c :: r) with h | ⟨front, last, h⟩
    · simp at h
    · rw [h, List.concat_eq_append]
      exact trimEnd_concat (hlast last (by simp [h]))

end Tunnel.Text
