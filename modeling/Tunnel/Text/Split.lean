/-!
# Splitting text

The parts of a text between separators. There is always one part more than there are separators.

## Main definitions

* `Text.splitAt` — the parts of a text

## Main results

* `Text.length_splitAt` — how many parts there are
* `Text.intercalate_splitAt` — the parts with the separators between them are the text
-/

namespace Tunnel.Text

/-- Puts a character in front of the first part. -/
def consHead (c : Char) : List (List Char) → List (List Char)
  | [] => [[c]]
  | part :: parts => (c :: part) :: parts

/-- The parts of the text between separators. -/
def splitAt (separator : Char) : List Char → List (List Char)
  | [] => [[]]
  | c :: rest =>
    if c = separator then [] :: splitAt separator rest else consHead c (splitAt separator rest)

theorem splitAt_ne_nil (separator : Char) (s : List Char) : splitAt separator s ≠ [] := by
  cases s with
  | nil => simp [splitAt]
  | cons c rest =>
    simp only [splitAt]
    split
    · simp
    · cases splitAt separator rest <;> simp [consHead]

theorem length_splitAt (separator : Char) (s : List Char) :
    (splitAt separator s).length = s.count separator + 1 := by
  induction s with
  | nil => rfl
  | cons c rest ih =>
    by_cases h : c = separator
    · simp [splitAt, h, ih]
    · cases hrest : splitAt separator rest with
      | nil => exact absurd hrest (splitAt_ne_nil separator rest)
      | cons part parts => simp_all [splitAt, consHead]

theorem intercalate_splitAt (separator : Char) (s : List Char) :
    [separator].intercalate (splitAt separator s) = s := by
  induction s with
  | nil => rfl
  | cons c rest ih =>
    cases hrest : splitAt separator rest with
    | nil => exact absurd hrest (splitAt_ne_nil separator rest)
    | cons part parts =>
      rw [hrest] at ih
      by_cases h : c = separator
      · simp only [splitAt, h, if_true, hrest]
        rw [List.intercalate_cons_cons]
        simp [ih]
      · simp only [splitAt, h, if_false, hrest, consHead]
        cases parts with
        | nil => simpa [List.intercalate] using ih
        | cons next more =>
          rw [List.intercalate_cons_cons] at ih ⊢
          simp_all

end Tunnel.Text
