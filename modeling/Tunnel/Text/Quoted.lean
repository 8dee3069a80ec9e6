import Tunnel.Text.Digits
import Tunnel.Text.GraphemeExtend
import Tunnel.Text.Unprintable

/-!
# Quoted text

How a message quotes a text that may hold anything: between double quotes, with the quote and the
backslash escaped, the common controls by letter, and every other character that would not show as
itself by its number.

## Main definitions

* `Text.escape` — one character as it stands inside quotes
* `Text.quote` — a quoted text

## Main results

* `Text.escape_of_graphic` — printable ASCII other than quote and backslash stands for itself
* `Text.quote_eq_of_graphic` — so a text of such characters is quoted verbatim
-/

namespace Tunnel.Text

/-- A character spelt by its number. -/
def escapeByNumber (c : Char) : List Char :=
  '\\' :: 'u' :: '{' :: (hexDigits c.toNat ++ ['}'])

/-- The fillers of the Hangul script: letters that leave their place empty. -/
def isFiller (c : Char) : Bool := [0x115F, 0x1160, 0x3164, 0xFFA0].contains c.toNat

/-- Whether a character would be drawn on top of the one before it. The two half-width sound marks
of Katakana extend what they follow, but have a place of their own. -/
def isAttached (c : Char) : Bool :=
  isGraphemeExtend c && !(0xFF9E ≤ c.toNat && c.toNat ≤ 0xFF9F)

/-- Whether a character is spelt by its number: it has no printed form, or it would attach to the
character before it. Printable ASCII is settled without the tables. -/
def needsNumber (c : Char) : Bool :=
  !(0x20 ≤ c.toNat && c.toNat ≤ 0x7E) && (isAttached c || isFiller c || isUnprintable c)

/-- One character as it stands between double quotes. -/
def escape (c : Char) : List Char :=
  if c = '\x00' then ['\\', '0']
  else if c = '\t' then ['\\', 't']
  else if c = '\r' then ['\\', 'r']
  else if c = '\n' then ['\\', 'n']
  else if c = '\\' then ['\\', '\\']
  else if c = '"' then ['\\', '"']
  else if needsNumber c then escapeByNumber c
  else [c]

/-- The text between double quotes, escaped character by character. -/
def quote (s : String) : String := String.ofList ('"' :: (s.toList.flatMap escape ++ ['"']))

theorem escape_of_graphic {c : Char} (h : 0x20 ≤ c.toNat ∧ c.toNat ≤ 0x7E) (hquote : c ≠ '"')
    (hslash : c ≠ '\\') : escape c = [c] := by
  have ne_of_low : ∀ d : Char, d.toNat < 0x20 → c ≠ d := by
    rintro d hd rfl
    omega
  rw [escape, if_neg (ne_of_low _ (by decide)), if_neg (ne_of_low _ (by decide)),
    if_neg (ne_of_low _ (by decide)), if_neg (ne_of_low _ (by decide)), if_neg hslash,
    if_neg hquote, if_neg]
  simp [needsNumber, h]

theorem flatMap_escape_eq {s : List Char}
    (h : ∀ c ∈ s, (0x20 ≤ c.toNat ∧ c.toNat ≤ 0x7E) ∧ c ≠ '"' ∧ c ≠ '\\') :
    s.flatMap escape = s := by
  induction s with
  | nil => rfl
  | cons c r ih =>
    have ⟨hc, hquote, hslash⟩ := h c List.mem_cons_self
    rw [List.flatMap_cons, escape_of_graphic hc hquote hslash,
      ih fun d hd => h d (List.mem_cons_of_mem c hd), List.singleton_append]

/-- A text of printable ASCII without quotes and backslashes is quoted verbatim. -/
theorem quote_eq_of_graphic {s : String}
    (h : ∀ c ∈ s.toList, (0x20 ≤ c.toNat ∧ c.toNat ≤ 0x7E) ∧ c ≠ '"' ∧ c ≠ '\\') :
    quote s = String.ofList ('"' :: (s.toList ++ ['"'])) := by
  rw [quote, flatMap_escape_eq h]

end Tunnel.Text
