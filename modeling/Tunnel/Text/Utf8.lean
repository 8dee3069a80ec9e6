import Tunnel.Bytes

/-!
# Text as octets

The UTF-8 octets of a text, which is how names cross into the kernel and texts into files, and
places in a text that are counted in octets. A place inside a character counts as the one behind it.

## Main definitions

* `Bytes.ofChars`, `Bytes.ofText` — the octets of a text
* `Bytes.toText?` — the text with given octets
* `Text.octetLength`, `Text.takeOctets`, `Text.dropOctets` — places in a text

## Main results

* `Bytes.ofChars_append`, `Bytes.ofText_append` — the octets of two texts in a row
* `Text.length_le_octetLength` — a text has no more characters than octets
* `Text.takeOctets_append`, `Text.dropOctets_append` — cutting between two texts in a row
-/

namespace Tunnel.Bytes

/-- The UTF-8 octets of the characters. -/
def ofChars (s : List Char) : Bytes := s.flatMap String.utf8EncodeChar

/-- The UTF-8 octets of the text. -/
def ofText (s : String) : Bytes := ofChars s.toList

/-- The text with these UTF-8 octets, if there is one. -/
def toText? (octets : Bytes) : Option String := String.fromUTF8? ⟨octets.toArray⟩

@[simp] theorem ofChars_nil : ofChars [] = [] := rfl

@[simp] theorem ofChars_append (s t : List Char) : ofChars (s ++ t) = ofChars s ++ ofChars t :=
  List.flatMap_append

theorem ofText_append (s t : String) : ofText (s ++ t) = ofText s ++ ofText t := by
  rw [ofText, String.toList_append, ofChars_append]
  rfl

end Tunnel.Bytes

namespace Tunnel.Text

/-- How many octets a text has. -/
def octetLength : List Char → Nat
  | [] => 0
  | c :: rest => c.utf8Size + octetLength rest

/-- The front of a text, so many octets long. -/
def takeOctets : Nat → List Char → List Char
  | 0, _ => []
  | _ + 1, [] => []
  | n + 1, c :: rest => c :: takeOctets (n + 1 - c.utf8Size) rest

/-- The rest of a text behind so many octets. -/
def dropOctets : Nat → List Char → List Char
  | 0, s => s
  | _ + 1, [] => []
  | n + 1, c :: rest => dropOctets (n + 1 - c.utf8Size) rest

@[simp] theorem takeOctets_zero (s : List Char) : takeOctets 0 s = [] := by cases s <;> rfl

@[simp] theorem dropOctets_zero (s : List Char) : dropOctets 0 s = s := by cases s <;> rfl

theorem octetLength_cons (c : Char) (s : List Char) :
    octetLength (c :: s) = c.utf8Size + octetLength s := rfl

theorem length_le_octetLength (s : List Char) : s.length ≤ octetLength s := by
  induction s with
  | nil => exact Nat.le_refl 0
  | cons c rest ih =>
    have hc := c.utf8Size_pos
    rw [octetLength_cons, List.length_cons]
    omega

/-- A place behind the first character is counted from there by taking its octets off. -/
theorem octetLength_cons_eq_succ (c : Char) (s : List Char) :
    ∃ n, octetLength (c :: s) = n + 1 ∧ n + 1 - c.utf8Size = octetLength s := by
  have hc := c.utf8Size_pos
  rw [octetLength_cons]
  exact ⟨c.utf8Size + octetLength s - 1, by omega, by omega⟩

theorem takeOctets_append (s t : List Char) : takeOctets (octetLength s) (s ++ t) = s := by
  induction s with
  | nil => exact takeOctets_zero t
  | cons c rest ih =>
    obtain ⟨n, hlength, hrest⟩ := octetLength_cons_eq_succ c rest
    rw [hlength, List.cons_append, takeOctets, hrest, ih]

theorem dropOctets_append (s t : List Char) : dropOctets (octetLength s) (s ++ t) = t := by
  induction s with
  | nil => exact dropOctets_zero t
  | cons c rest ih =>
    obtain ⟨n, hlength, hrest⟩ := octetLength_cons_eq_succ c rest
    rw [hlength, List.cons_append, dropOctets, hrest, ih]

end Tunnel.Text
