import Tunnel.Pattern.Mode
import Tunnel.Text.Digits

/-!
# Atoms of a pattern

The smallest parts of a pattern, and which of them can be matched. There are no tables of letters
and digits beyond ASCII behind the patterns: what stands for all digits, all letters or both cases
of a letter can be matched in octets alone, and octets match no part of a longer character.

## Main definitions

* `Pattern.Atom` — an atom
* `Pattern.Mode.supports`, `Pattern.Mode.supportsMember` — whether it can be matched
* `Pattern.readEscape?` — what follows a backslash

## Main results

* `Pattern.length_le_of_readEscape?` — reading lengthens no text
-/

namespace Tunnel.Pattern

/-- An atom. -/
inductive Atom
  /-- A character, which may be given by a number of two digits as an octet. -/
  | literal (c : Char) (isOctet : Bool)
  /-- Whatever may stand in a line. -/
  | any
  /-- An end of the text or of a line. -/
  | edge
  /-- An end of a word, its beginning, or neither. -/
  | wordEdge
  /-- The digits, the blanks or the characters of words, or all others. -/
  | shorthand (isNegated : Bool)
deriving DecidableEq, Repr

namespace Mode

/-- Whether an atom can be matched. -/
def supports (mode : Mode) : Atom → Bool
  | .literal c isOctet => if mode.isUnicode then !mode.foldsCase else !isOctet || c.toNat < 0x80
  | .any => mode.isUnicode
  | .edge => true
  | .wordEdge => !mode.isUnicode
  | .shorthand isNegated => !mode.isUnicode && !isNegated

/-- Whether an atom can be matched as a member of a class. -/
def supportsMember (mode : Mode) : Atom → Bool
  | .literal c _ => if mode.isUnicode then !mode.foldsCase else c.toNat < 0x80
  | .shorthand isNegated => !mode.isUnicode && !isNegated
  | _ => false

end Mode

/-- Reads hexadecimal digits, between which blanks may stand. -/
def readHexDigits? (mode : Mode) : (count : Nat) → List Char → Option (List Char × List Char)
  | 0, s => some ([], s)
  | count + 1, s =>
    match mode.skip s with
    | [] => none
    | c :: rest =>
      if Text.isDigitOf 16 c then
        (readHexDigits? mode count rest).map fun (digits, rest) => (c :: digits, rest)
      else none

/-- The character with a number, if there is one. -/
def charOf? (n : Nat) : Option Char :=
  if n < 0xD800 ∨ 0xDFFF < n ∧ n < 0x110000 then some (Char.ofNat n) else none

/-- Reads a character that is given by a number of so many digits. -/
def readNumber? (mode : Mode) (count : Nat) (s : List Char) : Option (Atom × List Char) :=
  match readHexDigits? mode count s with
  | some (digits, rest) =>
    (charOf? (Text.numeral 16 digits)).map fun c => (.literal c (count == 2), rest)
  | none => none

/-- The controls that have a letter. -/
def controls : List (Char × Char) :=
  [('a', '\x07'), ('t', '\t'), ('n', '\n'), ('v', '\x0b'), ('f', '\x0c'), ('r', '\r')]

/-- What a single character behind a backslash stands for. Properties have no letter here, since no
pattern with one can be matched. -/
def atomOf? (c : Char) : Option Atom :=
  if ['d', 's', 'w'].contains c then some (.shorthand false)
  else if ['D', 'S', 'W'].contains c then some (.shorthand true)
  else if ['A', 'z'].contains c then some .edge
  else if ['b', 'B', '<', '>'].contains c then some .wordEdge
  else if c.isAlphanum then (controls.lookup c).map fun control => .literal control false
  else if c.toNat < 0x80 then some (.literal c false)
  else none

/-- Reads what follows a backslash. -/
def readEscape? (mode : Mode) : List Char → Option (Atom × List Char)
  | 'x' :: rest => readNumber? mode 2 rest
  | 'u' :: rest => readNumber? mode 4 rest
  | 'U' :: rest => readNumber? mode 8 rest
  | c :: rest => (atomOf? c).map fun atom => (atom, rest)
  | [] => none

theorem length_le_of_readHexDigits? {mode : Mode} {count : Nat} {s digits rest : List Char}
    (h : readHexDigits? mode count s = some (digits, rest)) : rest.length ≤ s.length := by
  induction count generalizing s digits with
  | zero =>
    cases h
    exact Nat.le_refl _
  | succ count ih =>
    have hs := mode.length_skip_le s
    simp only [readHexDigits?] at h
    split at h
    · cases h
    · next c tail hskip =>
      rw [hskip, List.length_cons] at hs
      split at h
      · obtain ⟨⟨later, after⟩, hlater, heq⟩ := Option.map_eq_some_iff.1 h
        cases heq
        have := ih hlater
        omega
      · cases h

theorem length_le_of_readNumber? {mode : Mode} {count : Nat} {s rest : List Char} {atom : Atom}
    (h : readNumber? mode count s = some (atom, rest)) : rest.length ≤ s.length := by
  simp only [readNumber?] at h
  split at h
  · next hdigits =>
    obtain ⟨c, _, heq⟩ := Option.map_eq_some_iff.1 h
    cases heq
    exact length_le_of_readHexDigits? hdigits
  · cases h

theorem length_le_of_readEscape? {mode : Mode} {s rest : List Char} {atom : Atom}
    (h : readEscape? mode s = some (atom, rest)) : rest.length ≤ s.length := by
  unfold readEscape? at h
  split at h
  · exact Nat.le_succ_of_le (length_le_of_readNumber? h)
  · exact Nat.le_succ_of_le (length_le_of_readNumber? h)
  · exact Nat.le_succ_of_le (length_le_of_readNumber? h)
  · obtain ⟨atom, _, heq⟩ := Option.map_eq_some_iff.1 h
    cases heq
    exact Nat.le_succ _
  · cases h

end Tunnel.Pattern
