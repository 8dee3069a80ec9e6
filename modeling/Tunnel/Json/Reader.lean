import Tunnel.Json.Fault
import Tunnel.Text.Digits
import Tunnel.Text.Utf8

/-!
# Reading JSON from left to right

A reader takes a value from the front of a text and gives back the rest, or it reports the first
fault it meets. Every reader takes at least one character, which is what lets lists and objects be
read without a bound on their length.

## Main definitions

* `Json.Reader` — a reader that takes at least one character
* `Json.skipBlank` — leaving out the blanks ahead of a token
* `Json.readWord` — the rest of a literal
* `Json.strictEscape`, `Json.looseEscape` — the escape behind a backslash, in a string that is
  wanted and in one that is not
* `Json.stringBody` — the characters of a string up to its closing quote

## Main results

* `Json.length_skipBlank_le` — leaving out blanks adds nothing
* `Json.skipBlank_skipBlank` — doing it twice is doing it once
* `Json.stringBody_length_lt` — reading a string shortens the text
-/

namespace Tunnel.Json

/-- What a reader makes of a text: a value and the rest of the text, or a fault. -/
abbrev Reading (α : Type) := Except Fault (α × List Char)

/-- A reader that takes at least one character. -/
structure Reader (α : Type) where
  run : List Char → Reading α
  shrinks : ∀ {s : List Char} {a : α} {rest : List Char},
    run s = .ok (a, rest) → rest.length < s.length

theorem rest_eq_of_ok_eq {α : Type} {a b : α} {s t : List Char}
    (h : (.ok (a, s) : Reading α) = .ok (b, t)) : s = t :=
  congrArg Prod.snd (Except.ok.inj h)

/-! ### Blanks and literals -/

/-- The blanks of JSON: space, tab, line feed and carriage return. -/
def isBlank (c : Char) : Bool := c == ' ' || c == '\t' || c == '\n' || c == '\r'

/-- The text without the blanks at its front. -/
def skipBlank (s : List Char) : List Char := s.dropWhile isBlank

theorem length_skipBlank_le (s : List Char) : (skipBlank s).length ≤ s.length :=
  (List.dropWhile_sublist _).length_le

@[simp] theorem skipBlank_nil : skipBlank [] = [] := rfl

theorem skipBlank_cons_of_not_blank {c : Char} {s : List Char} (h : isBlank c = false) :
    skipBlank (c :: s) = c :: s := by
  simp [skipBlank, h]

theorem head_skipBlank {s rest : List Char} {c : Char} (h : skipBlank s = c :: rest) :
    isBlank c = false := by
  induction s with
  | nil => simp at h
  | cons d t ih =>
    by_cases hd : isBlank d = true
    · exact ih (by simpa [skipBlank, hd] using h)
    · have hd : isBlank d = false := by simpa using hd
      rw [skipBlank_cons_of_not_blank hd] at h
      cases h
      exact hd

@[simp] theorem skipBlank_skipBlank (s : List Char) : skipBlank (skipBlank s) = skipBlank s := by
  cases h : skipBlank s with
  | nil => rfl
  | cons c rest => exact skipBlank_cons_of_not_blank (head_skipBlank h)

/-- The rest of a literal, letter by letter. -/
def readWord : (word : List Char) → List Char → Except Fault (List Char)
  | [], s => .ok s
  | _ :: _, [] => .error .endInValue
  | expected :: word, c :: s =>
    if c = expected then readWord word s else .error .expectedIdentifier

theorem readWord_append (word rest : List Char) : readWord word (word ++ rest) = .ok rest := by
  induction word with
  | nil => rfl
  | cons c word ih => simp [readWord, ih]

theorem readWord_length_le {word s rest : List Char} (h : readWord word s = .ok rest) :
    rest.length ≤ s.length := by
  induction word generalizing s with
  | nil => cases h; exact Nat.le_refl _
  | cons c word ih =>
    cases s with
    | nil => cases h
    | cons d s =>
      simp only [readWord] at h
      split at h
      · exact Nat.le_succ_of_le (ih h)
      · cases h

/-! ### Escapes -/

/-- The character that a letter stands for behind a backslash. -/
def escapedBy? : Char → Option Char
  | '"' => some '"'
  | '\\' => some '\\'
  | '/' => some '/'
  | 'b' => some '\x08'
  | 'f' => some '\x0c'
  | 'n' => some '\n'
  | 'r' => some '\r'
  | 't' => some '\t'
  | _ => none

/-- Four hexadecimal digits. The text ends too early if fewer than four octets of it are left. -/
def readHex4 (s : List Char) : Reading Nat :=
  let four := s.take 4
  if Text.octetLength four < 4 then .error .endInString
  else if four.length = 4 ∧ four.all (Text.isDigitOf 16) then
    .ok (Text.numeral 16 four, s.drop 4)
  else .error .invalidEscape

theorem readHex4_length_lt {s rest : List Char} {n : Nat} (h : readHex4 s = .ok (n, rest)) :
    rest.length < s.length := by
  simp only [readHex4] at h
  split at h
  · cases h
  · split at h
    · next hfour =>
      cases h
      have := hfour.1
      rw [List.length_take] at this
      rw [List.length_drop]
      omega
    · cases h

/-- Whether a number is the first half of a surrogate pair. -/
def isLeading (n : Nat) : Bool := 0xD800 ≤ n && n ≤ 0xDBFF

/-- Whether a number is the second half of a surrogate pair. -/
def isTrailing (n : Nat) : Bool := 0xDC00 ≤ n && n ≤ 0xDFFF

/-- The character of a surrogate pair. -/
def pairChar (leading trailing : Nat) : Char :=
  Char.ofNat (0x10000 + (leading - 0xD800) * 0x400 + (trailing - 0xDC00))

/-- The second half of a surrogate pair, with the character that the pair stands for. -/
def readTrailing (leading : Nat) : List Char → Reading Char
  | '\\' :: 'u' :: rest =>
    match readHex4 rest with
    | .error e => .error e
    | .ok (n, rest) =>
      if isTrailing n then .ok (pairChar leading n, rest) else .error .loneSurrogate
  | [] => .error .endInString
  | ['\\'] => .error .endInString
  | _ => .error .endOfHexEscape

/-- The numbered character behind `\u`. -/
def readNumbered (s : List Char) : Reading Char :=
  match readHex4 s with
  | .error e => .error e
  | .ok (n, rest) =>
    if isTrailing n then .error .loneSurrogate
    else if isLeading n then readTrailing n rest
    else .ok (Char.ofNat n, rest)

theorem readTrailing_length_lt {leading : Nat} {s rest : List Char} {c : Char}
    (h : readTrailing leading s = .ok (c, rest)) : rest.length < s.length := by
  unfold readTrailing at h
  split at h
  · split at h
    · cases h
    · next hhex =>
      split at h
      · rw [← rest_eq_of_ok_eq h]
        have := readHex4_length_lt hhex
        simp only [List.length_cons]
        omega
      · cases h
  all_goals cases h

theorem readNumbered_length_lt {s rest : List Char} {c : Char}
    (h : readNumbered s = .ok (c, rest)) : rest.length < s.length := by
  rw [readNumbered] at h
  split at h
  · cases h
  · next hhex =>
    have := readHex4_length_lt hhex
    split at h
    · cases h
    · split at h
      · exact Nat.lt_trans (readTrailing_length_lt h) this
      · rw [← rest_eq_of_ok_eq h]
        exact this

/-- The escape behind a backslash, given how a numbered character is read. -/
def readEscape (numbered : List Char → Reading Char) : List Char → Reading Char
  | [] => .error .endInString
  | 'u' :: rest => numbered rest
  | c :: rest =>
    match escapedBy? c with
    | some d => .ok (d, rest)
    | none => .error .invalidEscape

theorem readEscape_length_lt {numbered : List Char → Reading Char}
    (shrinks : ∀ {s rest : List Char} {c : Char}, numbered s = .ok (c, rest) →
      rest.length < s.length)
    {s rest : List Char} {c : Char} (h : readEscape numbered s = .ok (c, rest)) :
    rest.length < s.length := by
  unfold readEscape at h
  split at h
  · cases h
  · exact Nat.lt_succ_of_lt (shrinks h)
  · split at h
    · cases h
      exact Nat.lt_succ_self _
    · cases h

/-- The escape in a string that is wanted: surrogates have to come in pairs. -/
def strictEscape : Reader Char where
  run := readEscape readNumbered
  shrinks := readEscape_length_lt readNumbered_length_lt

/-- A numbered character of which only the four digits count. -/
def readAnyNumbered (s : List Char) : Reading Char :=
  (readHex4 s).map fun (_, rest) => ('\uFFFD', rest)

theorem readAnyNumbered_length_lt {s rest : List Char} {c : Char}
    (h : readAnyNumbered s = .ok (c, rest)) : rest.length < s.length := by
  rw [readAnyNumbered] at h
  cases hhex : readHex4 s with
  | error e => simp [hhex, Except.map] at h
  | ok p =>
    simp only [hhex, Except.map, Except.ok.injEq, Prod.mk.injEq] at h
    rw [← h.2]
    exact readHex4_length_lt hhex

/-- The escape in a string that is left out: any four digits will do. -/
def looseEscape : Reader Char where
  run := readEscape readAnyNumbered
  shrinks := readEscape_length_lt readAnyNumbered_length_lt

/-! ### Strings -/

/-- Puts a character in front of what was read. -/
def Reading.cons (c : Char) : Reading (List Char) → Reading (List Char)
  | .ok (cs, rest) => .ok (c :: cs, rest)
  | .error e => .error e

/-- The characters of a string up to its closing quote, which is taken as well. -/
def stringBody (escape : Reader Char) (s : List Char) : Reading (List Char) :=
  match s with
  | [] => .error .endInString
  | '"' :: rest => .ok ([], rest)
  | '\\' :: rest =>
    match h : escape.run rest with
    | .error e => .error e
    | .ok (c, after) =>
      have : after.length < rest.length := escape.shrinks h
      (stringBody escape after).cons c
  | c :: rest =>
    if c.toNat < 0x20 then .error .controlCharacter else (stringBody escape rest).cons c
termination_by s.length
decreasing_by all_goals simp only [List.length_cons]; omega

theorem Reading.cons_eq_ok {c : Char} {r : Reading (List Char)} {cs rest : List Char}
    (h : r.cons c = .ok (cs, rest)) : ∃ ds, cs = c :: ds ∧ r = .ok (ds, rest) := by
  unfold Reading.cons at h
  split at h
  · cases h
    exact ⟨_, rfl, rfl⟩
  · cases h

theorem stringBody_length_lt {escape : Reader Char} {s cs rest : List Char}
    (h : stringBody escape s = .ok (cs, rest)) : rest.length < s.length := by
  fun_induction stringBody escape s generalizing cs with
  | case1 => cases h
  | case2 => cases h; exact Nat.lt_succ_self _
  | case3 => cases h
  | case4 tail c after hescape hlt ih =>
    obtain ⟨ds, -, hbody⟩ := Reading.cons_eq_ok h
    have := ih hbody
    simp only [List.length_cons]
    omega
  | case5 => cases h
  | case6 c tail _ _ _ ih =>
    obtain ⟨ds, -, hbody⟩ := Reading.cons_eq_ok h
    exact Nat.lt_succ_of_lt (ih hbody)

/-- A wanted string behind its opening quote. -/
def readString (s : List Char) : Reading String :=
  (stringBody strictEscape s).map fun (cs, rest) => (String.ofList cs, rest)

theorem readString_length_lt {s rest : List Char} {text : String}
    (h : readString s = .ok (text, rest)) : rest.length < s.length := by
  rw [readString] at h
  cases hbody : stringBody strictEscape s with
  | error e => simp [hbody, Except.map] at h
  | ok p =>
    simp only [hbody, Except.map, Except.ok.injEq, Prod.mk.injEq] at h
    rw [← h.2]
    exact stringBody_length_lt hbody

end Tunnel.Json
