import Tunnel.Json.Number

/-!
# The grammar of JSON

Which texts are JSON values. The grammar says nothing of reading: a string may hold any escapes, so
that it need not spell a text, and a number may be of any size. What is written between brackets is
a row of parts with commas between them, each part with blanks around it where blanks may stand.

## Main definitions

* `Json.IsNumber`, `Json.IsBody` — numbers, and what stands between the quotes of a string
* `Json.Spells` — what stands between quotes for a given text
* `Json.Row`, `Json.Enclosed` — parts with commas between them, and with brackets around them
* `Json.ListText`, `Json.ObjectText`, `Json.NamedText` — the texts of lists, objects and members
* `Json.IsValue` — the values
* `Json.Ends` — what may stand behind a value

## Main results

* `Json.skipBlank_append` — blanks ahead of a text are left out
* `Json.Spells.isBody` — what spells a text can stand between quotes
* `Json.IsValue.starts` — how a value begins
-/

namespace Tunnel.Json

variable {s t v rest : List Char} {c : Char}

/-! ### Blanks and what stands behind a value -/

/-- Blanks and nothing else. -/
def Blanks (s : List Char) : Prop := ∀ c ∈ s, isBlank c = true

/-- A text with blanks around it. -/
def Padded (v s : List Char) : Prop :=
  ∃ before after, Blanks before ∧ Blanks after ∧ s = before ++ (v ++ after)

/-- What may stand behind a value: nothing, a blank, a comma or a closing bracket. -/
def Ends (rest : List Char) : Prop := ∀ c ∈ rest.head?, isBlank c = true ∨ c ∈ [',', ']', '}']

/-- Blanks ahead of a text are left out. -/
theorem skipBlank_append (h : Blanks s) (t : List Char) : skipBlank (s ++ t) = skipBlank t :=
  List.dropWhile_append_of_pos h

/-- Blanks are left out as far as a character that is none. -/
theorem Blanks.skipBlank_cons (h : Blanks s) (hc : isBlank c = false) (t : List Char) :
    skipBlank (s ++ c :: t) = c :: t := by
  rw [skipBlank_append h]
  exact skipBlank_cons_of_not_blank hc

theorem Blanks.nil : Blanks [] := fun _ hmem => absurd hmem List.not_mem_nil

theorem Ends.nil : Ends [] := nofun

theorem Ends.cons (h : c ∈ [',', ']', '}']) : Ends (c :: rest) := by
  rintro d hd
  obtain rfl : c = d := Option.some.inj hd
  exact .inr h

/-- Blanks may stand behind a value, ahead of what may stand there. -/
theorem Blanks.ends (h : Blanks s) (hrest : Ends rest) : Ends (s ++ rest) := by
  cases s with
  | nil => exact hrest
  | cons c s =>
    rintro d hd
    obtain rfl : c = d := Option.some.inj hd
    exact .inl (h c List.mem_cons_self)

/-! ### Numbers -/

/-- Digits, one at least. -/
def Digits (s : List Char) : Prop := s ≠ [] ∧ ∀ c ∈ s, isDigit c = true

/-- Digits of which the first is a zero only if it stands alone. -/
def IsInteger (s : List Char) : Prop := Digits s ∧ (s.head? = some '0' → s = ['0'])

/-- A point and digits, or nothing. -/
inductive IsFraction : List Char → Prop
  | absent : IsFraction []
  | digits {ds : List Char} : Digits ds → IsFraction ('.' :: ds)

/-- A letter, a sign if there is one, and digits; or nothing. -/
inductive IsExponent : List Char → Prop
  | absent : IsExponent []
  | digits {letter : Char} {sign ds : List Char} :
    letter ∈ ['e', 'E'] → sign ∈ [[], ['+'], ['-']] → Digits ds →
    IsExponent (letter :: (sign ++ ds))

/-- A number, of any size. -/
inductive IsNumber : List Char → Prop
  | parts {sign integer fraction exponent : List Char} :
    sign ∈ [[], ['-']] → IsInteger integer → IsFraction fraction → IsExponent exponent →
    IsNumber (sign ++ (integer ++ (fraction ++ exponent)))

/-! ### Strings -/

/-- A character that may stand for itself between quotes. -/
def IsPlain (c : Char) : Prop := c ≠ '"' ∧ c ≠ '\\' ∧ ¬c.toNat < 0x20

/-- The letters that may stand behind a backslash, each with what it stands for. -/
def escapes : List (Char × Char) :=
  [('"', '"'), ('\\', '\\'), ('/', '/'), ('b', '\x08'), ('f', '\x0c'), ('n', '\n'), ('r', '\r'),
    ('t', '\t')]

/-- Four hexadecimal digits. -/
def IsHex4 (four : List Char) : Prop :=
  four.length = 4 ∧ ∀ c ∈ four, Text.isDigitOf 16 c = true

/-- What may stand between the quotes of a string. Numbered characters may be of any number. -/
inductive IsBody : List Char → Prop
  | nil : IsBody []
  | plain {c : Char} {s : List Char} : IsPlain c → IsBody s → IsBody (c :: s)
  | letter {c d : Char} {s : List Char} : (c, d) ∈ escapes → IsBody s → IsBody ('\\' :: c :: s)
  | numbered {four s : List Char} :
    IsHex4 four → IsBody s → IsBody ('\\' :: 'u' :: (four ++ s))

/-- What stands between quotes spells a text: each character stands for itself, or is escaped by a
letter, by its number, or by the numbers of a surrogate pair. -/
inductive Spells : List Char → List Char → Prop
  | nil : Spells [] []
  | plain {c : Char} {s text : List Char} :
    IsPlain c → Spells s text → Spells (c :: s) (c :: text)
  | letter {c d : Char} {s text : List Char} :
    (c, d) ∈ escapes → Spells s text → Spells ('\\' :: c :: s) (d :: text)
  | numbered {four s text : List Char} :
    IsHex4 four → isTrailing (Text.numeral 16 four) = false →
    isLeading (Text.numeral 16 four) = false → Spells s text →
    Spells ('\\' :: 'u' :: (four ++ s)) (Char.ofNat (Text.numeral 16 four) :: text)
  | paired {first second s text : List Char} :
    IsHex4 first → IsHex4 second → isLeading (Text.numeral 16 first) = true →
    isTrailing (Text.numeral 16 second) = true → Spells s text →
    Spells ('\\' :: 'u' :: (first ++ '\\' :: 'u' :: (second ++ s)))
      (pairChar (Text.numeral 16 first) (Text.numeral 16 second) :: text)

/-- What spells a text can stand between quotes. -/
theorem Spells.isBody {text : List Char} (h : Spells s text) : IsBody s := by
  induction h with
  | nil => exact .nil
  | plain hplain _ ih => exact .plain hplain ih
  | letter hletter _ ih => exact .letter hletter ih
  | numbered hfour _ _ _ ih => exact .numbered hfour ih
  | paired hfirst hsecond _ _ _ ih => exact .numbered hfirst (.numbered hsecond ih)

/-! ### Lists and objects -/

/-- Parts, one at least, with commas between them. -/
inductive Row {α : Type} (Part : α → List Char → Prop) : List α → List Char → Prop
  | single {a : α} {s : List Char} : Part a s → Row Part [a] s
  | cons {a : α} {later : List α} {s t : List Char} :
    Part a s → Row Part later t → Row Part (a :: later) (s ++ ',' :: t)

/-- Parts between brackets: blanks if there are none, and a row else. -/
inductive Enclosed {α : Type} (opening closing : Char) (Part : α → List Char → Prop) :
    List α → List Char → Prop
  | blanks {s : List Char} :
    Blanks s → Enclosed opening closing Part [] (opening :: (s ++ [closing]))
  | row {parts : List α} {s : List Char} :
    Row Part parts s → Enclosed opening closing Part parts (opening :: (s ++ [closing]))

/-- The text of a list with these items. -/
def ListText : List (List Char) → List Char → Prop := Enclosed '[' ']' Padded

/-- The text of a member: what stands between the quotes of its name, a colon and its value. -/
def MemberText (member : List Char × List Char) (s : List Char) : Prop :=
  ∃ before between padded, Blanks before ∧ Blanks between ∧ Padded member.2 padded ∧
    s = before ++ '"' :: (member.1 ++ '"' :: (between ++ ':' :: padded))

/-- The text of a member whose name is a text, spelled in any way. -/
def NamedText (member : String × List Char) (s : List Char) : Prop :=
  ∃ key, Spells key member.1.toList ∧ MemberText (key, member.2) s

/-- The text of an object with these members. -/
def ObjectText : List (String × List Char) → List Char → Prop := Enclosed '{' '}' NamedText

/-- The texts that are values. -/
inductive IsValue : List Char → Prop
  | literal {word : String} : word ∈ ["null", "true", "false"] → IsValue word.toList
  | number {s : List Char} : IsNumber s → IsValue s
  | string {s : List Char} : IsBody s → IsValue ('"' :: (s ++ ['"']))
  | list {items : List (List Char)} {s : List Char} :
    ListText items s → (∀ item ∈ items, IsValue item) → IsValue s
  | object {members : List (List Char × List Char)} {s : List Char} :
    Enclosed '{' '}' MemberText members s → (∀ member ∈ members, IsBody member.1) →
    (∀ member ∈ members, IsValue member.2) → IsValue s

/-! ### How a value begins -/

/-- The characters with which a value may begin. -/
def Begins (c : Char) : Prop := c ∈ ['"', '[', '{', 'n', 't', 'f', '-'] ∨ isDigit c = true

/-- A digit differs from what is no digit. -/
theorem ne_of_isDigit (h : isDigit c = true) {d : Char} (hd : isDigit d = false) : c ≠ d := by
  rintro rfl
  rw [h] at hd
  cases hd

theorem Begins.not_blank (h : Begins c) : isBlank c = false := by
  rcases h with h | h
  · simp only [List.mem_cons, List.not_mem_nil, or_false] at h
    rcases h with rfl | rfl | rfl | rfl | rfl | rfl | rfl <;> rfl
  · simp only [isBlank, Bool.or_eq_false_iff, beq_eq_false_iff_ne]
    exact ⟨⟨⟨ne_of_isDigit h rfl, ne_of_isDigit h rfl⟩, ne_of_isDigit h rfl⟩, ne_of_isDigit h rfl⟩

theorem Begins.ne (h : Begins c) {d : Char} (hd : d ∈ [',', ']', '}']) : c ≠ d := by
  simp only [List.mem_cons, List.not_mem_nil, or_false] at hd
  rintro rfl
  rcases hd with rfl | rfl | rfl
  all_goals
    rcases h with h | h
    · exact absurd h (by decide)
    · cases h

theorem IsNumber.starts (h : IsNumber s) :
    ∃ c later, s = c :: later ∧ (c = '-' ∨ isDigit c = true) := by
  obtain @⟨sign, integer, fraction, exponent, hsign, ⟨⟨hne, hall⟩, -⟩, -, -⟩ := h
  obtain ⟨d, digits, rfl⟩ := List.exists_cons_of_ne_nil hne
  have hd : isDigit d = true := hall d List.mem_cons_self
  simp only [List.mem_cons, List.not_mem_nil, or_false] at hsign
  rcases hsign with rfl | rfl
  · exact ⟨d, _, rfl, .inr hd⟩
  · exact ⟨'-', _, rfl, .inl rfl⟩

theorem Enclosed.eq_cons {α : Type} {opening closing : Char} {Part : α → List Char → Prop}
    {parts : List α} (h : Enclosed opening closing Part parts s) :
    ∃ inner, s = opening :: (inner ++ [closing]) := by
  cases h with
  | blanks _ => exact ⟨_, rfl⟩
  | row _ => exact ⟨_, rfl⟩

/-- How a value begins. -/
theorem IsValue.starts (h : IsValue v) : ∃ c later, v = c :: later ∧ Begins c := by
  cases h with
  | literal hword =>
    simp only [List.mem_cons, List.not_mem_nil, or_false] at hword
    rcases hword with rfl | rfl | rfl
    all_goals exact ⟨_, _, rfl, .inl (by decide)⟩
  | number hnumber =>
    obtain ⟨c, later, rfl, hc⟩ := hnumber.starts
    refine ⟨c, later, rfl, hc.imp_left ?_⟩
    rintro rfl
    decide
  | string _ => exact ⟨_, _, rfl, .inl (by decide)⟩
  | list hlist _ =>
    obtain ⟨inner, rfl⟩ := hlist.eq_cons
    exact ⟨_, _, rfl, .inl (by decide)⟩
  | object hobject _ _ =>
    obtain ⟨inner, rfl⟩ := hobject.eq_cons
    exact ⟨_, _, rfl, .inl (by decide)⟩

/-- Blanks ahead of a value are left out, and no more. -/
theorem IsValue.skipBlank_append (h : IsValue v) (hblanks : Blanks s) (rest : List Char) :
    skipBlank (s ++ (v ++ rest)) = v ++ rest := by
  obtain ⟨c, later, rfl, hc⟩ := h.starts
  exact hblanks.skipBlank_cons hc.not_blank (later ++ rest)

theorem IsValue.skipBlank_self (h : IsValue v) (rest : List Char) :
    skipBlank (v ++ rest) = v ++ rest :=
  h.skipBlank_append .nil rest

end Tunnel.Json
