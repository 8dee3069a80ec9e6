import Tunnel.Text.Alphanumeric
import Tunnel.Text.Blank
import Tunnel.Text.Split

/-!
# Modes of a pattern

A pattern describes texts by a regular expression. Flags in it change, from where they stand to the
end of the group, how it is read and how it matches: they stand in brackets behind a question mark,
those that are switched on in front of a dash and those that are switched off behind it.

## Main definitions

* `Pattern.Mode` — what is in force at a place
* `Pattern.Mode.skip` — passing over blanks and comments, where they are allowed
* `Pattern.Flags.ofText?` — reading flags
* `Pattern.readOpening?` — what an opening bracket begins

## Main results

* `Pattern.Mode.length_skip_le`, `Pattern.length_le_of_readOpening?` — reading lengthens no text
-/

namespace Tunnel.Pattern

/-- How a pattern is read and matched at a place. -/
structure Mode where
  /-- Whether blanks and comments between the parts are passed over. -/
  isSpaced : Bool
  /-- Whether letters match in either case. -/
  foldsCase : Bool
  /-- Whether characters are matched; else octets are. -/
  isUnicode : Bool
deriving DecidableEq, Repr

namespace Mode

/-- The mode in which a pattern begins. -/
def standard : Mode := ⟨false, false, true⟩

/-- The text behind blanks and comments. A comment runs from a number sign to the end of its
line. -/
def skipSpace (inComment : Bool) : List Char → List Char
  | [] => []
  | c :: rest =>
    if inComment then skipSpace (c != '\n') rest
    else if Text.isBlank c then skipSpace false rest
    else if c = '#' then skipSpace true rest
    else c :: rest

/-- The text behind what is passed over. -/
def skip (mode : Mode) (s : List Char) : List Char := if mode.isSpaced then skipSpace false s else s

theorem length_skipSpace_le (inComment : Bool) (s : List Char) :
    (skipSpace inComment s).length ≤ s.length := by
  induction s generalizing inComment with
  | nil => exact Nat.le_refl _
  | cons c rest ih =>
    rw [skipSpace]
    split
    · exact Nat.le_succ_of_le (ih _)
    · split
      · exact Nat.le_succ_of_le (ih _)
      · split
        · exact Nat.le_succ_of_le (ih _)
        · exact Nat.le_refl _

theorem length_skip_le (mode : Mode) (s : List Char) : (mode.skip s).length ≤ s.length := by
  rw [skip]
  split
  · exact length_skipSpace_le false s
  · exact Nat.le_refl _

end Mode

/-! ### Flags -/

/-- Flags that are switched on and off. -/
structure Flags where
  on : List Char
  off : List Char
deriving DecidableEq, Repr

namespace Flags

/-- The letters that name a flag. -/
def letters : List Char := ['i', 'm', 's', 'u', 'x', 'R', 'U']

/-- Reads flags. None may come twice, and a dash stands in front of at least one. -/
def ofText? (s : List Char) : Option Flags :=
  if (s.filter (· != '-')).all letters.contains ∧ (s.filter (· != '-')).Nodup then
    match Text.splitAt '-' s with
    | [on] => some ⟨on, []⟩
    | [on, off] => if off = [] then none else some ⟨on, off⟩
    | _ => none
  else none

/-- Whether a flag is in force that was or was not before. -/
def value (flags : Flags) (letter : Char) (before : Bool) : Bool :=
  if flags.on.contains letter then true
  else if flags.off.contains letter then false
  else before

end Flags

/-- The mode with flags switched. -/
def Mode.set (mode : Mode) (flags : Flags) : Mode :=
  ⟨flags.value 'x' mode.isSpaced, flags.value 'i' mode.foldsCase, flags.value 'u' mode.isUnicode⟩

/-! ### Opening brackets -/

/-- What an opening bracket begins. -/
inductive Opening
  /-- Flags that hold to the end of the group around them. -/
  | flags (mode : Mode)
  /-- A group, which may have a name. -/
  | group (name : Option (List Char)) (mode : Mode)
deriving DecidableEq, Repr

/-- Whether a text may name a group. -/
def isGroupName : List Char → Bool
  | [] => false
  | c :: rest =>
    (c == '_' || Text.isAlphabetic c) &&
      rest.all fun d => ['_', '.', '[', ']'].contains d || Text.isAlphanumeric d

/-- Reads the name of a group and the angle bracket behind it. -/
def readNamedGroup? (mode : Mode) (s : List Char) : Option (Opening × List Char) :=
  let name := s.takeWhile (· != '>')
  match s.dropWhile (· != '>') with
  | _ :: rest => if isGroupName name then some (.group (some name) mode, rest) else none
  | [] => none

/-- Reads flags and what ends them: a colon in front of a group, or a closing bracket. -/
def readFlags? (mode : Mode) (s : List Char) : Option (Opening × List Char) :=
  let text := s.takeWhile fun c => c != ':' && c != ')'
  match Flags.ofText? text, s.dropWhile fun c => c != ':' && c != ')' with
  | some flags, ':' :: rest => some (.group none (mode.set flags), rest)
  | some flags, _ :: rest => if text = [] then none else some (.flags (mode.set flags), rest)
  | _, _ => none

/-- Reads what an opening bracket begins. There is no looking ahead and none behind. -/
def readOpening? (mode : Mode) (s : List Char) : Option (Opening × List Char) :=
  match mode.skip s with
  | '?' :: '!' :: _ => none
  | '?' :: '=' :: _ => none
  | '?' :: '<' :: '!' :: _ => none
  | '?' :: '<' :: '=' :: _ => none
  | '?' :: 'P' :: '<' :: rest => readNamedGroup? mode rest
  | '?' :: '<' :: rest => readNamedGroup? mode rest
  | '?' :: rest => readFlags? mode rest
  | rest => some (.group none mode, rest)

theorem length_dropWhile_le (p : Char → Bool) (s : List Char) :
    (s.dropWhile p).length ≤ s.length :=
  (List.dropWhile_sublist p).length_le

theorem length_le_of_readNamedGroup? {mode : Mode} {s rest : List Char} {opening : Opening}
    (h : readNamedGroup? mode s = some (opening, rest)) : rest.length ≤ s.length := by
  have hs := length_dropWhile_le (· != '>') s
  simp only [readNamedGroup?] at h
  split at h
  · next hdrop =>
    rw [hdrop, List.length_cons] at hs
    split at h
    · cases h
      omega
    · cases h
  · cases h

theorem length_le_of_readFlags? {mode : Mode} {s rest : List Char} {opening : Opening}
    (h : readFlags? mode s = some (opening, rest)) : rest.length ≤ s.length := by
  have hs := length_dropWhile_le (fun c => c != ':' && c != ')') s
  simp only [readFlags?] at h
  split at h
  · next hdrop =>
    rw [hdrop, List.length_cons] at hs
    cases h
    omega
  · next hdrop =>
    rw [hdrop, List.length_cons] at hs
    split at h
    · cases h
    · cases h
      omega
  · cases h

theorem length_le_of_readOpening? {mode : Mode} {s rest : List Char} {opening : Opening}
    (h : readOpening? mode s = some (opening, rest)) : rest.length ≤ s.length := by
  have hs := mode.length_skip_le s
  simp only [readOpening?] at h
  split at h
  · cases h
  · cases h
  · cases h
  · cases h
  · next hskip =>
    have := length_le_of_readNamedGroup? h
    simp only [hskip, List.length_cons] at hs
    omega
  · next hskip =>
    have := length_le_of_readNamedGroup? h
    simp only [hskip, List.length_cons] at hs
    omega
  · next hskip =>
    have := length_le_of_readFlags? h
    simp only [hskip, List.length_cons] at hs
    omega
  · cases h
    exact hs

end Tunnel.Pattern
