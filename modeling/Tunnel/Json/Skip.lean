import Tunnel.Json.Number

/-!
# Values that are left out

A value of no interest is passed over. It has to be well-formed, but nothing is made of it: numbers
are never out of range and surrogates need no partner. The brackets that are open are kept in a
stack, so that values may be nested to any depth.

## Main definitions

* `Json.Bracket` — a list or an object that is open
* `Json.skipScalar` — a literal, number or string
* `Json.skipFrom` — a value, and the rest of the lists and objects around it
* `Json.skipValue` — a value

## Main results

* `Json.skipScalar_length_lt` — a scalar takes at least one character
* `Json.skipValue_length_lt` — so does every value
-/

namespace Tunnel.Json

/-- A list or an object that is open. -/
inductive Bracket
  | list
  | object
deriving DecidableEq, Repr

namespace Bracket

/-- The character that closes it. -/
def closing : Bracket → Char
  | list => ']'
  | object => '}'

/-- What is wrong with a text that ends inside it. -/
def truncated : Bracket → Fault
  | list => .endInList
  | object => .endInObject

/-- What is wrong with a text that goes on with neither a comma nor its end. -/
def unseparated : Bracket → Fault
  | list => .expectedListCommaOrEnd
  | object => .expectedObjectCommaOrEnd

end Bracket

/-- A string behind its opening quote. -/
def skipString (s : List Char) : Except Fault (List Char) :=
  (stringBody looseEscape s).map Prod.snd

/-- The name of a member and the colon behind it. -/
def skipName (s : List Char) : Except Fault (List Char) :=
  match skipBlank s with
  | [] => .error .endInObject
  | '"' :: rest =>
    match skipString rest with
    | .error e => .error e
    | .ok rest =>
      match skipBlank rest with
      | [] => .error .endInObject
      | ':' :: rest => .ok rest
      | _ => .error .expectedColon
  | _ => .error .keyMustBeString

/-- A literal, number or string. -/
def skipScalar (s : List Char) : Except Fault (List Char) :=
  match s with
  | [] => .error .endInValue
  | '"' :: rest => skipString rest
  | 'n' :: rest => readWord ['u', 'l', 'l'] rest
  | 't' :: rest => readWord ['r', 'u', 'e'] rest
  | 'f' :: rest => readWord ['a', 'l', 's', 'e'] rest
  | c :: _ => if c = '-' ∨ isDigit c then skipNumber s else .error .expectedValue

/-- What stands ahead of an item: the name of a member in an object, nothing in a list. -/
def skipItemName (bracket : Bracket) (s : List Char) : Except Fault (List Char) :=
  match bracket with
  | .list => .ok s
  | .object => skipName s

theorem skipString_length_lt {s rest : List Char} (h : skipString s = .ok rest) :
    rest.length < s.length := by
  rw [skipString] at h
  cases hbody : stringBody looseEscape s with
  | error e => simp [hbody, Except.map] at h
  | ok p =>
    simp only [hbody, Except.map, Except.ok.injEq] at h
    rw [← h]
    exact stringBody_length_lt hbody

theorem skipName_length_lt {s rest : List Char} (h : skipName s = .ok rest) :
    rest.length < s.length := by
  have hs := length_skipBlank_le s
  rw [skipName] at h
  split at h
  · cases h
  · next tail hquote =>
    rw [hquote, List.length_cons] at hs
    split at h
    · cases h
    · next after hstring =>
      have := skipString_length_lt hstring
      have hafter := length_skipBlank_le after
      split at h
      · cases h
      · next hcolon =>
        cases h
        rw [hcolon, List.length_cons] at hafter
        omega
      · cases h
  · cases h

theorem skipScalar_length_lt {s rest : List Char} (h : skipScalar s = .ok rest) :
    rest.length < s.length := by
  unfold skipScalar at h
  split at h
  · cases h
  · exact Nat.lt_succ_of_lt (skipString_length_lt h)
  · exact Nat.lt_succ_of_le (readWord_length_le h)
  · exact Nat.lt_succ_of_le (readWord_length_le h)
  · exact Nat.lt_succ_of_le (readWord_length_le h)
  · split at h
    · exact skipNumber_length_lt h
    · cases h

theorem skipItemName_length_le {bracket : Bracket} {s rest : List Char}
    (h : skipItemName bracket s = .ok rest) : rest.length ≤ s.length := by
  cases bracket with
  | list => cases h; exact Nat.le_refl _
  | object => exact Nat.le_of_lt (skipName_length_lt h)

/-- Where the reader stands in a value that is left out. -/
inductive SkipPoint
  /-- Ahead of a value. -/
  | value
  /-- Behind an opening bracket. -/
  | opened (bracket : Bracket)
  /-- Behind a value. -/
  | done
deriving DecidableEq, Repr

/-- Passes over a value and over the rest of the lists and objects around it, the innermost first.
-/
def skipFrom (point : SkipPoint) (around : List Bracket) (s : List Char) :
    Except Fault (List Char) :=
  match point with
  | .value =>
    match hs : skipBlank s with
    | [] => .error .endInValue
    | '[' :: rest =>
      have : rest.length < s.length := by
        have := length_skipBlank_le s
        rw [hs, List.length_cons] at this
        omega
      skipFrom (.opened .list) around rest
    | '{' :: rest =>
      have : rest.length < s.length := by
        have := length_skipBlank_le s
        rw [hs, List.length_cons] at this
        omega
      skipFrom (.opened .object) around rest
    | t =>
      match hscalar : skipScalar t with
      | .error e => .error e
      | .ok rest =>
        have : rest.length < s.length := by
          have := length_skipBlank_le s
          have := skipScalar_length_lt hscalar
          simp only [hs] at *
          omega
        skipFrom .done around rest
  | .opened bracket =>
    match hs : skipBlank s with
    | [] => .error bracket.truncated
    | c :: rest =>
      have : rest.length < s.length := by
        have := length_skipBlank_le s
        rw [hs, List.length_cons] at this
        omega
      if c = bracket.closing then skipFrom .done around rest
      else
        match hname : skipItemName bracket s with
        | .error e => .error e
        | .ok item =>
          have := skipItemName_length_le hname
          skipFrom .value (bracket :: around) item
  | .done =>
    match around with
    | [] => .ok s
    | bracket :: outer =>
      match hs : skipBlank s with
      | [] => .error bracket.truncated
      | c :: rest =>
        have : rest.length < s.length := by
          have := length_skipBlank_le s
          rw [hs, List.length_cons] at this
          omega
        if c = ',' then
          match hname : skipItemName bracket rest with
          | .error e => .error e
          | .ok item =>
            have := skipItemName_length_le hname
            skipFrom .value (bracket :: outer) item
        else if c = bracket.closing then skipFrom .done outer rest
        else .error bracket.unseparated
termination_by (s.length, match point with | .opened _ => 1 | _ => 0)
decreasing_by all_goals omega

theorem skipFrom_length_le {point : SkipPoint} {around : List Bracket} {s rest : List Char}
    (h : skipFrom point around s = .ok rest) :
    rest.length + (if point = .value then 1 else 0) ≤ s.length := by
  fun_induction skipFrom point around s <;> simp_all <;> omega

/-- Passes over a value. -/
def skipValue (s : List Char) : Except Fault (List Char) := skipFrom .value [] s

theorem skipValue_length_lt {s rest : List Char} (h : skipValue s = .ok rest) :
    rest.length < s.length :=
  skipFrom_length_le h

end Tunnel.Json
