import Tunnel.Pattern.CharClass

/-!
# Reading patterns

A pattern is a choice between rows of parts: atoms, classes, groups and flags, of which all but
flags can be repeated. This file says which texts are patterns that can be matched. A pattern stands
between braces, so that no number of repetitions can be given, which needs braces of its own.

## Main definitions

* `Pattern.Reader` — where one stands in a pattern
* `Pattern.Reader.step?` — reading one part
* `Pattern.isPattern` — whether a text is a pattern that can be matched

## Main results

* `Pattern.Reader.length_le_of_step?` — reading a part lengthens no text
-/

namespace Tunnel.Pattern

/-- A group that is open: the mode in force in it, and its parts. -/
structure Group where
  mode : Mode
  choice : Choice
deriving DecidableEq, Repr

/-- Where one stands in a pattern. -/
structure Reader where
  current : Group
  /-- The groups around it, the innermost first. -/
  outer : List Group
  /-- The names of groups that have been given. -/
  names : List (List Char)
deriving DecidableEq, Repr

namespace Reader

/-- The start of a pattern. -/
def start : Reader := ⟨⟨.standard, .empty⟩, [], []⟩

/-- The greatest depth that a pattern may have. -/
def depthLimit : Nat := 250

/-- Whether a pattern may end here. -/
def isComplete (reader : Reader) : Bool :=
  reader.outer.isEmpty && reader.current.choice.depth ≤ depthLimit

/-- The reader behind one part more. -/
def add (reader : Reader) (depth : Nat) (isRepeatable : Bool) : Reader :=
  { reader with current.choice := reader.current.choice.add depth isRepeatable }

/-- The reader behind an atom, if it can be matched. -/
def addAtom? (reader : Reader) (atom : Atom) : Option Reader :=
  if reader.current.mode.supports atom then some (reader.add 0 true) else none

/-- The reader behind a repetition of the last part. -/
def repeatLast? (reader : Reader) : Option Reader :=
  reader.current.choice.row.repeatLast?.map fun row =>
    { reader with current.choice.row := row }

/-- The reader behind what an opening bracket begins. No name is given twice. -/
def begin? (reader : Reader) : Opening → Option Reader
  | .flags mode =>
    some ⟨⟨mode, reader.current.choice.add 0 false⟩, reader.outer, reader.names⟩
  | .group none mode =>
    some ⟨⟨mode, .empty⟩, reader.current :: reader.outer, reader.names⟩
  | .group (some name) mode =>
    if reader.names.contains name then none
    else some ⟨⟨mode, .empty⟩, reader.current :: reader.outer, name :: reader.names⟩

/-- The reader behind a bracket that closes a group. -/
def close? (reader : Reader) : Option Reader :=
  match reader.outer with
  | [] => none
  | around :: outer =>
    some (Reader.add ⟨around, outer, reader.names⟩ (reader.current.choice.depth + 1) true)

/-- Reads one part, which begins with a character, or goes on to the next row. A repetition may be
followed by a question mark. -/
def step? (reader : Reader) (c : Char) (s : List Char) : Option (Reader × List Char) :=
  let mode := reader.current.mode
  match c with
  | '(' =>
    match readOpening? mode s with
    | some (opening, rest) => (reader.begin? opening).map (·, rest)
    | none => none
  | ')' => reader.close?.map (·, s)
  | '|' =>
    some ({ reader with current.choice := reader.current.choice.beside }, s)
  | '[' => (readClass? mode s).map fun (depth, rest) => (reader.add depth true, rest)
  | '\\' =>
    match readEscape? mode s with
    | some (atom, rest) => (reader.addAtom? atom).map (·, rest)
    | none => none
  | '.' => (reader.addAtom? .any).map (·, s)
  | '{' => none
  | _ =>
    if c = '^' ∨ c = '$' then (reader.addAtom? .edge).map (·, s)
    else if c = '*' ∨ c = '+' ∨ c = '?' then
      reader.repeatLast?.map (·, if s.head? = some '?' then s.drop 1 else s)
    else (reader.addAtom? (.literal c false)).map (·, s)

theorem length_le_of_step? {reader after : Reader} {c : Char} {s rest : List Char}
    (h : reader.step? c s = some (after, rest)) : rest.length ≤ s.length := by
  simp only [step?] at h
  split at h
  · split at h
    · next hopening =>
      obtain ⟨_, _, heq⟩ := Option.map_eq_some_iff.1 h
      cases heq
      exact length_le_of_readOpening? hopening
    · cases h
  · obtain ⟨_, _, heq⟩ := Option.map_eq_some_iff.1 h
    cases heq
    exact Nat.le_refl _
  · cases h
    exact Nat.le_refl _
  · obtain ⟨_, hclass, heq⟩ := Option.map_eq_some_iff.1 h
    cases heq
    exact length_le_of_readClass? hclass
  · split at h
    · next hescape =>
      obtain ⟨_, _, heq⟩ := Option.map_eq_some_iff.1 h
      cases heq
      exact length_le_of_readEscape? hescape
    · cases h
  · obtain ⟨_, _, heq⟩ := Option.map_eq_some_iff.1 h
    cases heq
    exact Nat.le_refl _
  · cases h
  · split at h
    · obtain ⟨_, _, heq⟩ := Option.map_eq_some_iff.1 h
      cases heq
      exact Nat.le_refl _
    · split at h
      · obtain ⟨_, _, heq⟩ := Option.map_eq_some_iff.1 h
        cases heq
        split
        · rw [List.length_drop]
          omega
        · exact Nat.le_refl _
      · obtain ⟨_, _, heq⟩ := Option.map_eq_some_iff.1 h
        cases heq
        exact Nat.le_refl _

/-- Whether the rest of a pattern follows. -/
def accepts (reader : Reader) (s : List Char) : Bool :=
  match hskip : reader.current.mode.skip s with
  | [] => reader.isComplete
  | c :: rest =>
    match hstep : reader.step? c rest with
    | none => false
    | some (next, after) =>
      have : after.length < s.length := by
        have hs := reader.current.mode.length_skip_le s
        rw [hskip, List.length_cons] at hs
        exact Nat.lt_of_le_of_lt (length_le_of_step? hstep) hs
      next.accepts after
termination_by s.length

end Reader

/-- Whether a text is a pattern that can be matched. -/
def isPattern (s : List Char) : Bool := Reader.start.accepts s

end Tunnel.Pattern
