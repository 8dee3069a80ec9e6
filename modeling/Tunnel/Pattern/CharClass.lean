import Tunnel.Pattern.Atom
import Tunnel.Pattern.Nesting

/-!
# Classes of characters

A class stands between brackets: its members are characters, ranges of characters, classes of ASCII
by name, and further classes. A caret at its start makes it the class of all others. Two ampersands,
two dashes or two tildes take what is in both, in the first alone, or in just one. A dash or a
bracket that closes is a member at the start of a class.

## Main definitions

* `Pattern.asciiClass?` — a class by name
* `Pattern.openClass?` — the start of a class
* `Pattern.readRange?` — a character or a range
* `Pattern.readClass?` — a class, behind the bracket that opens it

## Main results

* `Pattern.length_le_of_readClass?` — reading lengthens no text
-/

namespace Tunnel.Pattern

/-! ### Classes by name -/

/-- The classes of ASCII that have a name. -/
def asciiClassNames : List String :=
  ["alnum", "alpha", "ascii", "blank", "cntrl", "digit", "graph", "lower", "print", "punct",
    "space", "upper", "word", "xdigit"]

/-- Reads a name between colons and the bracket that closes it, with or without a caret in front. -/
def asciiClass? (s : List Char) : Option (Bool × List Char) :=
  match s with
  | ':' :: inner =>
    let text := inner.takeWhile (· != ':')
    let isNegated := text.head? == some '^'
    let name := if isNegated then text.drop 1 else text
    match inner.dropWhile (· != ':') with
    | ':' :: ']' :: rest =>
      if asciiClassNames.contains (String.ofList name) then some (isNegated, rest) else none
    | _ => none
  | _ => none

/-- Whether a class by name can be matched. -/
def Mode.supportsNamed (mode : Mode) (isNegated : Bool) : Bool :=
  if mode.isUnicode then !mode.foldsCase else !isNegated

/-! ### Ranges -/

/-- What a dash is looked at for: the character behind it, blanks apart. A comment is no more than
its first mark. -/
def peekSpaced (inComment : Bool) : List Char → Option Char
  | [] => none
  | c :: rest =>
    if Text.isBlank c then peekSpaced inComment rest
    else if !inComment && c == '#' then peekSpaced true rest
    else some c

/-- The character behind a dash. -/
def Mode.peek (mode : Mode) (s : List Char) : Option Char :=
  if mode.isSpaced then (peekSpaced false s).or s.head? else s.head?

/-- Reads a single member, which begins with a character. -/
def readMember? (mode : Mode) (c : Char) (s : List Char) : Option (Atom × List Char) :=
  if c = '\\' then readEscape? mode s else some (.literal c false, s)

/-- Whether two atoms bound a range that can be matched. -/
def Mode.supportsRange (mode : Mode) : (low high : Atom) → Bool
  | .literal a p, .literal b q =>
    a.toNat ≤ b.toNat && mode.supportsMember (.literal a p) && mode.supportsMember (.literal b q)
  | _, _ => false

/-- Reads what begins with a character, a member or a range. A dash in front of another dash or of
the end of the class makes no range. -/
def readRange? (mode : Mode) (c : Char) (s : List Char) : Option (List Char) :=
  match readMember? mode c s with
  | none => none
  | some (low, rest) =>
    match mode.skip rest with
    | [] => none
    | '-' :: after =>
      if mode.peek after = some ']' ∨ mode.peek after = some '-' then
        if mode.supportsMember low then some ('-' :: after) else none
      else
        match mode.skip after with
        | [] => none
        | d :: after =>
          match readMember? mode d after with
          | some (high, rest) => if mode.supportsRange low high then some rest else none
          | none => none
    | rest => if mode.supportsMember low then some rest else none

theorem length_le_of_readMember? {mode : Mode} {c : Char} {s rest : List Char} {atom : Atom}
    (h : readMember? mode c s = some (atom, rest)) : rest.length ≤ s.length := by
  rw [readMember?] at h
  split at h
  · exact length_le_of_readEscape? h
  · cases h
    exact Nat.le_refl _

theorem length_le_of_readRange? {mode : Mode} {c : Char} {s rest : List Char}
    (h : readRange? mode c s = some rest) : rest.length ≤ s.length := by
  rw [readRange?] at h
  split at h
  · cases h
  · next low tail hlow =>
    have htail := length_le_of_readMember? hlow
    have hskip := mode.length_skip_le tail
    split at h
    · cases h
    · next after hdash =>
      rw [hdash, List.length_cons] at hskip
      split at h
      · split at h
        · cases h
          rw [List.length_cons]
          omega
        · cases h
      · have hafter := mode.length_skip_le after
        split at h
        · cases h
        · next hnext =>
          rw [hnext, List.length_cons] at hafter
          split at h
          · next hhigh =>
            have := length_le_of_readMember? hhigh
            split at h
            · cases h
              omega
            · cases h
          · cases h
    · split at h
      · cases h
        omega
      · cases h

/-! ### Classes -/

/-- The dashes at the start of a class as members of a row, and what follows them. -/
def takeDashes (mode : Mode) (row : Row) (s : List Char) : Row × List Char :=
  match hskip : mode.skip s with
  | '-' :: rest =>
    have : rest.length < s.length := by
      have := mode.length_skip_le s
      rw [hskip, List.length_cons] at this
      exact this
    takeDashes mode (row.add 0 true) rest
  | rest => (row, rest)
termination_by s.length

/-- Reads the start of a class, behind the bracket that opens it, up to where its members are no
longer special. -/
def openClass? (mode : Mode) (s : List Char) : Option (Row × List Char) :=
  let inner := mode.skip s
  let isNegated := inner.head? == some '^'
  let (row, rest) := takeDashes mode .empty (if isNegated then inner.drop 1 else inner)
  if isNegated && !mode.isUnicode then none
  else match row.count, rest with
    | 0, ']' :: rest =>
      if mode.supportsMember (.literal ']' false) then some (row.add 0 true, rest) else none
    | 0, rest => some (row, rest)
    | _, rest => if mode.supportsMember (.literal '-' false) then some (row, rest) else none

/-- The classes that are open. -/
structure OpenClasses where
  current : Choice
  /-- The classes around it, the innermost first. -/
  outer : List Choice
deriving DecidableEq, Repr

/-- Reads what begins with a character in a class, the end of the outermost class apart. -/
def readClassPart? (mode : Mode) (classes : OpenClasses) (c : Char) (s : List Char) :
    Option (OpenClasses × List Char) :=
  match c, s with
  | ']', _ =>
    match classes.outer with
    | [] => none
    | around :: outer => some (⟨around.add (classes.current.depth + 1) true, outer⟩, s)
  | '[', _ =>
    match asciiClass? s with
    | some (isNegated, rest) =>
      if mode.supportsNamed isNegated then
        some ({ classes with current := classes.current.add 0 true }, rest)
      else none
    | none => (openClass? mode s).map fun (row, rest) =>
      (⟨⟨none, row⟩, classes.current :: classes.outer⟩, rest)
  | '&', '&' :: rest => some ({ classes with current := classes.current.behind }, rest)
  | '-', '-' :: rest => some ({ classes with current := classes.current.behind }, rest)
  | '~', '~' :: rest => some ({ classes with current := classes.current.behind }, rest)
  | _, _ => (readRange? mode c s).map fun rest =>
    ({ classes with current := classes.current.add 0 true }, rest)

theorem length_le_of_asciiClass? {s rest : List Char} {isNegated : Bool}
    (h : asciiClass? s = some (isNegated, rest)) : rest.length ≤ s.length := by
  unfold asciiClass? at h
  split at h
  · next inner =>
    have hinner := length_dropWhile_le (· != ':') inner
    simp only at h
    split at h
    · next hdrop =>
      rw [hdrop] at hinner
      simp only [List.length_cons] at hinner ⊢
      obtain ⟨_, heq⟩ := Option.ite_none_right_eq_some.1 h
      cases heq
      omega
    · cases h
  · cases h

theorem length_takeDashes_le (mode : Mode) (row : Row) (s : List Char) :
    (takeDashes mode row s).2.length ≤ s.length := by
  fun_induction takeDashes mode row s with
  | case1 row s rest hskip hlt ih => exact Nat.le_trans ih (Nat.le_of_lt hlt)
  | case2 row s => exact mode.length_skip_le s

theorem length_le_of_openClass? {mode : Mode} {s rest : List Char} {row : Row}
    (h : openClass? mode s = some (row, rest)) : rest.length ≤ s.length := by
  have hs := mode.length_skip_le s
  simp only [openClass?] at h
  generalize hinner : (if (mode.skip s).head? == some '^' then (mode.skip s).drop 1
    else mode.skip s) = inner at h
  have hle : inner.length ≤ s.length := by
    rw [← hinner]
    split
    · rw [List.length_drop]
      omega
    · exact hs
  have htake := length_takeDashes_le mode .empty inner
  obtain ⟨_, h⟩ := Option.ite_none_left_eq_some.1 h
  split at h
  · next hrest =>
    obtain ⟨_, heq⟩ := Option.ite_none_right_eq_some.1 h
    cases heq
    rw [hrest, List.length_cons] at htake
    omega
  · cases h
    omega
  · obtain ⟨_, heq⟩ := Option.ite_none_right_eq_some.1 h
    cases heq
    omega

theorem length_le_of_readClassPart? {mode : Mode} {classes after : OpenClasses} {c : Char}
    {s rest : List Char} (h : readClassPart? mode classes c s = some (after, rest)) :
    rest.length ≤ s.length := by
  unfold readClassPart? at h
  split at h
  · split at h
    · cases h
    · cases h
      exact Nat.le_refl _
  · split at h
    · next hnamed =>
      split at h
      · cases h
        exact length_le_of_asciiClass? hnamed
      · cases h
    · obtain ⟨⟨row, tail⟩, hopen, heq⟩ := Option.map_eq_some_iff.1 h
      cases heq
      exact length_le_of_openClass? hopen
  · cases h
    exact Nat.le_succ _
  · cases h
    exact Nat.le_succ _
  · cases h
    exact Nat.le_succ _
  · obtain ⟨tail, hrange, heq⟩ := Option.map_eq_some_iff.1 h
    cases heq
    exact length_le_of_readRange? hrange

/-- Reads the members of the classes that are open, to the end of the outermost, and gives the depth
of that class. -/
def readMembers? (mode : Mode) (classes : OpenClasses) (s : List Char) : Option (Nat × List Char) :=
  match hskip : mode.skip s with
  | [] => none
  | c :: rest =>
    if c = ']' ∧ classes.outer = [] then some (classes.current.depth + 1, rest)
    else match hpart : readClassPart? mode classes c rest with
      | none => none
      | some (classes, after) =>
        have : after.length < s.length := by
          have hs := mode.length_skip_le s
          rw [hskip, List.length_cons] at hs
          exact Nat.lt_of_le_of_lt (length_le_of_readClassPart? hpart) hs
        readMembers? mode classes after
termination_by s.length

/-- Reads a class behind the bracket that opens it, and gives its depth. -/
def readClass? (mode : Mode) (s : List Char) : Option (Nat × List Char) :=
  match openClass? mode s with
  | none => none
  | some (row, rest) => readMembers? mode ⟨⟨none, row⟩, []⟩ rest

theorem length_le_of_readMembers? {mode : Mode} {classes : OpenClasses} {s rest : List Char}
    {depth : Nat} (h : readMembers? mode classes s = some (depth, rest)) :
    rest.length ≤ s.length := by
  fun_induction readMembers? mode classes s with
  | case1 => cases h
  | case2 classes s c tail hskip _ =>
    have hs := mode.length_skip_le s
    rw [hskip, List.length_cons] at hs
    cases h
    omega
  | case3 => cases h
  | case4 classes s c tail hskip _ next after hpart hlt ih =>
    exact Nat.le_trans (ih h) (Nat.le_of_lt hlt)

theorem length_le_of_readClass? {mode : Mode} {s rest : List Char} {depth : Nat}
    (h : readClass? mode s = some (depth, rest)) : rest.length ≤ s.length := by
  rw [readClass?] at h
  split at h
  · cases h
  · next hopen =>
    exact Nat.le_trans (length_le_of_readMembers? h) (length_le_of_openClass? hopen)

end Tunnel.Pattern
