import Tunnel.Json.Skip

/-!
# Values of a wanted type

Readers for strings, for strings that may be missing, for lists, and for the choice of a name. Where
a value of another type stands, a literal, number or string is read to its end before it is refused,
while a list or an object is refused at its opening bracket.

## Main definitions

* `Json.readFound`, `Json.wrongType` — naming what stands where something else is wanted
* `Json.text`, `Json.optionalText`, `Json.checkedText`, `Json.choice` — readers of wanted values
* `Json.nextItem`, `Json.nextMember` — going on in a list and in an object
* `Json.array` — a list of wanted values
* `Json.readDocument` — a value that is the whole text
-/

namespace Tunnel.Json

/-- What stands at the front of a text without leading blanks. -/
def readFound (s : List Char) : Except Fault Found :=
  match s with
  | [] => .error .expectedValue
  | '"' :: rest => (readString rest).map fun (value, _) => .string value
  | 'n' :: rest => (readWord ['u', 'l', 'l'] rest).map fun _ => .null
  | 't' :: rest => (readWord ['r', 'u', 'e'] rest).map fun _ => .boolean true
  | 'f' :: rest => (readWord ['a', 'l', 's', 'e'] rest).map fun _ => .boolean false
  | '[' :: _ => .ok .sequence
  | '{' :: _ => .ok .map
  | c :: _ => if c = '-' ∨ isDigit c then (readNumber s).map Prod.fst else .error .expectedValue

/-- Why the value at the front of the text is refused where `expected` is wanted. -/
def wrongType (expected : String) (s : List Char) : Fault :=
  match readFound s with
  | .ok found => .mismatch (.wrongType found expected)
  | .error fault => fault

/-! ### Strings -/

/-- A string. -/
def readText (s : List Char) : Reading String :=
  match skipBlank s with
  | [] => .error .endInValue
  | '"' :: rest => readString rest
  | t => .error (wrongType "a string" t)

theorem readText_length_lt {s rest : List Char} {value : String}
    (h : readText s = .ok (value, rest)) : rest.length < s.length := by
  have hs := length_skipBlank_le s
  rw [readText] at h
  split at h
  · cases h
  · next hquote =>
    rw [hquote, List.length_cons] at hs
    have := readString_length_lt h
    omega
  · cases h

/-- The reader of strings. -/
def text : Reader String := ⟨readText, readText_length_lt⟩

/-- A string or `null`. -/
def readOptionalText (s : List Char) : Reading (Option String) :=
  match skipBlank s with
  | 'n' :: rest => (readWord ['u', 'l', 'l'] rest).map fun rest => (none, rest)
  | _ => (readText s).map fun (value, rest) => (some value, rest)

theorem readOptionalText_length_lt {s rest : List Char} {value : Option String}
    (h : readOptionalText s = .ok (value, rest)) : rest.length < s.length := by
  have hs := length_skipBlank_le s
  rw [readOptionalText] at h
  split at h
  · next tail hnull =>
    rw [hnull, List.length_cons] at hs
    cases hword : readWord ['u', 'l', 'l'] tail with
    | error e => simp [hword, Except.map] at h
    | ok after =>
      simp only [hword, Except.map] at h
      rw [← rest_eq_of_ok_eq h]
      have := readWord_length_le hword
      omega
  · cases htext : readText s with
    | error e => simp [htext, Except.map] at h
    | ok p =>
      simp only [htext, Except.map] at h
      rw [← rest_eq_of_ok_eq h]
      exact readText_length_lt htext

/-- The reader of strings that may be missing. -/
def optionalText : Reader (Option String) := ⟨readOptionalText, readOptionalText_length_lt⟩

/-- A string from which a value is made, or which is refused with a reason. -/
def readChecked {α : Type} (make : String → Except String α) (s : List Char) : Reading α :=
  match readText s with
  | .error fault => .error fault
  | .ok (value, rest) =>
    match make value with
    | .ok a => .ok (a, rest)
    | .error reason => .error (.mismatch (.refused reason))

theorem readChecked_length_lt {α : Type} {make : String → Except String α} {s rest : List Char}
    {a : α} (h : readChecked make s = .ok (a, rest)) : rest.length < s.length := by
  rw [readChecked] at h
  split at h
  · cases h
  · next htext =>
    split at h
    · rw [← rest_eq_of_ok_eq h]
      exact readText_length_lt htext
    · cases h

/-- The reader of values that are made from strings. -/
def checkedText {α : Type} (make : String → Except String α) : Reader α :=
  ⟨readChecked make, readChecked_length_lt⟩

/-! ### The choice of a name -/

/-- `null`, where nothing else may stand. -/
def readUnit (s : List Char) : Except Fault (List Char) :=
  match skipBlank s with
  | [] => .error .endInValue
  | 'n' :: rest => readWord ['u', 'l', 'l'] rest
  | t => .error (wrongType "unit" t)

/-- The colon between a name and its value. -/
def readColon (s : List Char) : Except Fault (List Char) :=
  match skipBlank s with
  | [] => .error .endInObject
  | ':' :: rest => .ok rest
  | _ => .error .expectedColon

/-- What one may choose from: the names, and what each stands for. -/
structure Choice (α : Type) where
  names : List String
  find? : String → Option α

/-- The name behind its opening quote. -/
def Choice.readName {α : Type} (choice : Choice α) (s : List Char) : Reading α :=
  match readString s with
  | .error fault => .error fault
  | .ok (name, rest) =>
    match choice.find? name with
    | some a => .ok (a, rest)
    | none => .error (.mismatch (.unknownVariant name choice.names))

/-- The chosen name as the only member of an object, behind its bracket. The member is `null`. -/
def Choice.readMember {α : Type} (choice : Choice α) (s : List Char) : Reading α :=
  match skipBlank s with
  | [] => .error .endInValue
  | '"' :: rest =>
    match choice.readName rest with
    | .error fault => .error fault
    | .ok (a, rest) =>
      match readColon rest with
      | .error fault => .error fault
      | .ok rest =>
        match readUnit rest with
        | .error fault => .error fault
        | .ok rest =>
          match skipBlank rest with
          | [] => .error .endInObject
          | '}' :: rest => .ok (a, rest)
          | _ => .error .expectedValue
  | _ => .error .keyMustBeString

/-- A chosen name, as a string or as an object. -/
def Choice.read {α : Type} (choice : Choice α) (s : List Char) : Reading α :=
  match skipBlank s with
  | [] => .error .endInValue
  | '{' :: rest => choice.readMember rest
  | '"' :: rest => choice.readName rest
  | _ => .error .expectedValue

theorem readUnit_length_lt {s rest : List Char} (h : readUnit s = .ok rest) :
    rest.length < s.length := by
  have hs := length_skipBlank_le s
  rw [readUnit] at h
  split at h
  · cases h
  · next hnull =>
    rw [hnull, List.length_cons] at hs
    have := readWord_length_le h
    omega
  · cases h

theorem readColon_length_lt {s rest : List Char} (h : readColon s = .ok rest) :
    rest.length < s.length := by
  have hs := length_skipBlank_le s
  rw [readColon] at h
  split at h
  · cases h
  · next hcolon =>
    cases h
    rw [hcolon, List.length_cons] at hs
    exact hs
  · cases h

theorem Choice.readName_length_lt {α : Type} {choice : Choice α} {s rest : List Char} {a : α}
    (h : choice.readName s = .ok (a, rest)) : rest.length < s.length := by
  rw [Choice.readName] at h
  split at h
  · cases h
  · next hstring =>
    split at h
    · rw [← rest_eq_of_ok_eq h]
      exact readString_length_lt hstring
    · cases h

theorem Choice.readMember_length_lt {α : Type} {choice : Choice α} {s rest : List Char} {a : α}
    (h : choice.readMember s = .ok (a, rest)) : rest.length < s.length := by
  have hs := length_skipBlank_le s
  rw [Choice.readMember] at h
  split at h
  · cases h
  · next hquote =>
    rw [hquote, List.length_cons] at hs
    split at h
    · cases h
    · next hname =>
      have := Choice.readName_length_lt hname
      split at h
      · cases h
      · next hcolon =>
        have := readColon_length_lt hcolon
        split at h
        · cases h
        · next after hunit =>
          have := readUnit_length_lt hunit
          have hafter := length_skipBlank_le after
          split at h
          · cases h
          · next hbrace =>
            rw [← rest_eq_of_ok_eq h]
            rw [hbrace, List.length_cons] at hafter
            omega
          · cases h
  · cases h

theorem Choice.read_length_lt {α : Type} {choice : Choice α} {s rest : List Char} {a : α}
    (h : choice.read s = .ok (a, rest)) : rest.length < s.length := by
  have hs := length_skipBlank_le s
  rw [Choice.read] at h
  split at h
  · cases h
  · next hbrace =>
    rw [hbrace, List.length_cons] at hs
    have := Choice.readMember_length_lt h
    omega
  · next hquote =>
    rw [hquote, List.length_cons] at hs
    have := Choice.readName_length_lt h
    omega
  · cases h

/-- The reader of a choice. -/
def choice {α : Type} (options : Choice α) : Reader α := ⟨options.read, options.read_length_lt⟩

/-! ### Lists and objects -/

/-- What comes next in a list or an object. -/
inductive Next
  /-- An item, at which the text stands; in an object, behind the opening quote of its name. -/
  | item (s : List Char)
  /-- The end, behind which the text stands. -/
  | finish (rest : List Char)
deriving DecidableEq, Repr

/-- What comes next in a list. -/
def nextItem (isFirst : Bool) (s : List Char) : Except Fault Next :=
  match skipBlank s with
  | [] => .error .endInList
  | ']' :: rest => .ok (.finish rest)
  | t =>
    if isFirst then .ok (.item t)
    else match t with
      | ',' :: rest =>
        match skipBlank rest with
        | [] => .error .endInValue
        | ']' :: _ => .error .trailingComma
        | u => .ok (.item u)
      | _ => .error .expectedListCommaOrEnd

/-- What comes next in an object. -/
def nextMember (isFirst : Bool) (s : List Char) : Except Fault Next :=
  match skipBlank s with
  | [] => .error .endInObject
  | '}' :: rest => .ok (.finish rest)
  | t =>
    if isFirst then
      match t with
      | '"' :: rest => .ok (.item rest)
      | _ => .error .keyMustBeString
    else match t with
      | ',' :: rest =>
        match skipBlank rest with
        | [] => .error .endInValue
        | '"' :: rest => .ok (.item rest)
        | '}' :: _ => .error .trailingComma
        | _ => .error .keyMustBeString
      | _ => .error .expectedObjectCommaOrEnd

/-- The end of a list in which nothing more is wanted. -/
def closeList (s : List Char) : Except Fault (List Char) :=
  match skipBlank s with
  | [] => .error .endInList
  | ']' :: rest => .ok rest
  | ',' :: rest =>
    match skipBlank rest with
    | ']' :: _ => .error .trailingComma
    | _ => .error .trailingCharacters
  | _ => .error .trailingCharacters

theorem nextItem_item_length_le {isFirst : Bool} {s t : List Char}
    (h : nextItem isFirst s = .ok (.item t)) : t.length ≤ s.length := by
  have hs := length_skipBlank_le s
  rw [nextItem] at h
  split at h
  · cases h
  · cases h
  · split at h
    · cases h
      exact hs
    · split at h
      · next rest hcomma =>
        have hrest := length_skipBlank_le rest
        rw [hcomma, List.length_cons] at hs
        split at h
        · cases h
        · cases h
        · cases h
          omega
      · cases h

theorem nextItem_finish_length_lt {isFirst : Bool} {s t : List Char}
    (h : nextItem isFirst s = .ok (.finish t)) : t.length < s.length := by
  have hs := length_skipBlank_le s
  rw [nextItem] at h
  split at h
  · cases h
  · next hend =>
    cases h
    rw [hend, List.length_cons] at hs
    exact hs
  · split at h
    · cases h
    · split at h
      · split at h <;> cases h
      · cases h

/-- The items of a list from where the text stands, up to the closing bracket, which is taken as
well. -/
def readItems {α : Type} (element : Reader α) (isFirst : Bool) (s : List Char) :
    Reading (List α) :=
  match hnext : nextItem isFirst s with
  | .error fault => .error fault
  | .ok (.finish rest) => .ok ([], rest)
  | .ok (.item t) =>
    match hitem : element.run t with
    | .error fault => .error fault
    | .ok (a, rest) =>
      have : rest.length < s.length :=
        Nat.lt_of_lt_of_le (element.shrinks hitem) (nextItem_item_length_le hnext)
      match readItems element false rest with
      | .error fault => .error fault
      | .ok (later, rest) => .ok (a :: later, rest)
termination_by s.length

/-- A list. -/
def readArray {α : Type} (element : Reader α) (s : List Char) : Reading (List α) :=
  match skipBlank s with
  | [] => .error .endInValue
  | '[' :: rest => readItems element true rest
  | t => .error (wrongType "a sequence" t)

theorem readItems_length_lt {α : Type} {element : Reader α} {isFirst : Bool} {s rest : List Char}
    {items : List α} (h : readItems element isFirst s = .ok (items, rest)) :
    rest.length < s.length := by
  fun_induction readItems element isFirst s generalizing items rest with
  | case1 => cases h
  | case2 isFirst s tail hnext =>
    cases h
    exact nextItem_finish_length_lt hnext
  | case3 => cases h
  | case4 => cases h
  | case5 isFirst s t hnext a tail hitem hlt later after hlater ih =>
    rw [← rest_eq_of_ok_eq h]
    exact Nat.lt_trans (ih hlater) hlt

theorem readArray_length_lt {α : Type} {element : Reader α} {s rest : List Char} {items : List α}
    (h : readArray element s = .ok (items, rest)) : rest.length < s.length := by
  have hs := length_skipBlank_le s
  rw [readArray] at h
  split at h
  · cases h
  · next hbracket =>
    rw [hbracket, List.length_cons] at hs
    have := readItems_length_lt h
    omega
  · cases h

/-- The reader of lists. -/
def array {α : Type} (element : Reader α) : Reader (List α) :=
  ⟨readArray element, readArray_length_lt⟩

/-! ### Documents -/

/-- A value that is the whole text, blanks around it apart. -/
def readDocument {α : Type} (reader : Reader α) (s : List Char) : Except Fault α :=
  match reader.run s with
  | .error fault => .error fault
  | .ok (a, rest) => if skipBlank rest = [] then .ok a else .error .trailingCharacters

end Tunnel.Json
