import Tunnel.Notice
import Tunnel.Pattern.Reader
import Tunnel.Text.Numeral
import Tunnel.Text.Utf8

/-!
# Directives

A directive allows notices up to a level: all of them, as in `warn`, or those whose target begins
with a text, as in `tunif::session=debug`. Brackets narrow it further, to what is told inside a span
of a name, to what carries a field, or to both, as in `tunif[open{message}]=info`. A directive
without a level allows every level.

## Main definitions

* `Directive` — a directive
* `Directive.rank?` — the level that a text names
* `Directive.read?` — reading a directive
* `Directive.isAbout` — whether it is about the notices of a target

## Main results

* `Directive.rank?_le` — a text names no rank beyond the last level
-/

namespace Tunnel

/-- A field that a directive asks for, by its name or by what it holds. -/
structure Directive.Field where
  name : List Char
  value : Option (List Char)
deriving DecidableEq, Repr

/-- A directive: which notices it is about, and up to which level it allows them. -/
structure Directive where
  /-- The text with which the target of a notice begins. -/
  target : List Char
  /-- The name of the span inside which the notice is told. -/
  span : Option (List Char)
  field : Option Directive.Field
  /-- The rank of the least grave level that is allowed; 0 allows none. -/
  rank : Nat
deriving DecidableEq, Repr

namespace Directive

/-! ### Levels -/

/-- The rank of the least grave level. -/
def lastRank : Nat := Level.trace.rank

/-- The ranks by name. -/
def ranks : List (String × Nat) :=
  [("off", 0), ("error", 1), ("warn", 2), ("info", 3), ("debug", 4), ("trace", 5)]

/-- The text without a plus sign in front. -/
def withoutPlus : List Char → List Char
  | '+' :: rest => rest
  | s => s

/-- The rank that a text gives as a number, which may have a plus sign in front. -/
def numberedRank? (s : List Char) : Option Nat :=
  let digits := withoutPlus s
  if digits ≠ [] ∧ digits.all (Text.isDigitOf 10) ∧ Text.numeral 10 digits ≤ lastRank then
    some (Text.numeral 10 digits)
  else none

/-- The rank that a text gives by name, in letters of either case. -/
def namedRank? (s : List Char) : Option Nat := ranks.lookup (String.ofList (s.map Char.toLower))

/-- The rank that a text gives, as a number or by name. -/
def rank? (s : List Char) : Option Nat := (numberedRank? s).or (namedRank? s)

/-- The rank behind an equals sign, where no text stands for every level. -/
def givenRank? (s : List Char) : Option Nat := if s = [] then some lastRank else rank? s

/-! ### Reading

The places of the parts are found in the text without the blanks at its ends, but the parts are cut
out of the whole text at these places, which are counted in octets. So a directive with blanks in
front says something else than it seems to: its target begins with a blank, and it cannot give a
level. -/

/-- The part of a text that has a length, from a place on. -/
def cut (s : List Char) (place length : Nat) : List Char :=
  Text.takeOctets length (Text.dropOctets place s)

/-- Whether a directive may begin with a character, brackets apart. -/
def isStart (c : Char) : Bool := c == '-' || c == ':' || c == '_' || Text.isAlphanumeric c

/-- What stands in front of the first of the marks, by its length, and what follows. -/
def splitBefore (marks s : List Char) : Nat × List Char :=
  (Text.octetLength (s.takeWhile fun c => !marks.contains c),
    s.dropWhile fun c => !marks.contains c)

/-- Reads a field: a name, or a name and what it holds with an equals sign between them, which is
the text of a number or a pattern. -/
def Field.read? (s : List Char) : Option Field :=
  match Text.splitAt '=' s with
  | name :: value :: _ =>
    if Text.isNumeral value || Pattern.isPattern value then some ⟨name, some value⟩ else none
  | _ => if s = [] then none else some ⟨s, none⟩

/-- Reads what follows the brackets, from a place on where `rest` is left: nothing, or a rank. -/
def readEnd? (s : List Char) (place : Nat) (rest : List Char) : Option Nat :=
  match rest with
  | [] => some lastRank
  | '=' :: _ => givenRank? (Text.dropOctets (place + 1) s)
  | _ => none

/-- Reads a field behind the brace that opens it at a place, and the end of the directive. -/
def readField? (s target : List Char) (span : Option (List Char)) (place : Nat)
    (inner : List Char) : Option Directive :=
  let (length, rest) := splitBefore ['}'] inner
  match rest with
  | '}' :: ']' :: rest =>
    match Field.read? (cut s place length), readEnd? s (place + length + 2) rest with
    | some field, some rank => some ⟨target, span, some field, rank⟩
    | _, _ => none
  | _ => none

/-- Reads a span behind the bracket that opens it at a place, and what follows. -/
def readSpan? (s target : List Char) (place : Nat) (inner : List Char) : Option Directive :=
  let (length, rest) := splitBefore [']', '{'] inner
  let name := cut s place length
  match rest with
  | ']' :: rest =>
    (readEnd? s (place + length + 1) rest).map fun rank => ⟨target, some name, none, rank⟩
  | '{' :: rest =>
    readField? s target (if length = 0 then none else some name) (place + length + 1) rest
  | _ => none

/-- Reads a directive without brackets or an equals sign: a level, or a target. -/
def ofWord (s : List Char) : Directive :=
  match rank? s with
  | some rank => ⟨[], none, none, rank⟩
  | none => ⟨s, none, none, lastRank⟩

/-- Reads a directive. -/
def read? (s : List Char) : Option Directive :=
  let body := Text.trim s
  let (length, rest) := splitBefore ['=', '['] body
  let target := Text.takeOctets length s
  match body.head? with
  | none => none
  | some c =>
    if c = '[' ∨ isStart c then
      match rest with
      | [] => some (ofWord s)
      | '[' :: inner => readSpan? s target (length + 1) inner
      | _ => (givenRank? (Text.dropOctets (length + 1) s)).map (⟨target, none, none, ·⟩)
    else none

/-! ### What a directive is about -/

/-- The name of the one field that a notice has. -/
def messageField : List Char := ['m', 'e', 's', 's', 'a', 'g', 'e']

/-- Whether a field is asked for that notices have. What a field holds is looked at in spans
alone. -/
def Field.isCarried (field : Field) : Bool := field.name == messageField && field.value.isNone

/-- Whether a directive is about the notices of a target, which are told outside of spans. -/
def isAbout (directive : Directive) (target : String) : Bool :=
  directive.target.isPrefixOf target.toList && directive.span.isNone &&
    directive.field.all Field.isCarried

/-- Whether a directive is less specific than another: the longer target counts, and then whether a
field is asked for. -/
def isWiderThan (a b : Directive) : Bool :=
  a.target.length < b.target.length ||
    (a.target.length == b.target.length && a.field.isNone && b.field.isSome)

theorem numberedRank?_le {s : List Char} {rank : Nat} (h : numberedRank? s = some rank) :
    rank ≤ lastRank := by
  simp only [numberedRank?] at h
  split at h
  · next hdigits =>
    cases h
    exact hdigits.2.2
  · cases h

theorem namedRank?_le {s : List Char} {rank : Nat} (h : namedRank? s = some rank) :
    rank ≤ lastRank := by
  have key : ∀ entry ∈ ranks, entry.2 ≤ lastRank := by decide
  obtain ⟨before, after, hranks, _⟩ := List.lookup_eq_some_iff.1 h
  exact key _ (hranks ▸ List.mem_append_right before List.mem_cons_self)

/-- A text gives no rank beyond the last level. -/
theorem rank?_le {s : List Char} {rank : Nat} (h : rank? s = some rank) : rank ≤ lastRank := by
  rcases Option.or_eq_some_iff.1 h with h | ⟨_, h⟩
  · exact numberedRank?_le h
  · exact namedRank?_le h

end Directive

end Tunnel
