import Tunnel.Text.Digits

/-!
# Writing JSON

Strings are written between quotes; the quote, the backslash and the controls are escaped and all
else stands for itself. Lists and objects are written in one of two layouts: without any blank, or
with every item on a line of its own, two spaces further in than the brackets around it.

## Main definitions

* `Json.quoted` — a string
* `Json.Layout` — the two layouts
* `Json.Layout.list`, `Json.Layout.object` — items between brackets

## Main results

* `Json.Layout.block_nil` — without items the brackets touch, in both layouts
-/

namespace Tunnel.Json

/-- A control character by its number, in four hexadecimal digits. -/
def numbered (c : Char) : List Char :=
  let digits := Text.hexDigits c.toNat
  '\\' :: 'u' :: (List.replicate (4 - digits.length) '0' ++ digits)

/-- A character as it stands in a string. -/
def escaped (c : Char) : List Char :=
  if c = '"' then ['\\', '"']
  else if c = '\\' then ['\\', '\\']
  else if c = '\x08' then ['\\', 'b']
  else if c = '\x0c' then ['\\', 'f']
  else if c = '\n' then ['\\', 'n']
  else if c = '\r' then ['\\', 'r']
  else if c = '\t' then ['\\', 't']
  else if c.toNat < 0x20 then numbered c
  else [c]

/-- A string between quotes. -/
def quoted (s : List Char) : List Char := '"' :: (s.flatMap escaped ++ ['"'])

/-- How lists and objects are laid out. -/
inductive Layout
  /-- Without any blank. -/
  | compact
  /-- With every item on a line of its own. -/
  | pretty
deriving DecidableEq, Repr

namespace Layout

/-- The start of a line at a depth. -/
def lineBreak (depth : Nat) : List Char := '\n' :: List.replicate (2 * depth) ' '

/-- Items between brackets; `depth` is how deep the brackets stand. -/
def block (layout : Layout) (depth : Nat) (opening closing : Char) (items : List (List Char)) :
    List Char :=
  if items = [] then [opening, closing]
  else match layout with
    | compact => opening :: ([','].intercalate items ++ [closing])
    | pretty =>
      opening :: (lineBreak (depth + 1) ++ (',' :: lineBreak (depth + 1)).intercalate items ++
        lineBreak depth ++ [closing])

/-- A list. -/
def list (layout : Layout) (depth : Nat) (items : List (List Char)) : List Char :=
  layout.block depth '[' ']' items

/-- What stands between a name and its value. -/
def separator : Layout → List Char
  | compact => [':']
  | pretty => [':', ' ']

/-- An object. -/
def object (layout : Layout) (depth : Nat) (members : List (String × List Char)) : List Char :=
  layout.block depth '{' '}'
    (members.map fun (name, value) => quoted name.toList ++ layout.separator ++ value)

@[simp] theorem block_nil (layout : Layout) (depth : Nat) (opening closing : Char) :
    layout.block depth opening closing [] = [opening, closing] := rfl

end Layout

end Tunnel.Json
