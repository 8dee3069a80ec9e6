import Tunnel.Address.Basic
import Tunnel.Text.Digits

/-!
# Reading addresses

Each reader takes what it can from the front of a text and gives the rest back. A dotted address
has four decimal octets without leading zeros. A group has one to four hexadecimal digits; up to
eight of them, or fewer around one `::` that stands for at least one group, make an address, and a
dotted address may stand for the last two groups.

## Main definitions

* `Ipv4.read` — a dotted address
* `Ipv6.readGroups` — a bounded row of groups
* `Ipv6.read` — an address in groups
* `Address.parse?` — a text that is an address and nothing else

## Main results

* `Ipv6.length_readGroups_le` — a row of groups keeps to its bound
* `Address.parse?_eq_some_iff_of_dotted` — once a dotted address has been read, nothing may follow
-/

namespace Tunnel

/-- A separator at the front of the text, unless the item to be read is the first. -/
def Address.readSeparator (separator : Char) (isFirst : Bool) (s : List Char) :
    Option (List Char) :=
  if isFirst then some s
  else match s with
    | c :: rest => if c = separator then some rest else none
    | [] => none

namespace Ipv4

/-- A decimal octet without leading zeros. All the digits at the front belong to it. -/
def readOctet (s : List Char) : Option (UInt8 × List Char) :=
  let digits := s.takeWhile (Text.isDigitOf 10)
  let value := Text.numeral 10 digits
  if digits.length = 0 ∨ 3 < digits.length then none
  else if digits.head? = some '0' ∧ 1 < digits.length then none
  else if 255 < value then none
  else some (value.toUInt8, s.dropWhile (Text.isDigitOf 10))

/-- An octet after the point that parts it from the one before. -/
def readNextOctet (s : List Char) : Option (UInt8 × List Char) := do
  readOctet (← Address.readSeparator '.' false s)

/-- A dotted address. -/
def read (s : List Char) : Option (Ipv4 × List Char) := do
  let (a, s) ← readOctet s
  let (b, s) ← readNextOctet s
  let (c, s) ← readNextOctet s
  let (d, s) ← readNextOctet s
  some (⟨a, b, c, d⟩, s)

end Ipv4

namespace Ipv6

/-- A group of one to four hexadecimal digits. All the digits at the front belong to it. -/
def readGroup (s : List Char) : Option (UInt16 × List Char) :=
  let digits := s.takeWhile (Text.isDigitOf 16)
  if digits.length = 0 ∨ 4 < digits.length then none
  else some ((Text.numeral 16 digits).toUInt16, s.dropWhile (Text.isDigitOf 16))

/-- A row of groups that was read. -/
structure Row where
  groups : List UInt16
  /-- Whether a dotted address ended the row. -/
  dotted : Bool
  rest : List Char

/-- As many groups as can be read, `slots` at most, with colons between them. Where two slots are
left, a dotted address may fill them and end the row. -/
def readGroups : (slots : Nat) → (isFirst : Bool) → List Char → Row
  | 0, _, s => ⟨[], false, s⟩
  | slots + 1, isFirst, s =>
    match Address.readSeparator ':' isFirst s with
    | none => ⟨[], false, s⟩
    | some t =>
      match if slots = 0 then none else Ipv4.read t with
      | some (v4, rest) => ⟨v4.groups, true, rest⟩
      | none =>
        match readGroup t with
        | none => ⟨[], false, s⟩
        | some (g, rest) =>
          let row := readGroups slots false rest
          { row with groups := g :: row.groups }

theorem length_readGroups_le (slots : Nat) (isFirst : Bool) (s : List Char) :
    (readGroups slots isFirst s).groups.length ≤ slots := by
  induction slots generalizing isFirst s with
  | zero => exact Nat.le_refl 0
  | succ slots ih =>
    rw [readGroups]
    split
    · exact Nat.zero_le _
    · split
      · next h =>
        split at h
        · cases h
        · simp only [Ipv4.length_groups]
          omega
      · split
        · exact Nat.zero_le _
        · exact Nat.succ_le_succ (ih false _)

/-- Groups at both ends of an address, with zeros filled in between them. -/
def ofEnds? (front back : List UInt16) : Option Ipv6 :=
  ofGroups? (front ++ List.replicate (8 - (front.length + back.length)) 0 ++ back)

/-- An address in groups. -/
def read (s : List Char) : Option (Ipv6 × List Char) :=
  let front := readGroups 8 true s
  if front.groups.length = 8 then (ofGroups? front.groups).map (·, front.rest)
  else if front.dotted then none
  else match front.rest with
    | ':' :: ':' :: rest =>
      let back := readGroups (7 - front.groups.length) true rest
      (ofEnds? front.groups back.groups).map (·, back.rest)
    | _ => none

end Ipv6

namespace Address

/-- An address at the front of a text. A text that begins with a dotted address is never read as
groups. -/
def read (s : List Char) : Option (Address × List Char) :=
  match Ipv4.read s with
  | some (a, rest) => some (v4 a, rest)
  | none => (Ipv6.read s).map fun (a, rest) => (v6 a, rest)

/-- The address that is the whole of the text. -/
def parse? (s : List Char) : Option Address :=
  match read s with
  | some (a, []) => some a
  | _ => none

theorem parse?_eq_some_iff {s : List Char} {a : Address} :
    parse? s = some a ↔ read s = some (a, []) := by
  rw [parse?]
  split <;> simp_all

theorem parse?_eq_some_iff_of_dotted {s rest : List Char} {a : Ipv4} {b : Address}
    (h : Ipv4.read s = some (a, rest)) : parse? s = some b ↔ b = v4 a ∧ rest = [] := by
  rw [parse?_eq_some_iff]
  simp [read, h, eq_comm]

end Address

end Tunnel
