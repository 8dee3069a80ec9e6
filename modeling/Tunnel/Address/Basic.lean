import Tunnel.Bytes
import Tunnel.Family

/-!
# Internet addresses

An address is four octets or eight groups of sixteen bits. Both have one form as octets, in network
order, from which the address can be had back.

## Main definitions

* `Ipv4`, `Ipv6` — addresses of the two families
* `Address` — an address of either
* `Address.octets`, `Address.ofOctets?` — its octets in network order, and back

## Main results

* `Address.length_octets` — an address has as many octets as its family is wide
* `Address.ofOctets?_octets` — an address is had back from its octets
* `Ipv6.ofGroups?_eq_some_iff` — an address is its eight groups
-/

namespace Tunnel

/-- An IPv4 address. -/
structure Ipv4 where
  first : UInt8
  second : UInt8
  third : UInt8
  fourth : UInt8
deriving DecidableEq, Repr

/-- An IPv6 address. -/
structure Ipv6 where
  /-- The eight groups of sixteen bits, most significant first. -/
  groups : List UInt16
  /-- There are eight of them. -/
  length_groups : groups.length = 8
deriving DecidableEq

/-- An Internet address. -/
inductive Address
  | v4 (address : Ipv4)
  | v6 (address : Ipv6)
deriving DecidableEq

namespace Ipv4

/-- The octets in network order. -/
def octets (a : Ipv4) : Bytes := [a.first, a.second, a.third, a.fourth]

/-- The address as the last two groups of an IPv6 address. -/
def groups (a : Ipv4) : List UInt16 :=
  [Bytes.uint16BE a.first a.second, Bytes.uint16BE a.third a.fourth]

/-- The address whose two groups are `high` and `low`. -/
def ofGroups (high low : UInt16) : Ipv4 :=
  ⟨(high >>> 8).toUInt8, high.toUInt8, (low >>> 8).toUInt8, low.toUInt8⟩

@[simp] theorem length_octets (a : Ipv4) : a.octets.length = 4 := rfl

@[simp] theorem length_groups (a : Ipv4) : a.groups.length = 2 := rfl

end Ipv4

namespace Ipv6

/-- The address with these groups, if there are eight. -/
def ofGroups? (groups : List UInt16) : Option Ipv6 :=
  if h : groups.length = 8 then some ⟨groups, h⟩ else none

/-- The octets in network order. -/
def octets (a : Ipv6) : Bytes := a.groups.flatMap Bytes.ofUInt16BE

/-- Octets taken two by two as groups; an odd last octet is left out. -/
def groupsOfOctets : Bytes → List UInt16
  | hi :: lo :: rest => Bytes.uint16BE hi lo :: groupsOfOctets rest
  | _ => []

theorem ofGroups?_eq_some_iff {groups : List UInt16} {a : Ipv6} :
    ofGroups? groups = some a ↔ a.groups = groups := by
  constructor
  · intro h
    rw [ofGroups?] at h
    split at h
    · cases h; rfl
    · cases h
  · rintro rfl
    simp [ofGroups?, a.length_groups]

theorem length_flatMap_ofUInt16BE (groups : List UInt16) :
    (groups.flatMap Bytes.ofUInt16BE).length = 2 * groups.length := by
  induction groups with
  | nil => rfl
  | cons g gs ih =>
    rw [List.flatMap_cons, List.length_append, ih, Bytes.length_ofUInt16BE, List.length_cons]
    omega

@[simp] theorem length_octets (a : Ipv6) : a.octets.length = 16 := by
  rw [octets, length_flatMap_ofUInt16BE, a.length_groups]

theorem groupsOfOctets_flatMap (groups : List UInt16) :
    groupsOfOctets (groups.flatMap Bytes.ofUInt16BE) = groups := by
  induction groups with
  | nil => rfl
  | cons g gs ih =>
    rw [List.flatMap_cons, Bytes.ofUInt16BE, List.cons_append, List.cons_append, List.nil_append,
      groupsOfOctets, ih, Bytes.uint16BE_octets]

end Ipv6

namespace Address

/-- The family of an address; it is always one of the two recognized ones. -/
def family : Address → AddressFamily
  | v4 _ => .ipv4
  | v6 _ => .ipv6

/-- The width of an address in bits. -/
def width : Address → Nat
  | v4 _ => 32
  | v6 _ => 128

/-- The octets in network order. -/
def octets : Address → Bytes
  | v4 a => a.octets
  | v6 a => a.octets

/-- The address with these octets: four for IPv4, sixteen for IPv6. -/
def ofOctets? : Bytes → Option Address
  | [a, b, c, d] => some (v4 ⟨a, b, c, d⟩)
  | octets =>
    if octets.length = 16 then (Ipv6.ofGroups? (Ipv6.groupsOfOctets octets)).map v6 else none

@[simp] theorem width_family (a : Address) : a.family.width = some a.width := by
  cases a <;> rfl

theorem family_ne_unrecognized (a : Address) : a.family ≠ .unrecognized := by
  cases a <;> simp [family]

theorem width_le (a : Address) : a.width ≤ 128 := by
  cases a <;> simp [width]

theorem length_octets (a : Address) : 8 * a.octets.length = a.width := by
  cases a <;> simp [octets, width]

theorem ofOctets?_octets (a : Address) : ofOctets? a.octets = some a := by
  cases a with
  | v4 a => rfl
  | v6 a =>
    have hlength := a.length_octets
    have hgroups : Ipv6.groupsOfOctets a.octets = a.groups := Ipv6.groupsOfOctets_flatMap a.groups
    rw [octets, ofOctets?, if_pos hlength, hgroups, Ipv6.ofGroups?_eq_some_iff.2 rfl]
    · rfl
    · rintro b c d e h
      simp [h] at hlength

theorem octets_injective {a b : Address} (h : a.octets = b.octets) : a = b :=
  Option.some.inj (by rw [← ofOctets?_octets a, h, ofOctets?_octets])

end Address

end Tunnel
