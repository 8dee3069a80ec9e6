import Tunnel.Address.Basic
import Tunnel.Text.Digits

/-!
# Addresses as text

An IPv4 address is written as four decimal octets. An IPv6 address is written as its groups in
hexadecimal with the first longest run of two or more zero groups left out; one that stands for an
IPv4 address ends in that address.

## Main definitions

* `Ipv4.render` — four octets between points
* `Ipv6.longestZeroRun` — where the run to be left out begins, and how long it is
* `Ipv6.mapped?` — the IPv4 address that an IPv6 address stands for
* `Ipv6.render`, `Address.render` — the text

## Main results

* `Ipv6.longestZeroRun_le` — the run lies inside the address
-/

namespace Tunnel

/-- The address as four decimal octets between points. -/
def Ipv4.render (a : Ipv4) : List Char :=
  ['.'].intercalate (a.octets.map fun octet => Text.decimalDigits octet.toNat)

namespace Ipv6

/-- The number of zero groups at the front. -/
def zeroRun (groups : List UInt16) : Nat := (groups.takeWhile (· == 0)).length

/-- Where the first longest run of zero groups begins, and its length. -/
def longestZeroRun : List UInt16 → Nat × Nat
  | [] => (0, 0)
  | g :: gs =>
    let here := zeroRun (g :: gs)
    let (start, length) := longestZeroRun gs
    if here < length then (start + 1, length) else (0, here)

/-- Groups in hexadecimal between colons. -/
def renderGroups (groups : List UInt16) : List Char :=
  [':'].intercalate (groups.map fun g => Text.hexDigits g.toNat)

/-- The IPv4 address that ends the address, if all before it is five zero groups and `ffff`. -/
def mapped? (a : Ipv6) : Option Ipv4 :=
  match a.groups with
  | [0, 0, 0, 0, 0, 0xFFFF, high, low] => some (Ipv4.ofGroups high low)
  | _ => none

/-- Groups with their first longest run of zeros, if it has two or more, written as `::`. -/
def renderCompressed (groups : List UInt16) : List Char :=
  let (start, length) := longestZeroRun groups
  if 1 < length then
    renderGroups (groups.take start) ++ ':' :: ':' :: renderGroups (groups.drop (start + length))
  else renderGroups groups

/-- The text of the address. -/
def render (a : Ipv6) : List Char :=
  match a.mapped? with
  | some v4 => "::ffff:".toList ++ v4.render
  | none => renderCompressed a.groups

theorem zeroRun_le (groups : List UInt16) : zeroRun groups ≤ groups.length :=
  (List.takeWhile_sublist _).length_le

theorem longestZeroRun_le (groups : List UInt16) :
    (longestZeroRun groups).1 + (longestZeroRun groups).2 ≤ groups.length := by
  induction groups with
  | nil => exact Nat.le_refl 0
  | cons g gs ih =>
    simp only [longestZeroRun]
    split
    · simp only [List.length_cons]
      omega
    · simpa using zeroRun_le (g :: gs)

end Ipv6

/-- The text of an address. -/
def Address.render : Address → List Char
  | v4 a => a.render
  | v6 a => a.render

end Tunnel
