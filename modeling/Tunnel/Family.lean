/-!
# Address families

The family of an address, of a frame and of a route: IPv4, IPv6, or unrecognized. The last is only
ever the outcome of reading a header; it can be neither written into a frame nor routed.

## Main definitions

* `AddressFamily` — the three families
* `AddressFamily.ofPacket`, `AddressFamily.ofEtherType` — reading a packet or a header
* `AddressFamily.etherType`, `AddressFamily.value`, `AddressFamily.width` — a family's numbers
* `AddressFamily.name`, `AddressFamily.ofName?` — its name in a configuration
* `AddressFamily.label` — its name in a message

## Main results

* `AddressFamily.ofEtherType_eq_iff` — an EtherType is read as a recognized family exactly when it
  is that family's
* `AddressFamily.ofName?_eq_some_iff` — each family is read from its own name and no other
-/

namespace Tunnel

/-- The family of an address, a frame or a route. -/
inductive AddressFamily
  | ipv4
  | ipv6
  | unrecognized
deriving DecidableEq, Repr

namespace AddressFamily

/-- The families that can be framed and routed. -/
def isRecognized (family : AddressFamily) : Bool := family != .unrecognized

/-! ### Numbers -/

/-- The EtherType of an IPv4 payload. -/
def etherTypeIpv4 : UInt16 := 0x0800

/-- The EtherType of an IPv6 payload. -/
def etherTypeIpv6 : UInt16 := 0x86DD

/-- The EtherType of a recognized family. -/
def etherType : AddressFamily → Option UInt16
  | .ipv4 => some etherTypeIpv4
  | .ipv6 => some etherTypeIpv6
  | .unrecognized => none

/-- The family that an EtherType names. -/
def ofEtherType (value : UInt16) : AddressFamily :=
  if value = etherTypeIpv4 then .ipv4
  else if value = etherTypeIpv6 then .ipv6
  else .unrecognized

/-- The host's number for the family; 255 stands for no family. -/
def value : AddressFamily → UInt32
  | .ipv4 => 2
  | .ipv6 => 10
  | .unrecognized => 255

/-- The width of an address in bits. -/
def width : AddressFamily → Option Nat
  | .ipv4 => some 32
  | .ipv6 => some 128
  | .unrecognized => none

/-- The width of an address in octets. -/
def octetWidth (family : AddressFamily) : Option Nat := family.width.map (· / 8)

/-- The family that the version half of a packet's first octet announces. -/
def ofPacket (packet : List UInt8) : AddressFamily :=
  match packet.head?.map fun first => first.toNat / 16 with
  | some 4 => .ipv4
  | some 6 => .ipv6
  | _ => .unrecognized

theorem etherType_eq_none_iff {family : AddressFamily} :
    family.etherType = none ↔ family = .unrecognized := by
  cases family <;> simp [etherType]

theorem ofEtherType_eq_iff {family : AddressFamily} {tag : UInt16} (h : family ≠ .unrecognized) :
    ofEtherType tag = family ↔ family.etherType = some tag := by
  cases family with
  | ipv4 => simp [ofEtherType, etherType, eq_comm]; split <;> simp_all
  | ipv6 =>
    simp only [ofEtherType, etherType, Option.some.injEq]
    constructor
    · split
      · simp
      · split <;> simp_all
    · rintro rfl
      decide
  | unrecognized => exact absurd rfl h

@[simp] theorem ofEtherType_etherType {family : AddressFamily} {tag : UInt16}
    (h : family.etherType = some tag) : ofEtherType tag = family :=
  (ofEtherType_eq_iff fun hf => by simp [hf, etherType] at h).2 h

/-! ### Names -/

/-- The family's name in a configuration. -/
def name : AddressFamily → String
  | .ipv4 => "ipv4"
  | .ipv6 => "ipv6"
  | .unrecognized => "unrecognized"

/-- The family with this configuration name. -/
def ofName? (text : String) : Option AddressFamily :=
  if text = "ipv4" then some .ipv4
  else if text = "ipv6" then some .ipv6
  else if text = "unrecognized" then some .unrecognized
  else none

theorem ofName?_eq_some_iff {text : String} {family : AddressFamily} :
    ofName? text = some family ↔ text = family.name := by
  constructor
  · intro h
    rw [ofName?] at h
    split at h
    · cases h; assumption
    · split at h
      · cases h; assumption
      · split at h
        · cases h; assumption
        · cases h
  · rintro rfl
    cases family <;> rfl

/-- The family's name in a message. -/
def label : AddressFamily → String
  | .ipv4 => "IPv4"
  | .ipv6 => "IPv6"
  | .unrecognized => "unrecognized(255)"

end AddressFamily

end Tunnel
