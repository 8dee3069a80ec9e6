import Tunnel.Bytes

/-!
# Link-layer addresses

The identity of an interface below the Internet layer, as a routing socket knows it: an octet
string that begins with its own length and with the tag of its kind. A route goes out by naming
this address as its gateway. Length and tag follow from the rest, so only the rest is kept.

## Main definitions

* `LinkAddress` — what follows the length and the tag
* `LinkAddress.bytes` — the whole octet string
* `LinkAddress.ofBytes?` — taking one from the front of what the kernel reported
* `LinkAddress.index` — the number of the interface

## Main results

* `LinkAddress.ofBytes?_bytes_append` — an address is read back from its own octets, whatever
  follows them
-/

namespace Tunnel

/-- A link-layer address: 8 octets at least, and no more than its length octet can tell. -/
structure LinkAddress where
  /-- What follows the length and the tag. -/
  body : Bytes
  le_length_body : 6 ≤ body.length
  length_body_lt : body.length < 254
deriving DecidableEq

namespace LinkAddress

/-- The tag of a link-layer address. -/
def tag : UInt8 := 18

/-- The number of octets ahead of the name and the hardware address. -/
def fixedLength : Nat := 8

/-- The number of octets in all. -/
def length (link : LinkAddress) : Nat := link.body.length + 2

/-- The whole octet string. -/
def bytes (link : LinkAddress) : Bytes := UInt8.ofNat link.length :: tag :: link.body

theorem le_length_take {length : UInt8} {rest : Bytes}
    (h : fixedLength ≤ length.toNat ∧ length.toNat ≤ rest.length + 2) :
    6 ≤ (rest.take (length.toNat - 2)).length := by
  have hfixed : 8 ≤ length.toNat := h.1
  have hthere := h.2
  rw [List.length_take]
  omega

theorem length_take_lt (length : UInt8) (rest : Bytes) :
    (rest.take (length.toNat - 2)).length < 254 := by
  have := length.toNat_lt
  rw [List.length_take]
  omega

/-- The address at the front of what the kernel reported. It has to be tagged as one, to have its
fixed part, and to be there in full length. -/
def ofBytes? : Bytes → Option LinkAddress
  | length :: tagged :: rest =>
    if h : tagged = tag ∧ fixedLength ≤ length.toNat ∧ length.toNat ≤ rest.length + 2 then
      some ⟨rest.take (length.toNat - 2), le_length_take h.2, length_take_lt length rest⟩
    else none
  | _ => none

/-- The number of the interface: the third and fourth octets, least significant first. -/
def index (link : LinkAddress) : UInt16 :=
  Bytes.uint16LE (link.body.headD 0) (link.body.tail.headD 0)

@[simp] theorem length_bytes (link : LinkAddress) : link.bytes.length = link.length := rfl

theorem le_length (link : LinkAddress) : fixedLength ≤ link.length :=
  Nat.add_le_add_right link.le_length_body 2

theorem length_lt (link : LinkAddress) : link.length < 256 :=
  Nat.add_lt_add_right link.length_body_lt 2

theorem ext_body {a b : LinkAddress} (h : a.body = b.body) : a = b := by
  cases a
  cases b
  cases h
  rfl

theorem ofBytes?_bytes_append (link : LinkAddress) (more : Bytes) :
    ofBytes? (link.bytes ++ more) = some link := by
  have hlength : (UInt8.ofNat link.length).toNat = link.body.length + 2 :=
    UInt8.toNat_ofNat_of_lt link.length_lt
  have hfixed := link.le_length_body
  simp only [bytes, List.cons_append, ofBytes?]
  rw [dif_pos ⟨trivial, by rw [hlength]; exact link.le_length, by
    rw [hlength, List.length_append]; omega⟩]
  refine congrArg some (ext_body ?_)
  simp [hlength]

end LinkAddress

end Tunnel
