import Tunnel.Bytes
import Tunnel.Route.Destination
import Tunnel.Route.Link
import Tunnel.Route.Netmask

/-!
# Route messages

A request to a routing socket: add a route to a destination by way of a link-layer address. The
message is a header of 152 octets and the socket addresses that the header's bit set announces, in
the order of the bits, each padded to a multiple of the machine word. Numbers are least significant
octet first.

## Main definitions

* `RouteMessage` — a request
* `RouteMessage.add` — the request for a destination and a gateway
* `RouteMessage.socketAddresses` — the addresses it carries, in order
* `paddedSize` — the room that a socket address takes
* `RouteMessage.encode` — the message as octets, numbered

## Main results

* `RouteMessage.length_header` — the header has its fixed length
* `RouteMessage.addresses_add` — a netmask is announced exactly when there is one
-/

namespace Tunnel

/-- The number of octets in a machine word. -/
def wordSize : UInt64 := 8

/-- The room for a socket address of `length` octets: the next multiple of the machine word, and
one word for an empty address. The arithmetic is that of 64-bit words. -/
def paddedSize (length : UInt64) : UInt64 :=
  if length = 0 then wordSize else 1 + ((length - 1) ||| (wordSize - 1))

/-- The room for these octets. -/
def Bytes.room (octets : Bytes) : Nat := (paddedSize (UInt64.ofNat octets.length)).toNat

/-- The octets followed by zeros that fill their room. -/
def Bytes.padded (octets : Bytes) : Bytes := octets ++ Bytes.zeros (octets.room - octets.length)

/-! ### Socket addresses of the Internet families -/

namespace SocketAddress

/-- The tag of an IPv4 socket address. -/
def inetTag : UInt8 := 2

/-- The tag of an IPv6 socket address. -/
def inet6Tag : UInt8 := 28

/-- An IPv4 socket address: its length, its tag, no service, the octets, and zeros. -/
def inet (octets : Bytes) : Bytes := [16, inetTag, 0, 0] ++ octets ++ Bytes.zeros 8

/-- An IPv6 socket address: its length, its tag, no service and no flow, the octets, no scope. -/
def inet6 (octets : Bytes) : Bytes := [28, inet6Tag, 0, 0, 0, 0, 0, 0] ++ octets ++ Bytes.zeros 4

/-- A socket address of the family of `address` that holds `octets`. -/
def ofFamily (address : Address) (octets : Bytes) : Bytes :=
  match address with
  | .v4 _ => inet octets
  | .v6 _ => inet6 octets

end SocketAddress

/-- A request to add a route. -/
structure RouteMessage where
  flags : UInt32
  /-- Which socket addresses are there. -/
  addresses : UInt32
  destination : Bytes
  gateway : Bytes
  netmask : Option Bytes
deriving DecidableEq, Repr

namespace RouteMessage

/-! ### Numbers of the header -/

def version : UInt8 := 5
def addRequest : UInt8 := 1

/-- The route is usable. -/
def flagUp : UInt32 := 0x1

/-- The destination is a single address. -/
def flagHost : UInt32 := 0x4

/-- The route was added by hand. -/
def flagStatic : UInt32 := 0x800

def hasDestination : UInt32 := 0x1
def hasGateway : UInt32 := 0x2
def hasNetmask : UInt32 := 0x4

/-- The number of octets in the header. -/
def headerLength : Nat := 152

/-- The number of octets at the end of the header that hold initial metrics; all are zero. -/
def metricsLength : Nat := 120

/-- The request for `destination` by way of `gateway`. The route to a single address is marked as
such and carries no netmask; any other carries one, and so cannot be a default route. -/
def add (destination : RoutePrefix) (gateway : LinkAddress) : Except Error RouteMessage :=
  let address := destination.address
  let target := SocketAddress.ofFamily address destination.octets
  if destination.isHost then
    .ok {
      flags := flagUp ||| flagStatic ||| flagHost
      addresses := hasDestination ||| hasGateway
      destination := target
      gateway := gateway.bytes
      netmask := none }
  else match Netmask.build destination.family destination.length with
    | .error e => .error e
    | .ok mask =>
      .ok {
        flags := flagUp ||| flagStatic
        addresses := hasDestination ||| hasGateway ||| hasNetmask
        destination := target
        gateway := gateway.bytes
        netmask := some (SocketAddress.ofFamily address mask) }

/-- The socket addresses, in the order of their bits. -/
def socketAddresses (m : RouteMessage) : List Bytes :=
  m.destination :: m.gateway :: m.netmask.toList

/-- The number of octets of the encoded message. -/
def length (m : RouteMessage) : Nat :=
  headerLength + (m.socketAddresses.map Bytes.room).foldr (· + ·) 0

/-- The header: length, version, kind of request, no interface number, flags, bit set, no process,
sequence number, no error, no metrics asked for, no metrics given. -/
def header (m : RouteMessage) (length : UInt16) (sequence : UInt32) : Bytes :=
  Bytes.ofUInt16LE length ++ [version, addRequest, 0, 0, 0, 0] ++ Bytes.ofUInt32LE m.flags ++
    Bytes.ofUInt32LE m.addresses ++ Bytes.zeros 4 ++ Bytes.ofUInt32LE sequence ++
    Bytes.zeros 8 ++ Bytes.zeros metricsLength

/-- The message as octets, numbered `sequence`. -/
def encode (m : RouteMessage) (sequence : UInt32) : Except Error Bytes :=
  if 0xFFFF < m.length then
    .error (.preconditionViolation ("route message too long: " ++ toString m.length))
  else
    .ok (m.header (UInt16.ofNat m.length) sequence ++ (m.socketAddresses.map Bytes.padded).flatten)

@[simp] theorem length_header (m : RouteMessage) (length : UInt16) (sequence : UInt32) :
    (m.header length sequence).length = headerLength := by
  simp [header, headerLength, metricsLength]

theorem addresses_add {destination : RoutePrefix} {gateway : LinkAddress} {m : RouteMessage}
    (h : add destination gateway = .ok m) :
    m.addresses &&& hasNetmask ≠ 0 ↔ m.netmask.isSome = true := by
  simp only [add] at h
  split at h
  · cases h
    have : (hasDestination ||| hasGateway) &&& hasNetmask = 0 := by decide
    simp [this]
  · split at h
    · cases h
    · cases h
      have : (hasDestination ||| hasGateway ||| hasNetmask) &&& hasNetmask ≠ 0 := by decide
      simp [this]

end RouteMessage

end Tunnel
