import Tunnel.Interface.Name

/-!
# Requests to the kernel

An interface is made and set up by control requests (`ioctl`) on a descriptor. Most of them carry a
record (`ifreq`) with the name of the interface and its flags, the rest carry a number. The two
platforms know the same kinds of request under different names and numbers, and with records of
different size.

## Main definitions

* `InterfaceRecord` — the record that most requests carry
* `ControlRequest` — a request with what it carries
* `Platform` — the two platforms
* `Platform.requestName`, `Platform.requestNumber` — how a platform knows a request
* `Platform.encode` — what a request carries, as octets

## Main results

* `Platform.length_encodeRecord` — a record has the size of its platform
-/

namespace Tunnel

/-- The record that most control requests carry (`ifreq`), and that the kernel may change. -/
structure InterfaceRecord where
  name : NameField
  flags : UInt16
  /-- The octets behind the flags: `ifr_flagshigh` and padding, or padding alone. The shorter record
  has only the first 14 of them. Nothing looks at them, but they go back to the kernel with a record
  that it has filled. -/
  rest : Vector UInt8 22
deriving DecidableEq

/-- A new record, with zeros behind the name and the flags. -/
def InterfaceRecord.ofName (name : String) (flags : UInt16) : InterfaceRecord :=
  ⟨NameField.ofName name, flags, .replicate 22 0⟩

/-- The flag of an interface that is up (`IFF_UP`). -/
def InterfaceRecord.flagUp : UInt16 := 1

/-- The record with the flag of an interface that is up added to its flags. -/
def InterfaceRecord.raised (record : InterfaceRecord) : InterfaceRecord :=
  { record with flags := record.flags ||| InterfaceRecord.flagUp }

/-- The kinds of control request. -/
inductive ControlKind
  /-- Makes an interface: `TUNSETIFF` or `SIOCIFCREATE2`. -/
  | create
  /-- Asks for the flags of an interface: `SIOCGIFFLAGS`. -/
  | getFlags
  /-- Sets them: `SIOCSIFFLAGS`. -/
  | setFlags
  /-- Takes an interface away: `SIOCIFDESTROY`. -/
  | destroy
  /-- Sets the mode of a device: `TUNSIFMODE`. -/
  | setMode
  /-- Sets whether the frames of a device have a header: `TUNSIFHEAD`. -/
  | setHead
deriving DecidableEq, Repr

/-- A control request with what it carries. -/
inductive ControlRequest
  | onInterface (kind : ControlKind) (record : InterfaceRecord)
  | onDevice (kind : ControlKind) (value : UInt32)
deriving DecidableEq

/-- The kind of a request. -/
def ControlRequest.kind : ControlRequest → ControlKind
  | onInterface kind _ => kind
  | onDevice kind _ => kind

/-- The two platforms on which interfaces can be made. -/
inductive Platform
  /-- Interfaces are cloned from one device and live as long as it is open. -/
  | linux
  /-- Interfaces are made by request, have a device each, and stay until they are taken away. -/
  | freebsd
deriving DecidableEq, Repr

namespace Platform

/-- The platform's name for a kind of request. -/
def requestName : Platform → ControlKind → String
  | linux, .create => "TUNSETIFF"
  | freebsd, .create => "SIOCIFCREATE2"
  | _, .getFlags => "SIOCGIFFLAGS"
  | _, .setFlags => "SIOCSIFFLAGS"
  | _, .destroy => "SIOCIFDESTROY"
  | _, .setMode => "TUNSIFMODE"
  | _, .setHead => "TUNSIFHEAD"

/-- The number of octets in a record. -/
def recordSize : Platform → Nat
  | linux => 40
  | freebsd => 32

/-- The number of octets that a request of this kind carries. -/
def carriedSize (platform : Platform) : ControlKind → Nat
  | .setMode | .setHead => 4
  | _ => platform.recordSize

/-- Whether the kernel writes into what a request carries. -/
def writesBack : ControlKind → Bool
  | .create | .getFlags => true
  | _ => false

/-- A request number put together from its direction, size, group and place in the group. -/
def composeNumber (kind : ControlKind) (size : Nat) (group : Char) (place : Nat) : UInt32 :=
  let direction : UInt32 := if writesBack kind then 0xC0000000 else 0x80000000
  direction ||| (UInt32.ofNat size &&& 0x1FFF) <<< 16 ||| UInt32.ofNat group.toNat <<< 8 |||
    UInt32.ofNat place

/-- The group of a kind of request, and its place in the group, where numbers are composed. -/
def groupAndPlace : ControlKind → Char × Nat
  | .create => ('i', 124)
  | .getFlags => ('i', 17)
  | .setFlags => ('i', 16)
  | .destroy => ('i', 121)
  | .setMode => ('t', 94)
  | .setHead => ('t', 96)

/-- The platform's number for a kind of request. -/
def requestNumber : Platform → ControlKind → UInt32
  | linux, .create => 0x400454CA
  | linux, .getFlags => 0x8913
  | linux, .setFlags => 0x8914
  | platform, kind =>
    let (group, place) := groupAndPlace kind
    composeNumber kind (platform.carriedSize kind) group place

-- The numbers under which FreeBSD's headers have these requests.
example : [.create, .getFlags, .setFlags, .destroy, .setMode, .setHead].map
      (requestNumber freebsd) =
    [0xC020697C, 0xC0206911, 0x80206910, 0x80206979, 0x8004745E, 0x80047460] := by
  decide

/-- A record as octets: the name, the flags, and as much of the rest as the record of the platform
has room for. -/
def encodeRecord (platform : Platform) (record : InterfaceRecord) : Bytes :=
  record.name.octets ++ Bytes.ofUInt16LE record.flags ++
    record.rest.toList.take (platform.recordSize - 18)

/-- What a request carries, as octets. -/
def encode (platform : Platform) : ControlRequest → Bytes
  | .onInterface _ record => platform.encodeRecord record
  | .onDevice _ value => Bytes.ofUInt32LE value

theorem length_encodeRecord (platform : Platform) (record : InterfaceRecord) :
    (platform.encodeRecord record).length = platform.recordSize := by
  simp only [encodeRecord, List.length_append, record.name.length_octets, Bytes.length_ofUInt16LE,
    List.length_take, Vector.length_toList]
  cases platform <;> rfl

end Platform

end Tunnel
