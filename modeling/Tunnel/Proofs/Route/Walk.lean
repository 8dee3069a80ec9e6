import Mathlib.Algebra.Order.BigOperators.Group.List
import Mathlib.Algebra.Order.Ring.Nat
import Tunnel.Proofs.Route.Padding

/-!
# The walk through a route message

A routing socket reads a message on its own terms. It takes the numbers of the header from their
places, and then, for each set bit of the announced set in ascending order, one socket address: as
many octets as the first of them says, and on to the next whole word. Nothing tells it where an
address ends but that octet, so a message can be read only if every address in it tells its own
length and as many bits are set as there are addresses.

## Main definitions

* `Bytes.TellsLength` — octets that begin with their own number
* `RouteMessage.Stop`, `RouteMessage.walk?` — the addresses that the walk comes upon
* `RouteMessage.Reading`, `RouteMessage.read?` — a message read by the walk
* `RouteMessage.Walkable` — a message whose addresses tell their lengths, with a bit for each

## Main results

* `RouteMessage.walk?_padded` — the walk comes upon the padded addresses, one after the other
* `RouteMessage.Walkable.encode_eq` — such a message can always be encoded
* `RouteMessage.Walkable.read?_octets` — and is read back number by number, address by address
-/

namespace Tunnel

namespace Bytes

/-- The word of 16 bits at a place, least significant octet first. -/
def word16At? (octets : Bytes) (place : Nat) : Option UInt16 :=
  match octets.drop place with
  | lo :: hi :: _ => some (uint16LE lo hi)
  | _ => none

/-- The word of 32 bits at a place, least significant octet first. -/
def word32At? (octets : Bytes) (place : Nat) : Option UInt32 :=
  match octets.drop place with
  | a :: b :: c :: d :: _ => some (uint32LE a b c d)
  | _ => none

theorem word16At?_of_drop {octets rest : Bytes} {place : Nat} {word : UInt16}
    (h : octets.drop place = ofUInt16LE word ++ rest) : octets.word16At? place = some word := by
  rw [word16At?, h]
  exact congrArg some (uint16LE_octets word)

theorem word32At?_of_drop {octets rest : Bytes} {place : Nat} {word : UInt32}
    (h : octets.drop place = ofUInt32LE word ++ rest) : octets.word32At? place = some word := by
  rw [word32At?, h]
  exact congrArg some (uint32LE_octets word)

/-- The octets begin with their own number. -/
def TellsLength (octets : Bytes) : Prop :=
  octets.length < 256 ∧ octets.head? = some (UInt8.ofNat octets.length)

theorem TellsLength.pos {octets : Bytes} (h : octets.TellsLength) : 0 < octets.length := by
  cases octets with
  | nil => exact absurd h.2 (by simp)
  | cons _ _ => exact Nat.succ_pos _

theorem eq_zero_of_mem_zeros {n : Nat} : ∀ octet ∈ zeros n, octet = 0 :=
  fun _ h => List.eq_of_mem_replicate h

/-- What can be told in one octet is far below where the room would wrap. -/
theorem TellsLength.length_le {octets : Bytes} (h : octets.TellsLength) :
    octets.length ≤ 2 ^ 64 - 8 :=
  Nat.le_trans (Nat.le_of_lt h.1) (by decide)

theorem TellsLength.room_le {octets : Bytes} (h : octets.TellsLength) : octets.room ≤ 256 := by
  rw [room_eq h.pos h.length_le]
  have := h.1
  omega

end Bytes

namespace RouteMessage

/-! ### Walking -/

/-- A socket address as the walk comes upon it. -/
structure Stop where
  /-- The place of its bit in the announced set. -/
  bit : Nat
  octets : Bytes
  /-- The octets that are passed over behind it. -/
  padding : Bytes
deriving DecidableEq, Repr

/-- Takes a socket address off the front: as many octets as the first one says, with what is left
behind the next whole word. -/
def nextStop? (bit : Nat) (octets : Bytes) : Option (Stop × Bytes) :=
  match octets.head? with
  | none => none
  | some first =>
    let length := first.toNat
    let room := (paddedSize first.toUInt64).toNat
    if octets.length < room then none
    else some (⟨bit, octets.take length, (octets.take room).drop length⟩, octets.drop room)

/-- Takes one socket address for each bit. -/
def walk? : List Nat → Bytes → Option (List Stop × Bytes)
  | [], octets => some ([], octets)
  | bit :: later, octets => do
    let (stop, rest) ← nextStop? bit octets
    let (stops, rest) ← walk? later rest
    return (stop :: stops, rest)

/-- The stop at an address whose padding fills its room with zeros. -/
def Stop.padded (bit : Nat) (octets : Bytes) : Stop :=
  ⟨bit, octets, Bytes.zeros (octets.room - octets.length)⟩

theorem map_bit_zipWith_padded {bits : List Nat} {addresses : List Bytes}
    (h : bits.length = addresses.length) :
    (List.zipWith Stop.padded bits addresses).map Stop.bit = bits := by
  induction bits generalizing addresses with
  | nil => rfl
  | cons bit later ih =>
    cases addresses with
    | nil => exact absurd h (by simp)
    | cons octets others =>
      rw [List.zipWith_cons_cons, List.map_cons, ih (Nat.succ.inj h)]
      rfl

theorem padding_zipWith_padded (bits : List Nat) (addresses : List Bytes) :
    ∀ stop ∈ List.zipWith Stop.padded bits addresses, ∀ octet ∈ stop.padding, octet = 0 := by
  induction bits generalizing addresses with
  | nil => exact fun _ h => absurd h List.not_mem_nil
  | cons bit later ih =>
    cases addresses with
    | nil => exact fun _ h => absurd h List.not_mem_nil
    | cons octets others =>
      rw [List.zipWith_cons_cons, List.forall_mem_cons]
      exact ⟨Bytes.eq_zero_of_mem_zeros, ih others⟩

/-- **One step of the walk.** An address that tells its length is come upon whole, its padding is
passed over, and what follows is left. -/
theorem nextStop?_padded {octets : Bytes} (h : octets.TellsLength) (bit : Nat) (rest : Bytes) :
    nextStop? bit (octets.padded ++ rest) = some (.padded bit octets, rest) := by
  have hroom := Bytes.length_padded h.length_le
  have hhead : (octets.padded ++ rest).head? = some (UInt8.ofNat octets.length) := by
    rw [Bytes.padded, List.append_assoc, List.head?_append, h.2]
    rfl
  have htoNat : (UInt8.ofNat octets.length).toNat = octets.length := UInt8.toNat_ofNat_of_lt h.1
  have hsize : (paddedSize (UInt8.ofNat octets.length).toUInt64).toNat = octets.room := by
    rw [Bytes.room, ← UInt64.ofNat_uInt8ToNat, htoNat]
  have henough : ¬(octets.padded ++ rest).length < octets.room := by
    rw [List.length_append, hroom]
    omega
  have htake : (octets.padded ++ rest).take octets.length = octets := by
    rw [Bytes.padded, List.append_assoc, List.take_left]
  have hpadding : ((octets.padded ++ rest).take octets.room).drop octets.length =
      Bytes.zeros (octets.room - octets.length) := by
    rw [← hroom, List.take_left, hroom, Bytes.padded, List.drop_left]
  have hrest : (octets.padded ++ rest).drop octets.room = rest := by
    rw [← hroom, List.drop_left]
  rw [nextStop?, hhead]
  dsimp only
  rw [hsize, htoNat, if_neg henough, htake, hpadding, hrest]
  rfl

/-- **The walk.** With a bit for each, the padded addresses are come upon one after the other. -/
theorem walk?_padded {bits : List Nat} {addresses : List Bytes}
    (h : ∀ octets ∈ addresses, octets.TellsLength) (hbits : bits.length = addresses.length)
    (rest : Bytes) :
    walk? bits ((addresses.map Bytes.padded).flatten ++ rest) =
      some (List.zipWith Stop.padded bits addresses, rest) := by
  induction bits generalizing addresses with
  | nil =>
    obtain rfl := List.length_eq_zero_iff.1 hbits.symm
    rfl
  | cons bit later ih =>
    cases addresses with
    | nil => exact absurd hbits (by simp)
    | cons octets others =>
      have hstep := nextStop?_padded (h _ List.mem_cons_self) bit
        ((others.map Bytes.padded).flatten ++ rest)
      have hlater := ih (fun o ho => h o (List.mem_cons_of_mem _ ho)) (Nat.succ.inj hbits)
      rw [List.map_cons, List.flatten_cons, List.append_assoc, walk?, hstep]
      show (walk? later _).bind _ = _
      rw [hlater]
      rfl

/-! ### Reading -/

/-- The places of the bits that are set, in ascending order. -/
def setBits (word : UInt32) : List Nat := (List.range 32).filter word.toNat.testBit

/-- A message as the routing socket reads it. -/
structure Reading where
  length : UInt16
  version : UInt8
  kind : UInt8
  flags : UInt32
  addresses : UInt32
  sequence : UInt32
  /-- What else there is in the header. -/
  remaining : Bytes
  /-- The socket addresses that the walk comes upon. -/
  stops : List Stop
  /-- What is left behind the last of them. -/
  rest : Bytes
deriving DecidableEq, Repr

/-- Reads the numbers of the header from their places, and walks through what follows it as far as
the length says. -/
def read? (octets : Bytes) : Option Reading := do
  let length ← octets.word16At? 0
  let version ← octets[2]?
  let kind ← octets[3]?
  let flags ← octets.word32At? 8
  let addresses ← octets.word32At? 12
  let sequence ← octets.word32At? 20
  let remaining := (octets.drop 4).take 4 ++ (octets.drop 16).take 4 ++
    (octets.drop 24).take (headerLength - 24)
  let (stops, rest) ← walk? (setBits addresses) ((octets.take length.toNat).drop headerLength)
  return { length, version, kind, flags, addresses, sequence, remaining, stops, rest }

/-- The octets of the message, if it is not too long. -/
def octets (m : RouteMessage) (sequence : UInt32) : Bytes :=
  m.header (UInt16.ofNat m.length) sequence ++ (m.socketAddresses.map Bytes.padded).flatten

/-- What is to be read of a message: its own numbers, and its socket addresses with their bits. -/
def reading (m : RouteMessage) (sequence : UInt32) : Reading where
  length := UInt16.ofNat m.length
  version := version
  kind := addRequest
  flags := m.flags
  addresses := m.addresses
  sequence := sequence
  remaining := Bytes.zeros 136
  stops := List.zipWith Stop.padded (setBits m.addresses) m.socketAddresses
  rest := []

/-- Every socket address tells its length, and as many bits are set as there are addresses. -/
structure Walkable (m : RouteMessage) : Prop where
  tellsLength : ∀ octets ∈ m.socketAddresses, octets.TellsLength
  length_setBits : (setBits m.addresses).length = m.socketAddresses.length

/-- The header ends before the socket addresses begin. -/
theorem drop_octets (m : RouteMessage) (sequence : UInt32) :
    (m.octets sequence).drop headerLength = (m.socketAddresses.map Bytes.padded).flatten := by
  rw [octets, ← length_header m (UInt16.ofNat m.length) sequence, List.drop_left]

/-- The number of the message stands in its place. -/
theorem sequence_octets (m : RouteMessage) (sequence : UInt32) :
    (m.octets sequence).word32At? 20 = some sequence :=
  Bytes.word32At?_of_drop rfl

/-- The octets of a message are as many as its length says. -/
theorem length_octets {m : RouteMessage}
    (h : ∀ octets ∈ m.socketAddresses, octets.length ≤ 2 ^ 64 - 8) (sequence : UInt32) :
    (m.octets sequence).length = m.length := by
  have hmap : m.socketAddresses.map (List.length ∘ Bytes.padded) =
      m.socketAddresses.map Bytes.room :=
    List.map_congr_left fun octets hmem => Bytes.length_padded (h octets hmem)
  rw [octets, List.length_append, length_header, List.length_flatten, List.map_map, hmap,
    RouteMessage.length]
  rfl

namespace Walkable

variable {m : RouteMessage}

theorem length_le (h : m.Walkable) : m.length ≤ headerLength + 3 * 256 := by
  have hrooms : ∀ room ∈ m.socketAddresses.map Bytes.room, room ≤ 256 := by
    intro room hroom
    obtain ⟨octets, hmem, rfl⟩ := List.mem_map.1 hroom
    exact (h.tellsLength octets hmem).room_le
  have hsum : (m.socketAddresses.map Bytes.room).foldr (· + ·) 0 ≤
      (m.socketAddresses.map Bytes.room).length • 256 := List.sum_le_card_nsmul _ _ hrooms
  have hcount : m.socketAddresses.length ≤ 3 := by
    cases hn : m.netmask <;> simp [socketAddresses, hn]
  rw [List.length_map, Nat.nsmul_eq_mul] at hsum
  have := Nat.mul_le_mul_right 256 hcount
  rw [RouteMessage.length]
  omega

theorem addresses_le (h : m.Walkable) :
    ∀ octets ∈ m.socketAddresses, octets.length ≤ 2 ^ 64 - 8 :=
  fun octets hmem => (h.tellsLength octets hmem).length_le

theorem length_octets (h : m.Walkable) (sequence : UInt32) :
    (m.octets sequence).length = m.length :=
  RouteMessage.length_octets h.addresses_le sequence

theorem toNat_length (h : m.Walkable) : (UInt16.ofNat m.length).toNat = m.length :=
  UInt16.toNat_ofNat_of_lt (Nat.lt_of_le_of_lt h.length_le (by decide))

/-- **Such a message can always be encoded.** With three addresses at most, it cannot be too
long. -/
theorem encode_eq (h : m.Walkable) (sequence : UInt32) :
    m.encode sequence = .ok (m.octets sequence) := by
  have hle : ¬0xFFFF < m.length := by
    have := h.length_le
    rw [headerLength] at this
    omega
  rw [encode, if_neg hle]
  rfl

/-- **And it is read back**, number by number and address by address, with nothing left over. -/
theorem read?_octets (h : m.Walkable) (sequence : UInt32) :
    read? (m.octets sequence) = some (m.reading sequence) := by
  have hlength : (m.octets sequence).word16At? 0 = some (UInt16.ofNat m.length) :=
    Bytes.word16At?_of_drop rfl
  have hflags : (m.octets sequence).word32At? 8 = some m.flags := Bytes.word32At?_of_drop rfl
  have haddresses : (m.octets sequence).word32At? 12 = some m.addresses :=
    Bytes.word32At?_of_drop rfl
  have hwalk : walk? (setBits m.addresses)
      (((m.octets sequence).take (UInt16.ofNat m.length).toNat).drop headerLength) =
        some (List.zipWith Stop.padded (setBits m.addresses) m.socketAddresses, []) := by
    rw [h.toNat_length, ← h.length_octets sequence, List.take_length, drop_octets,
      ← walk?_padded h.tellsLength h.length_setBits [], List.append_nil]
  rw [read?, hlength, hflags, haddresses, sequence_octets]
  show (walk? _ _).bind _ = _
  rw [hwalk]
  rfl

end Walkable

end RouteMessage

end Tunnel
