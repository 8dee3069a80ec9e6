import Mathlib.Algebra.BigOperators.Ring.List
import Tunnel.Proofs.Route.Request
import Tunnel.Proofs.Traversal

/-!
# Route messages with every step checked

Work on buffers has steps that cannot always be taken: octets are copied into a room that must be of
their size, a place must lie inside a buffer, a length may not be less than what is taken away from
it, and in the end it must be what it was said to be. Here the request for a route is put together
and encoded with a guard on each such step. No guard is ever met. The only failure is that of an
empty prefix, for which there is no mask, and every request that is made can be encoded, in few
octets.

That a prefix is no longer than its address is wide, and that a gateway has 8 to 255 octets, is part
of what the two are, wherever they come from; it is what the guards rest on.

## Main definitions

* `Halt` — how work with guards comes to a halt
* `Bytes.put` — octets copied into a room of a buffer
* `SocketAddress.build`, `Netmask.buildOver`, `RouteMessage.addGuarded` — a request, put together
  with guards
* `Bytes.pad`, `RouteMessage.encodeGuarded` — a message, encoded with guards
* `RouteMessage.Builds` — what becomes of the request for a prefix

## Main results

* `SocketAddress.build_eq`, `Netmask.buildOver_eq`, `RouteMessage.addGuarded_eq` — no guard is met
  on the way to a request
* `RouteMessage.encodeGuarded_eq` — nor on the way to the octets of a message
* `RouteMessage.length_request_bounds` — a request has 176 to 472 octets
* `RouteMessage.builds` — all of this, for every prefix and every gateway
-/

namespace Tunnel

/-! ### Guards -/

/-- How work that checks each of its steps comes to a halt. -/
inductive Halt
  /-- Octets were to be copied into a room of another size. -/
  | mismatch (room given : Nat)
  /-- A place lies past the end of a buffer. -/
  | outside (place length : Nat)
  /-- More was to be taken away than there was. -/
  | underflow (there taken : Nat)
  /-- A length is not what it was said to be. -/
  | unexpected (length expected : Nat)
  /-- The work failed, and said so. -/
  | failure (cause : Error)
deriving DecidableEq, Repr

namespace Bytes

/-- Copies octets into the room of a buffer that begins at a place and has a width. -/
def put (buffer : Bytes) (place width : Nat) (octets : Bytes) : Except Halt Bytes :=
  if buffer.length < place + width then .error (.outside (place + width) buffer.length)
  else if octets.length ≠ width then .error (.mismatch width octets.length)
  else .ok (buffer.take place ++ octets ++ buffer.drop (place + width))

/-- Copies octets behind octets that are in place, over as many zeros. -/
theorem put_zeros (front octets : Bytes) {place width : Nat} (n : Nat)
    (hplace : front.length = place) (hwidth : octets.length = width) :
    put (front ++ zeros (width + n)) place width octets = .ok (front ++ octets ++ zeros n) := by
  subst hplace hwidth
  have hroom : ¬(front ++ zeros (octets.length + n)).length < front.length + octets.length := by
    rw [List.length_append, length_zeros]
    omega
  have hrest : (front ++ zeros (octets.length + n)).drop (front.length + octets.length) =
      zeros n := by
    rw [← List.drop_drop, List.drop_left, zeros, List.drop_replicate, Nat.add_sub_cancel_left]
    rfl
  rw [put, if_neg hroom, if_neg (fun hne => hne rfl), List.take_left, hrest]

end Bytes

/-! ### Socket addresses -/

namespace SocketAddress

/-- A socket address of a family with these octets copied into their place. -/
def build (family : AddressFamily) (octets : Bytes) : Except Halt Bytes :=
  match family with
  | .ipv4 => Bytes.put ([16, inetTag, 0, 0] ++ Bytes.zeros 12) 4 4 octets
  | .ipv6 => Bytes.put ([28, inet6Tag, 0, 0, 0, 0, 0, 0] ++ Bytes.zeros 20) 8 16 octets
  | .unrecognized => .error (.failure (.unsupportedFamily family))

/-- **Octets as wide as the address fit into their place.** -/
theorem build_eq {address : Address} {octets : Bytes} (h : 8 * octets.length = address.width) :
    build address.family octets = .ok (ofFamily address octets) := by
  cases address with
  | v4 a =>
    have hfour : octets.length = 4 := by rw [Address.width] at h; omega
    exact Bytes.put_zeros [16, inetTag, 0, 0] octets 8 rfl hfour
  | v6 a =>
    have hsixteen : octets.length = 16 := by rw [Address.width] at h; omega
    exact Bytes.put_zeros [28, inet6Tag, 0, 0, 0, 0, 0, 0] octets 4 rfl hsixteen

end SocketAddress

/-! ### Masks -/

namespace Netmask

/-- The mask of `length` leading ones, written over `width` zero octets: the whole octets first, and
then the octet of which only a part is ones, if there is one. -/
def buildOver (width length : Nat) : Except Halt Bytes := do
  let mask ← Bytes.put (Bytes.zeros width) 0 (length / 8) (List.replicate (length / 8) 0xFF)
  if 0 < length % 8 then Bytes.put mask (length / 8) 1 [leadingOnes (length % 8)]
  else return mask

theorem ones_zero (width : Nat) : ones width 0 = Bytes.zeros width := by
  induction width with
  | zero => rfl
  | succ width ih =>
    rw [ones, Nat.zero_sub, ih]
    rfl

/-- A mask is whole octets of ones, an octet that is partly ones if need be, and zeros. -/
theorem ones_eq {width length : Nat} (h : length ≤ 8 * width) :
    ones width length = List.replicate (length / 8) 0xFF ++
      (if 0 < length % 8 then [leadingOnes (length % 8)] else []) ++
      Bytes.zeros (width - (length + 7) / 8) := by
  induction width generalizing length with
  | zero =>
    obtain rfl : length = 0 := by omega
    rfl
  | succ width ih =>
    rcases Nat.lt_or_ge length 8 with hpart | hwhole
    · have hmin : min length 8 = length := Nat.min_eq_left (Nat.le_of_lt hpart)
      rw [ones, hmin, Nat.sub_eq_zero_of_le (Nat.le_of_lt hpart), ones_zero,
        Nat.div_eq_of_lt hpart, Nat.mod_eq_of_lt hpart]
      rcases Nat.eq_zero_or_pos length with rfl | hpos
      · rfl
      · have hrest : width + 1 - (length + 7) / 8 = width := by omega
        rw [if_pos hpos, hrest]
        rfl
    · obtain ⟨later, rfl⟩ : ∃ later, length = later + 8 := ⟨length - 8, by omega⟩
      have hrest : width + 1 - (later + 8 + 7) / 8 = width - (later + 7) / 8 := by omega
      rw [ones, Nat.min_eq_right hwhole, Nat.add_sub_cancel, ih (by omega),
        Nat.add_div_right later (by decide), Nat.add_mod_right, hrest]
      rfl

/-- **A mask that is no longer than its width is written without leaving its octets.** -/
theorem buildOver_eq {width length : Nat} (h : length ≤ 8 * width) :
    buildOver width length = .ok (ones width length) := by
  obtain ⟨n, rfl⟩ : ∃ n, width = length / 8 + n := ⟨width - length / 8, by omega⟩
  have hwhole : Bytes.put (Bytes.zeros (length / 8 + n)) 0 (length / 8)
      (List.replicate (length / 8) 0xFF) =
        .ok (List.replicate (length / 8) 0xFF ++ Bytes.zeros n) :=
    Bytes.put_zeros [] _ n rfl List.length_replicate
  rw [buildOver, hwhole, ones_eq h]
  show (if 0 < length % 8 then _ else _) = _
  by_cases hpart : 0 < length % 8
  · obtain ⟨later, rfl⟩ : ∃ later, n = 1 + later := ⟨n - 1, by omega⟩
    have hrest : length / 8 + (1 + later) - (length + 7) / 8 = later := by omega
    rw [if_pos hpart, if_pos hpart, hrest]
    exact Bytes.put_zeros _ [leadingOnes (length % 8)] later List.length_replicate rfl
  · have hrest : length / 8 + n - (length + 7) / 8 = n := by omega
    rw [if_neg hpart, if_neg hpart, hrest, List.append_nil]
    rfl

/-- The mask of a family and a length, written over zeros. -/
def buildGuarded (family : AddressFamily) (length : Nat) : Except Halt Bytes :=
  match build family length with
  | .error e => .error (.failure e)
  | .ok mask => buildOver mask.length length

theorem buildGuarded_eq (family : AddressFamily) (length : Nat) :
    buildGuarded family length = (build family length).mapError .failure := by
  rw [buildGuarded, build]
  cases hwidth : family.width with
  | none => rfl
  | some width =>
    by_cases hvalid : length = 0 ∨ width < length
    · simp only [if_pos hvalid]
      rfl
    · have hfits : length ≤ 8 * (width / 8) := by
        cases family <;> cases hwidth <;> omega
      simp only [if_neg hvalid, length_ones, buildOver_eq hfits]
      rfl

end Netmask

/-! ### Requests -/

namespace RouteMessage

variable {destination : RoutePrefix} {gateway : LinkAddress}

/-- The request for `destination` by way of `gateway`, put together with guards. -/
def addGuarded (destination : RoutePrefix) (gateway : LinkAddress) : Except Halt RouteMessage := do
  let target ← SocketAddress.build destination.family destination.octets
  if destination.isHost then
    return {
      flags := flagUp ||| flagStatic ||| flagHost
      addresses := hasDestination ||| hasGateway
      destination := target
      gateway := gateway.bytes
      netmask := none }
  else
    let mask ← Netmask.buildGuarded destination.family destination.length
    let netmask ← SocketAddress.build destination.family mask
    return {
      flags := flagUp ||| flagStatic
      addresses := hasDestination ||| hasGateway ||| hasNetmask
      destination := target
      gateway := gateway.bytes
      netmask := some netmask }

/-- **No guard is met on the way to a request.** -/
theorem addGuarded_eq (destination : RoutePrefix) (gateway : LinkAddress) :
    addGuarded destination gateway = (add destination gateway).mapError .failure := by
  have htarget : SocketAddress.build destination.family destination.octets =
      .ok (SocketAddress.ofFamily destination.address destination.octets) :=
    SocketAddress.build_eq destination.length_octets
  have hnetmask : SocketAddress.build destination.family destination.mask =
      .ok (SocketAddress.ofFamily destination.address destination.mask) :=
    SocketAddress.build_eq destination.length_mask
  rw [addGuarded, htarget, Netmask.buildGuarded_eq, add]
  cases hhost : destination.isHost with
  | true => rfl
  | false =>
    rcases Nat.eq_zero_or_pos destination.length with hzero | hpos
    · rw [RoutePrefix.build_zero hzero]
      rfl
    · rw [RoutePrefix.build_eq hpos]
      show (SocketAddress.build destination.family destination.mask >>= fun _ => _) = _
      rw [hnetmask]
      rfl

end RouteMessage

/-! ### Octets -/

/-- The octets followed by zeros, as many as the room has more than the octets. -/
def Bytes.pad (octets : Bytes) : Except Halt Bytes :=
  if octets.room < octets.length then .error (.underflow octets.room octets.length)
  else .ok octets.padded

theorem Bytes.pad_eq {octets : Bytes} (h : octets.length ≤ 2 ^ 64 - 8) :
    octets.pad = .ok octets.padded :=
  if_neg (Nat.not_lt.2 (Bytes.length_le_room h))

/-- Goes on if the length is what it was said to be. -/
def Bytes.expect (octets : Bytes) (expected : Nat) : Except Halt Unit :=
  if octets.length = expected then .ok () else .error (.unexpected octets.length expected)

namespace RouteMessage

variable {destination : RoutePrefix} {gateway : LinkAddress} {m : RouteMessage}

/-- The message as octets, with guards. -/
def encodeGuarded (m : RouteMessage) (sequence : UInt32) : Except Halt Bytes := do
  if 0xFFFF < m.length then
    .error (.failure (.preconditionViolation ("route message too long: " ++ toString m.length)))
  else
    let header := m.header (UInt16.ofNat m.length) sequence
    header.expect headerLength
    let padded ← m.socketAddresses.mapM Bytes.pad
    let octets := header ++ padded.flatten
    octets.expect m.length
    return octets

theorem mapM_pad {addresses : List Bytes}
    (h : ∀ octets ∈ addresses, octets.length ≤ 2 ^ 64 - 8) :
    addresses.mapM Bytes.pad = .ok (addresses.map Bytes.padded) := by
  rw [List.mapM_eq_ok_iff, List.forall₂_map_right_iff, List.forall₂_same]
  exact fun octets hmem => Bytes.pad_eq (h octets hmem)

/-- **No guard is met on the way to the octets** of a message, as long as the rooms of its addresses
do not wrap. That it is too long may be found, with guards as without. -/
theorem encodeGuarded_eq (h : ∀ octets ∈ m.socketAddresses, octets.length ≤ 2 ^ 64 - 8)
    (sequence : UInt32) :
    m.encodeGuarded sequence = (m.encode sequence).mapError .failure := by
  rw [encodeGuarded, encode]
  by_cases hlong : 0xFFFF < m.length
  · rw [if_pos hlong, if_pos hlong]
    rfl
  · have hheader : (m.header (UInt16.ofNat m.length) sequence).expect headerLength = .ok () :=
      if_pos (m.length_header _ _)
    have hwhole : (m.octets sequence).expect m.length = .ok () := if_pos (length_octets h sequence)
    rw [if_neg hlong, if_neg hlong]
    show ((m.header (UInt16.ofNat m.length) sequence).expect headerLength >>= fun _ => _) = _
    rw [hheader, mapM_pad h]
    show ((m.octets sequence).expect m.length >>= fun _ => _) = _
    rw [hwhole]
    rfl

theorem Walkable.encodeGuarded_eq (h : m.Walkable) (sequence : UInt32) :
    m.encodeGuarded sequence = .ok (m.octets sequence) := by
  rw [RouteMessage.encodeGuarded_eq h.addresses_le, h.encode_eq]
  rfl

/-! ### Lengths -/

/-- A message that can be walked through consists of whole words. -/
theorem Walkable.dvd_length (h : m.Walkable) : 8 ∣ m.length := by
  have hrooms : ∀ room ∈ m.socketAddresses.map Bytes.room, 8 ∣ room := by
    intro room hroom
    obtain ⟨octets, hmem, rfl⟩ := List.mem_map.1 hroom
    have htells := h.tellsLength octets hmem
    rw [Bytes.room_eq htells.pos htells.length_le]
    exact Nat.dvd_mul_right 8 _
  have hsum : 8 ∣ (m.socketAddresses.map Bytes.room).sum := List.dvd_sum hrooms
  exact Nat.dvd_add (by decide) hsum

theorem room_ofFamily_bounds {address : Address} {octets : Bytes}
    (h : 8 * octets.length = address.width) :
    16 ≤ (SocketAddress.ofFamily address octets).room ∧
      (SocketAddress.ofFamily address octets).room ≤ 32 := by
  have htells := SocketAddress.tellsLength_ofFamily h
  rw [Bytes.room_eq htells.pos htells.length_le]
  cases address with
  | v4 a =>
    have hlength : (SocketAddress.inet octets).length = 16 := by
      rw [Address.width] at h
      simp [SocketAddress.inet]
      omega
    rw [SocketAddress.ofFamily, hlength]
    decide
  | v6 a =>
    have hlength : (SocketAddress.inet6 octets).length = 28 := by
      rw [Address.width] at h
      simp [SocketAddress.inet6]
      omega
    rw [SocketAddress.ofFamily, hlength]
    decide

theorem room_gateway_bounds (gateway : LinkAddress) :
    8 ≤ gateway.bytes.room ∧ gateway.bytes.room ≤ 256 := by
  have htells := gateway.tellsLength_bytes
  have hle : 8 ≤ gateway.bytes.length := gateway.le_length
  have hlt := htells.1
  rw [Bytes.room_eq htells.pos htells.length_le]
  omega

/-- **A request has 176 to 472 octets.** -/
theorem length_request_bounds (destination : RoutePrefix) (gateway : LinkAddress) :
    176 ≤ (request destination gateway).length ∧
      (request destination gateway).length ≤ 472 := by
  have htarget := room_ofFamily_bounds destination.length_octets
  have hmask := room_ofFamily_bounds destination.length_mask
  have hgateway := room_gateway_bounds gateway
  cases hhost : destination.isHost with
  | true =>
    rw [request_host hhost]
    simp only [length, socketAddresses, headerLength, Option.toList_none, List.map_cons,
      List.map_nil, List.foldr_cons, List.foldr_nil]
    omega
  | false =>
    rw [request_network hhost]
    simp only [length, socketAddresses, headerLength, Option.toList_some, List.map_cons,
      List.map_nil, List.foldr_cons, List.foldr_nil]
    omega

/-! ### What becomes of a request -/

/-- What becomes of the octets of a message. -/
structure Fits (m : RouteMessage) (sequence : UInt32) (octets : Bytes) : Prop where
  encode_eq : m.encode sequence = .ok octets
  /-- With guards on each step the octets are the same, and so no guard was met. -/
  encodeGuarded_eq : m.encodeGuarded sequence = .ok octets
  length_eq : octets.length = m.length
  /-- The number of octets stands in the header as it is. -/
  toNat_word : (octets.word16At? 0).map UInt16.toNat = some octets.length
  dvd_length : 8 ∣ octets.length
  le_length : 176 ≤ octets.length
  length_le : octets.length ≤ 472

/-- What becomes of the request for a prefix by way of a gateway. -/
structure Builds (destination : RoutePrefix) (gateway : LinkAddress) : Prop where
  /-- With guards on each step the request is the same, and so no guard is met. -/
  addGuarded_eq : addGuarded destination gateway = (add destination gateway).mapError .failure
  /-- It fails for the empty prefix alone. -/
  error_iff : (∃ e, add destination gateway = .error e) ↔ destination.length = 0
  /-- And then because a condition was broken. -/
  error_eq : ∀ e, add destination gateway = .error e → ∃ text, e = .preconditionViolation text
  /-- Every request that is made can be encoded, under any number. -/
  fits : ∀ message, add destination gateway = .ok message → ∀ sequence, ∃ octets,
    message.Fits sequence octets

theorem fits_request (destination : RoutePrefix) (gateway : LinkAddress) (sequence : UInt32) :
    (request destination gateway).Fits sequence
      ((request destination gateway).octets sequence) := by
  have hwalkable := walkable_request destination gateway
  have hlength := hwalkable.length_octets sequence
  have hbounds := length_request_bounds destination gateway
  have hword : ((request destination gateway).octets sequence).word16At? 0 =
      some (UInt16.ofNat (request destination gateway).length) := Bytes.word16At?_of_drop rfl
  constructor
  · exact hwalkable.encode_eq sequence
  · exact hwalkable.encodeGuarded_eq sequence
  · exact hlength
  · rw [hword, hlength]
    exact congrArg some hwalkable.toNat_length
  · exact hlength ▸ hwalkable.dvd_length
  · exact hlength ▸ hbounds.1
  · exact hlength ▸ hbounds.2

/-- **Requests for routes are safe to build**, for every prefix and every gateway: no step is ever
out of place, only the empty prefix is refused, and what is made can be encoded, in 176 to 472
octets of whole words. -/
theorem builds (destination : RoutePrefix) (gateway : LinkAddress) :
    Builds destination gateway where
  addGuarded_eq := addGuarded_eq destination gateway
  error_iff := by
    rcases Nat.eq_zero_or_pos destination.length with hzero | hpos
    · exact iff_of_true ⟨_, add_eq_error hzero⟩ hzero
    · rw [add_eq_ok hpos]
      exact iff_of_false nofun (Nat.pos_iff_ne_zero.1 hpos)
  error_eq e he := by
    rcases Nat.eq_zero_or_pos destination.length with hzero | hpos
    · rw [add_eq_error hzero] at he
      exact ⟨_, (Except.error.inj he).symm⟩
    · rw [add_eq_ok hpos] at he
      cases he
  fits message hmessage sequence := by
    rcases Nat.eq_zero_or_pos destination.length with hzero | hpos
    · rw [add_eq_error hzero] at hmessage
      cases hmessage
    · obtain rfl := Except.ok.inj ((add_eq_ok hpos).symm.trans hmessage)
      exact ⟨_, fits_request destination gateway sequence⟩

end RouteMessage

end Tunnel
