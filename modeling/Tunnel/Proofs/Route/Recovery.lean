import Tunnel.Proofs.Route.Request

/-!
# Route messages read back

What a routing socket makes of the request for a route is what was asked for: the prefix with all
bits of its address, the gateway octet for octet, and the number of the message. Nothing else is in
the message, and so two requests with the same octets are one request.

## Main definitions

* `RouteMessage.Reading.address?` — the socket address at a bit of the set
* `SocketAddress.Holds` — octets that hold a family and a content, and zeros otherwise
* `RouteMessage.Recovers` — a reading gives back a prefix, a gateway and a number

## Main results

* `RouteMessage.Recovers.unique` — a reading gives back one prefix, one gateway and one number
* `RouteMessage.recovers_request` — and it gives back those of the request
* `RouteMessage.read?_encode_add` — the two together, for every prefix that is not empty
-/

namespace Tunnel

/-- The octets are a socket address of `family` that holds `content`; all else in it but the length
and the tag is zero. -/
def SocketAddress.Holds (octets : Bytes) (family : AddressFamily) (content : Bytes) : Prop :=
  ∃ parts, read? octets = some parts ∧ parts.family = family ∧ parts.content = content ∧
    ∀ octet ∈ parts.remaining, octet = 0

theorem SocketAddress.holds_ofFamily {address : Address} {content : Bytes}
    (h : 8 * content.length = address.width) :
    Holds (ofFamily address content) address.family content :=
  ⟨_, read?_ofFamily h, rfl, rfl, Bytes.eq_zero_of_mem_zeros⟩

theorem SocketAddress.Holds.unique {octets : Bytes} {family family' : AddressFamily}
    {content content' : Bytes} (h : Holds octets family content)
    (h' : Holds octets family' content') : family = family' ∧ content = content' := by
  obtain ⟨parts, hread, rfl, rfl, -⟩ := h
  obtain ⟨parts', hread', rfl, rfl, -⟩ := h'
  obtain rfl : parts = parts' := Option.some.inj (hread.symm.trans hread')
  exact ⟨rfl, rfl⟩

theorem LinkAddress.bytes_injective {a b : LinkAddress} (h : a.bytes = b.bytes) : a = b :=
  ext_body (congrArg (List.drop 2) h)

theorem RoutePrefix.ext_parts {p q : RoutePrefix} (haddress : p.address = q.address)
    (hlength : p.length = q.length) : p = q := by
  cases p
  cases q
  cases haddress
  cases hlength
  rfl

namespace RouteMessage

/-- The socket address at a bit of the set, if the walk has come upon one. -/
def Reading.address? (reading : Reading) (bit : Nat) : Option Bytes :=
  (reading.stops.find? fun stop => stop.bit == bit).map Stop.octets

/-- The reading of `octets` gives back the destination, the gateway and the sequence number. -/
structure Recovers (octets : Bytes) (reading : Reading) (destination : RoutePrefix)
    (gateway : LinkAddress) (sequence : UInt32) : Prop where
  /-- The octets end where the length says. -/
  length_eq : reading.length.toNat = octets.length
  /-- The walk has come upon one socket address for each set bit, in ascending order. -/
  bits_eq : reading.stops.map Stop.bit = setBits reading.addresses
  /-- And has left nothing. -/
  rest_eq : reading.rest = []
  sequence_eq : reading.sequence = sequence
  destination_at : ∃ target, reading.address? 0 = some target ∧
    SocketAddress.Holds target destination.family destination.octets
  gateway_at : reading.address? 1 = some gateway.bytes
  isSome_netmask : (reading.address? 2).isSome ↔ reading.addresses &&& hasNetmask ≠ 0
  hasNetmask_iff : reading.addresses &&& hasNetmask ≠ 0 ↔ reading.flags &&& flagHost = 0
  flagHost_iff : reading.flags &&& flagHost = 0 ↔ destination.length < destination.address.width
  netmask_at : ∀ target, reading.address? 2 = some target → ∃ mask,
    SocketAddress.Holds target destination.family mask ∧
      8 * mask.length = destination.address.width ∧
      ∀ place < destination.address.width,
        Netmask.bit mask place = decide (place < destination.length)
  version_eq : reading.version = version
  kind_eq : reading.kind = addRequest
  remaining_zero : ∀ octet ∈ reading.remaining, octet = 0
  padding_zero : ∀ stop ∈ reading.stops, ∀ octet ∈ stop.padding, octet = 0

namespace Recovers

variable {octets : Bytes} {reading : Reading} {destination destination' : RoutePrefix}
  {gateway gateway' : LinkAddress} {sequence sequence' : UInt32}

theorem address_eq (h : Recovers octets reading destination gateway sequence)
    (h' : Recovers octets reading destination' gateway' sequence') :
    destination.address = destination'.address := by
  obtain ⟨target, hat, hholds⟩ := h.destination_at
  obtain ⟨target', hat', hholds'⟩ := h'.destination_at
  obtain rfl : target = target' := Option.some.inj (hat.symm.trans hat')
  exact Address.octets_injective (hholds.unique hholds').2

/-- A bit that counts for one prefix and not for the other would be both one and zero. -/
theorem length_le_length (h : Recovers octets reading destination gateway sequence)
    (h' : Recovers octets reading destination' gateway' sequence') :
    destination.length ≤ destination'.length := by
  have haddress := h.address_eq h'
  by_cases hhost : reading.flags &&& flagHost = 0
  · obtain ⟨target, hat⟩ := Option.isSome_iff_exists.1
      (h.isSome_netmask.2 (h.hasNetmask_iff.2 hhost))
    obtain ⟨mask, hholds, -, hbits⟩ := h.netmask_at target hat
    obtain ⟨mask', hholds', -, hbits'⟩ := h'.netmask_at target hat
    obtain rfl := (hholds.unique hholds').2
    have hshort' := h'.flagHost_iff.1 hhost
    have hbit := hbits destination'.length (haddress ▸ hshort')
    rw [hbits' _ hshort', decide_eq_decide] at hbit
    exact Nat.le_of_not_lt fun hlt => Nat.lt_irrefl _ (hbit.2 hlt)
  · have hfull' : ¬destination'.length < destination'.address.width :=
      fun hlt => hhost (h'.flagHost_iff.2 hlt)
    have hle := destination.length_le
    rw [haddress] at hle
    omega

/-- **A reading gives back one request.** -/
theorem unique (h : Recovers octets reading destination gateway sequence)
    (h' : Recovers octets reading destination' gateway' sequence') :
    destination = destination' ∧ gateway = gateway' ∧ sequence = sequence' := by
  refine ⟨RoutePrefix.ext_parts (h.address_eq h') ?_, ?_, ?_⟩
  · exact Nat.le_antisymm (h.length_le_length h') (h'.length_le_length h)
  · exact LinkAddress.bytes_injective (Option.some.inj (h.gateway_at.symm.trans h'.gateway_at))
  · exact h.sequence_eq.symm.trans h'.sequence_eq

end Recovers

/-! ### The reading of a request -/

section Request

variable (destination : RoutePrefix) (gateway : LinkAddress) (sequence : UInt32)

theorem announced_request :
    (request destination gateway).addresses &&& hasNetmask ≠ 0 ↔ destination.isHost = false := by
  cases h : destination.isHost with
  | true =>
    rw [request_host h]
    exact iff_of_false (show ¬(hasDestination ||| hasGateway) &&& hasNetmask ≠ 0 by decide)
      Bool.noConfusion
  | false =>
    rw [request_network h]
    exact iff_of_true
      (show (hasDestination ||| hasGateway ||| hasNetmask) &&& hasNetmask ≠ 0 by decide) rfl

theorem flagHost_request :
    (request destination gateway).flags &&& flagHost = 0 ↔ destination.isHost = false := by
  cases h : destination.isHost with
  | true =>
    rw [request_host h]
    exact iff_of_false (show ¬(flagUp ||| flagStatic ||| flagHost) &&& flagHost = 0 by decide)
      Bool.noConfusion
  | false =>
    rw [request_network h]
    exact iff_of_true (show (flagUp ||| flagStatic) &&& flagHost = 0 by decide) rfl

theorem isSome_netmask_request :
    (request destination gateway).netmask.isSome ↔ destination.isHost = false := by
  cases h : destination.isHost with
  | true => rw [request_host h]; exact iff_of_false Bool.noConfusion Bool.noConfusion
  | false => rw [request_network h]; exact iff_of_true rfl rfl

/-- Each socket address of a request is come upon at its own bit. -/
theorem address?_request :
    ((request destination gateway).reading sequence).address? 0 =
        some (SocketAddress.ofFamily destination.address destination.octets) ∧
      ((request destination gateway).reading sequence).address? 1 = some gateway.bytes ∧
      ((request destination gateway).reading sequence).address? 2 =
        (request destination gateway).netmask := by
  cases h : destination.isHost with
  | true =>
    simp only [request_host h, reading, setBits_host]
    exact ⟨rfl, rfl, rfl⟩
  | false =>
    simp only [request_network h, reading, setBits_network]
    exact ⟨rfl, rfl, rfl⟩

/-- The mask of a prefix holds its length. -/
theorem netmask_request {target : Bytes} (h : (request destination gateway).netmask = some target) :
    ∃ mask, SocketAddress.Holds target destination.family mask ∧
      8 * mask.length = destination.address.width ∧
      ∀ place < destination.address.width,
        Netmask.bit mask place = decide (place < destination.length) := by
  have hnetwork := (isSome_netmask_request destination gateway).1 (h ▸ rfl)
  rw [request_network hnetwork] at h
  obtain rfl := Option.some.inj h
  refine ⟨destination.mask, SocketAddress.holds_ofFamily destination.length_mask,
    destination.length_mask, fun place hplace => ?_⟩
  rw [← destination.width_div_mul] at hplace
  exact Netmask.bit_ones destination.length hplace

/-- **A request is given back by its reading.** A single address and a network differ in the flags,
in the bit set and in the mask, and all three say which of the two it is. -/
theorem recovers_request :
    Recovers ((request destination gateway).octets sequence)
      ((request destination gateway).reading sequence) destination gateway sequence := by
  have hwalkable := walkable_request destination gateway
  obtain ⟨hdestination, hgateway, hnetmask⟩ := address?_request destination gateway sequence
  exact {
    length_eq := by
      show (UInt16.ofNat (request destination gateway).length).toNat = _
      rw [hwalkable.toNat_length, hwalkable.length_octets]
    bits_eq := map_bit_zipWith_padded hwalkable.length_setBits
    rest_eq := rfl
    sequence_eq := rfl
    destination_at := ⟨_, hdestination, SocketAddress.holds_ofFamily destination.length_octets⟩
    gateway_at := hgateway
    isSome_netmask := by
      rw [hnetmask, isSome_netmask_request]
      exact (announced_request destination gateway).symm
    hasNetmask_iff :=
      (announced_request destination gateway).trans (flagHost_request destination gateway).symm
    flagHost_iff :=
      (flagHost_request destination gateway).trans RoutePrefix.isHost_eq_false_iff
    netmask_at := fun target hat =>
      netmask_request destination gateway (hnetmask.symm.trans hat)
    version_eq := rfl
    kind_eq := rfl
    remaining_zero := Bytes.eq_zero_of_mem_zeros
    padding_zero := padding_zipWith_padded _ _ }

end Request

/-- **Reading undoes encoding.** For every prefix that is not empty, every gateway and every number,
the request is made and encoded; the routing socket's walk through the octets gives back the prefix,
the gateway and the number; and no other request has these octets. -/
theorem read?_encode_add (destination : RoutePrefix) (gateway : LinkAddress) (sequence : UInt32)
    (h : 0 < destination.length) :
    ∃ message octets reading,
      add destination gateway = .ok message ∧ message.encode sequence = .ok octets ∧
      read? octets = some reading ∧ Recovers octets reading destination gateway sequence ∧
      ∀ destination' gateway' sequence' message', add destination' gateway' = .ok message' →
        message'.encode sequence' = .ok octets →
        destination' = destination ∧ gateway' = gateway ∧ sequence' = sequence := by
  have hwalkable := walkable_request destination gateway
  have hrecovers := recovers_request destination gateway sequence
  refine ⟨_, _, _, add_eq_ok h, hwalkable.encode_eq sequence, hwalkable.read?_octets sequence,
    hrecovers, ?_⟩
  intro destination' gateway' sequence' message' hadd hencode
  -- the other request has the same octets, and so the same reading
  have hoctets := eq_octets_of_encode hadd hencode
  have hread := (walkable_request destination' gateway').read?_octets sequence'
  rw [← hoctets, hwalkable.read?_octets] at hread
  have hrecovers' := recovers_request destination' gateway' sequence'
  rw [← hoctets, ← Option.some.inj hread] at hrecovers'
  exact hrecovers'.unique hrecovers

/-- A network of IPv6 whose mask ends within an octet, by way of a gateway of eleven octets. -/
theorem read?_encode_add_network :
    let destination : RoutePrefix := ⟨.v6 ⟨[0x2001, 0xdb8, 0, 1, 0, 0, 0, 7], rfl⟩, 61, by decide⟩
    let gateway : LinkAddress := ⟨[3, 0, 6, 3, 0, 0, 116, 117, 110], by decide, by decide⟩
    0 < destination.length ∧ ∃ message octets reading,
      add destination gateway = .ok message ∧ message.encode 0xFFFFFFFF = .ok octets ∧
      read? octets = some reading ∧ Recovers octets reading destination gateway 0xFFFFFFFF ∧
      ∀ destination' gateway' sequence' message', add destination' gateway' = .ok message' →
        message'.encode sequence' = .ok octets →
        destination' = destination ∧ gateway' = gateway ∧ sequence' = 0xFFFFFFFF :=
  ⟨by decide, read?_encode_add _ _ _ (by decide)⟩

end RouteMessage

end Tunnel
