import Tunnel.Proofs.Route.Walk

/-!
# The request for a route

What a request says, place by place. A socket address of an Internet family is taken apart into its
family, its content and all its other octets; a netmask is read bit by bit, the most significant bit
of each octet first; and the request for a prefix is written down as one record, of which only the
flags, the bit set and the netmask depend on whether the prefix is a single address.

## Main definitions

* `Netmask.bit` — a bit of a mask
* `SocketAddress.Parts`, `SocketAddress.read?` — a socket address taken apart
* `RouteMessage.request` — the request for a prefix that is not empty

## Main results

* `Netmask.bit_ones` — the leading bits of a mask are ones, and no others
* `SocketAddress.read?_ofFamily` — a socket address gives back its family and content, and holds
  nothing else
* `RouteMessage.add_eq_ok`, `RouteMessage.add_eq_error` — the request is made, unless the prefix is
  empty
* `RouteMessage.walkable_request` — and can be walked through
* `RouteMessage.eq_octets_of_encode` — so that it is what is encoded, whenever anything is
-/

namespace Tunnel

/-! ### Masks -/

namespace Netmask

/-- The bit of a mask at a place, counted from the most significant bit of the first octet. -/
def bit (mask : Bytes) (place : Nat) : Bool :=
  ((mask[place / 8]?).getD 0).toNat.testBit (7 - place % 8)

theorem testBit_leadingOnes {bits place : Nat} (hbits : bits ≤ 8) (hplace : place < 8) :
    (leadingOnes bits).toNat.testBit (7 - place) = decide (place < bits) := by
  have table : ∀ bits < 9, ∀ place < 8,
      (leadingOnes bits).toNat.testBit (7 - place) = decide (place < bits) := by decide
  exact table bits (Nat.lt_succ_of_le hbits) place hplace

/-- **The bits of a mask.** Over its whole width, those ahead of the length are ones and the others
zeros. -/
theorem bit_ones {width place : Nat} (bits : Nat) (h : place < 8 * width) :
    bit (ones width bits) place = decide (place < bits) := by
  induction width generalizing bits place with
  | zero => exact absurd h (Nat.not_lt_zero place)
  | succ width ih =>
    rw [ones]
    by_cases hplace : place < 8
    · have hfirst : place / 8 = 0 := Nat.div_eq_of_lt hplace
      rw [bit, hfirst, Nat.mod_eq_of_lt hplace]
      show (leadingOnes (min bits 8)).toNat.testBit (7 - place) = _
      rw [testBit_leadingOnes (Nat.min_le_right bits 8) hplace]
      simp only [decide_eq_decide]
      omega
    · -- one octet further on, the same bit of a mask that has eight ones less
      obtain ⟨later, rfl⟩ : ∃ later, place = later + 8 := ⟨place - 8, by omega⟩
      have hlater : bit (ones width (bits - 8)) later = decide (later < bits - 8) :=
        ih (bits - 8) (by omega)
      rw [bit, Nat.add_div_right later (by decide), Nat.add_mod_right]
      show bit (ones width (bits - 8)) later = _
      rw [hlater]
      simp only [decide_eq_decide]
      omega

end Netmask

/-! ### Socket addresses -/

namespace SocketAddress

/-- A socket address of an Internet family, taken apart. -/
structure Parts where
  family : AddressFamily
  /-- The octets in the place of the address. -/
  content : Bytes
  /-- All octets but the length, the tag and the content. -/
  remaining : Bytes
deriving DecidableEq, Repr

/-- Takes a socket address apart, by its length and its tag. -/
def read? : Bytes → Option Parts
  | length :: tag :: rest =>
    if length = 16 ∧ tag = inetTag then
      some ⟨.ipv4, (rest.drop 2).take 4, rest.take 2 ++ rest.drop 6⟩
    else if length = 28 ∧ tag = inet6Tag then
      some ⟨.ipv6, (rest.drop 6).take 16, rest.take 6 ++ rest.drop 22⟩
    else none
  | _ => none

variable {address : Address} {octets : Bytes}

theorem read?_inet (h : octets.length = 4) :
    read? (inet octets) = some ⟨.ipv4, octets, Bytes.zeros 10⟩ := by
  obtain ⟨a, b, c, d, rfl⟩ := List.length_eq_four.1 h
  rfl

theorem read?_inet6 (h : octets.length = 16) :
    read? (inet6 octets) = some ⟨.ipv6, octets, Bytes.zeros 10⟩ := by
  have hcontent : (octets ++ Bytes.zeros 4).take 16 = octets := List.take_left' h
  have hrest : (octets ++ Bytes.zeros 4).drop 16 = Bytes.zeros 4 := List.drop_left' h
  show some (Parts.mk .ipv6 ((octets ++ Bytes.zeros 4).take 16)
    (Bytes.zeros 6 ++ (octets ++ Bytes.zeros 4).drop 16)) = _
  rw [hcontent, hrest]
  rfl

/-- A socket address gives back its family and its content, and all its other octets are zero. -/
theorem read?_ofFamily (h : 8 * octets.length = address.width) :
    read? (ofFamily address octets) = some ⟨address.family, octets, Bytes.zeros 10⟩ := by
  cases address with
  | v4 a =>
    have : octets.length = 4 := by rw [Address.width] at h; omega
    exact read?_inet this
  | v6 a =>
    have : octets.length = 16 := by rw [Address.width] at h; omega
    exact read?_inet6 this

theorem tellsLength_ofFamily (h : 8 * octets.length = address.width) :
    (ofFamily address octets).TellsLength := by
  cases address with
  | v4 a =>
    have : octets.length = 4 := by rw [Address.width] at h; omega
    have hlength : (inet octets).length = 16 := by simp [inet, this]
    exact ⟨by rw [ofFamily, hlength]; decide, by rw [ofFamily, hlength]; rfl⟩
  | v6 a =>
    have : octets.length = 16 := by rw [Address.width] at h; omega
    have hlength : (inet6 octets).length = 28 := by simp [inet6, this]
    exact ⟨by rw [ofFamily, hlength]; decide, by rw [ofFamily, hlength]; rfl⟩

end SocketAddress

theorem LinkAddress.tellsLength_bytes (link : LinkAddress) : link.bytes.TellsLength :=
  ⟨link.length_lt, rfl⟩

/-! ### Requests -/

namespace RoutePrefix

/-- The mask of the prefix: as wide as its address, with a leading one for each bit that counts. -/
def mask (p : RoutePrefix) : Bytes := Netmask.ones (p.address.width / 8) p.length

theorem width_div_mul (p : RoutePrefix) : 8 * (p.address.width / 8) = p.address.width := by
  have := p.address.length_octets
  omega

theorem length_mask (p : RoutePrefix) : 8 * p.mask.length = p.address.width := by
  rw [mask, Netmask.length_ones, p.width_div_mul]

theorem length_octets (p : RoutePrefix) : 8 * p.octets.length = p.address.width :=
  p.address.length_octets

theorem isHost_eq_false_iff {p : RoutePrefix} : p.isHost = false ↔ p.length < p.address.width := by
  have := p.length_le
  rw [isHost, beq_eq_false_iff_ne]
  omega

theorem build_eq {p : RoutePrefix} (h : 0 < p.length) :
    Netmask.build p.family p.length = .ok p.mask := by
  have hvalid : ¬(p.length = 0 ∨ p.address.width < p.length) := by
    have := p.length_le
    omega
  rw [Netmask.build, family, Address.width_family]
  exact if_neg hvalid

theorem build_zero {p : RoutePrefix} (h : p.length = 0) :
    Netmask.build p.family p.length = .error (.preconditionViolation
      ("invalid " ++ p.family.label ++ " prefix length " ++ toString p.length ++
        " (expected 1..=" ++ toString p.address.width ++ ")")) := by
  rw [Netmask.build, family, Address.width_family]
  exact if_pos (Or.inl h)

end RoutePrefix

namespace RouteMessage

variable {destination : RoutePrefix} {gateway : LinkAddress}

/-- The request for a prefix that is not empty. -/
def request (destination : RoutePrefix) (gateway : LinkAddress) : RouteMessage where
  flags := if destination.isHost then flagUp ||| flagStatic ||| flagHost else flagUp ||| flagStatic
  addresses :=
    if destination.isHost then hasDestination ||| hasGateway
    else hasDestination ||| hasGateway ||| hasNetmask
  destination := SocketAddress.ofFamily destination.address destination.octets
  gateway := gateway.bytes
  netmask :=
    if destination.isHost then none
    else some (SocketAddress.ofFamily destination.address destination.mask)

/-- **The request is made** for every prefix that is not empty. -/
theorem add_eq_ok (h : 0 < destination.length) :
    add destination gateway = .ok (request destination gateway) := by
  rw [add, request]
  by_cases hhost : destination.isHost = true
  · simp only [if_pos hhost]
  · simp only [if_neg hhost, RoutePrefix.build_eq h]

/-- For an empty prefix there is no request, only the wording of the mask that there is not. -/
theorem add_eq_error (h : destination.length = 0) :
    add destination gateway = .error (.preconditionViolation
      ("invalid " ++ destination.family.label ++ " prefix length " ++ toString destination.length ++
        " (expected 1..=" ++ toString destination.address.width ++ ")")) := by
  have hhost : ¬destination.isHost = true := by
    have hwidth : 0 < destination.address.width := by
      cases destination.address <;> exact Nat.zero_lt_succ _
    rw [Bool.not_eq_true, RoutePrefix.isHost_eq_false_iff]
    omega
  rw [add]
  simp only [if_neg hhost, RoutePrefix.build_zero h]

theorem request_host (h : destination.isHost = true) :
    request destination gateway = {
      flags := flagUp ||| flagStatic ||| flagHost
      addresses := hasDestination ||| hasGateway
      destination := SocketAddress.ofFamily destination.address destination.octets
      gateway := gateway.bytes
      netmask := none } := by
  simp only [request, if_pos h]

theorem request_network (h : destination.isHost = false) :
    request destination gateway = {
      flags := flagUp ||| flagStatic
      addresses := hasDestination ||| hasGateway ||| hasNetmask
      destination := SocketAddress.ofFamily destination.address destination.octets
      gateway := gateway.bytes
      netmask := some (SocketAddress.ofFamily destination.address destination.mask) } := by
  simp only [request, h, Bool.false_eq_true, if_false]

theorem setBits_host : setBits (hasDestination ||| hasGateway) = [0, 1] := by decide

theorem setBits_network : setBits (hasDestination ||| hasGateway ||| hasNetmask) = [0, 1, 2] := by
  decide

/-- **A request can be walked through**, whatever its prefix and its gateway. -/
theorem walkable_request (destination : RoutePrefix) (gateway : LinkAddress) :
    (request destination gateway).Walkable := by
  have htarget := SocketAddress.tellsLength_ofFamily destination.length_octets
  have hgateway := gateway.tellsLength_bytes
  have hmask := SocketAddress.tellsLength_ofFamily destination.length_mask
  cases hhost : destination.isHost with
  | true =>
    rw [request_host hhost]
    refine ⟨?_, congrArg List.length setBits_host⟩
    simp only [socketAddresses, Option.toList_none, List.forall_mem_cons]
    exact ⟨htarget, hgateway, fun _ h => absurd h List.not_mem_nil⟩
  | false =>
    rw [request_network hhost]
    refine ⟨?_, congrArg List.length setBits_network⟩
    simp only [socketAddresses, Option.toList_some, List.forall_mem_cons]
    exact ⟨htarget, hgateway, hmask, fun _ h => absurd h List.not_mem_nil⟩

/-- What is encoded is a request, and its prefix is not empty. -/
theorem eq_octets_of_encode {destination : RoutePrefix} {gateway : LinkAddress} {sequence : UInt32}
    {message : RouteMessage} {octets : Bytes} (hadd : add destination gateway = .ok message)
    (hencode : message.encode sequence = .ok octets) :
    octets = (request destination gateway).octets sequence := by
  rcases Nat.eq_zero_or_pos destination.length with hzero | hpos
  · rw [add_eq_error hzero] at hadd
    cases hadd
  · obtain rfl := Except.ok.inj ((add_eq_ok hpos).symm.trans hadd)
    exact (Except.ok.inj (((walkable_request _ _).encode_eq sequence).symm.trans hencode)).symm

end RouteMessage

end Tunnel
