import Tunnel.Proofs.Route.Walk

/-!
# Link-layer addresses among other octets

A link-layer address is taken from the front of what the kernel reported. There are two lengths to
go by, that of the report and the one in its first octet, and either may be the smaller. The address
is there when the second lies between the fixed part and the first. What is taken is then as long as
it says, so that it can be found again in front of anything, and no octet that is looked for in it
is missing.

## Main definitions

* `LinkAddress.Announced` — octets that begin with an address of some length
* `LinkAddress.IsWhole` — an address as octets

## Main results

* `LinkAddress.ofBytes?_eq_some_iff` — an address is taken where its octets are in front
* `LinkAddress.exists_ofBytes?_iff` — and there is one to take where it is announced
* `LinkAddress.isWhole` — what every address has
* `LinkAddress.taken_whole` — all of this
-/

namespace Tunnel.LinkAddress

variable {link : LinkAddress} {raw : Bytes} {length : Nat}

/-! ### Taking an address -/

/-- **An address is taken where its octets are in front**, whatever follows them. -/
theorem ofBytes?_eq_some_iff : ofBytes? raw = some link ↔ link.bytes <+: raw := by
  constructor
  · intro h
    unfold ofBytes? at h
    split at h
    · next length tagged rest =>
      split at h
      · next hthere =>
        obtain ⟨rfl, hfixed, hle⟩ := hthere
        obtain rfl := Option.some.inj h
        have hfixed : 8 ≤ length.toNat := hfixed
        have hlength : (rest.take (length.toNat - 2)).length + 2 = length.toNat := by
          rw [List.length_take]
          omega
        have hfirst : UInt8.ofNat ((rest.take (length.toNat - 2)).length + 2) = length := by
          rw [hlength, UInt8.ofNat_toNat]
        refine ⟨rest.drop (length.toNat - 2), ?_⟩
        simp only [bytes, LinkAddress.length, hfirst, List.cons_append, List.take_append_drop]
      · cases h
    · cases h
  · rintro ⟨more, rfl⟩
    exact link.ofBytes?_bytes_append more

/-- The first octet of an address tells its length. -/
theorem toNat_ofNat_length (link : LinkAddress) : (UInt8.ofNat link.length).toNat = link.length :=
  UInt8.toNat_ofNat_of_lt' link.length_lt

/-- The octets begin with an address of this length: they are no fewer than its fixed part, the tag
stands in its place, and the length is in the first octet and lies between the two. -/
structure Announced (raw : Bytes) (length : Nat) : Prop where
  fixedLength_le : fixedLength ≤ raw.length
  tag_at : raw[1]? = some tag
  length_at : (raw[0]?).map UInt8.toNat = some length
  le_length : fixedLength ≤ length
  length_le : length ≤ raw.length

/-- **There is an address to take where it is announced.** -/
theorem exists_ofBytes?_iff :
    (∃ link, ofBytes? raw = some link) ↔ ∃ length, Announced raw length := by
  constructor
  · rintro ⟨link, h⟩
    obtain ⟨more, rfl⟩ := ofBytes?_eq_some_iff.1 h
    have hfixed := link.le_length
    have hle : link.length ≤ (link.bytes ++ more).length := by
      rw [List.length_append, length_bytes]
      omega
    exact ⟨link.length, Nat.le_trans hfixed hle, rfl,
      congrArg some link.toNat_ofNat_length, hfixed, hle⟩
  · rintro ⟨length, hfixed, htag, hlength, hle, hthere⟩
    match raw with
    | [] => cases hlength
    | [_] => cases htag
    | first :: tagged :: rest =>
      obtain rfl : first.toNat = length := Option.some.inj hlength
      obtain rfl : tagged = tag := Option.some.inj htag
      exact ⟨_, dif_pos ⟨rfl, hle, hthere⟩⟩

/-- What is taken are the octets in front, as many as are announced. -/
theorem bytes_eq_take (h : ofBytes? raw = some link) (hraw : Announced raw length) :
    link.bytes = raw.take length := by
  obtain ⟨more, rfl⟩ := ofBytes?_eq_some_iff.1 h
  have hfirst : (UInt8.ofNat link.length).toNat = length := Option.some.inj hraw.length_at
  rw [toNat_ofNat_length] at hfirst
  rw [← hfirst, ← length_bytes, List.take_left]

/-! ### Addresses as octets -/

/-- An address as octets. -/
structure IsWhole (link : LinkAddress) : Prop where
  le_length : 8 ≤ link.bytes.length
  length_le : link.bytes.length ≤ 255
  /-- The first octet tells how many there are. -/
  first_eq : (link.bytes[0]?).map UInt8.toNat = some link.bytes.length
  second_eq : link.bytes[1]? = some tag
  /-- The octets of the number of the interface are there, and the first of them counts ones. -/
  index_eq : ∃ low high, link.bytes[2]? = some low ∧ link.bytes[3]? = some high ∧
    link.index.toNat = low.toNat + 256 * high.toNat
  ofBytes?_bytes : ofBytes? link.bytes = some link

/-- **What every address has**, wherever it comes from. -/
theorem isWhole (link : LinkAddress) : IsWhole link where
  le_length := link.le_length
  length_le := Nat.le_of_lt_succ link.length_lt
  first_eq := congrArg some link.toNat_ofNat_length
  second_eq := rfl
  index_eq := by
    obtain ⟨body, hle, hlt⟩ := link
    match body with
    | [] => cases hle
    | [_] => cases Nat.le_of_succ_le_succ hle
    | low :: high :: later => exact ⟨low, high, rfl, rfl, Bytes.toNat_uint16LE low high⟩
  ofBytes?_bytes := ofBytes?_eq_some_iff.2 List.prefix_rfl

/-- **Addresses are taken whole.** One is taken from octets exactly where it is announced, and it is
then the octets in front, as many as are announced. It is taken still when more octets follow.
Every address tells its own length in its first octet, within 8 and 255, and its kind in the second;
it has a number; and it is taken from its own octets. -/
theorem taken_whole :
    (∀ raw, (∃ link, ofBytes? raw = some link) ↔ ∃ length, Announced raw length) ∧
    (∀ raw link, ofBytes? raw = some link →
      (∀ length, Announced raw length → link.bytes = raw.take length) ∧
      ∀ more, ofBytes? (raw ++ more) = some link) ∧
    ∀ link, IsWhole link := by
  refine ⟨fun raw => exists_ofBytes?_iff, fun raw link h => ⟨fun length => bytes_eq_take h, ?_⟩,
    isWhole⟩
  intro more
  exact ofBytes?_eq_some_iff.2 ((ofBytes?_eq_some_iff.1 h).trans (List.prefix_append raw more))

/-- An address of 11 octets, as it is reported in 13, and with one more octet behind them. -/
theorem taken_whole_reported : ∃ link,
    ofBytes? [11, 18, 9, 0, 53, 3, 0, 0, 116, 117, 110, 0, 255] = some link ∧
    link.bytes = [11, 18, 9, 0, 53, 3, 0, 0, 116, 117, 110] ∧
    ofBytes? ([11, 18, 9, 0, 53, 3, 0, 0, 116, 117, 110, 0, 255] ++ [7]) = some link := by
  have hraw : Announced [11, 18, 9, 0, 53, 3, 0, 0, 116, 117, 110, 0, 255] 11 :=
    ⟨by decide, rfl, rfl, by decide, by decide⟩
  obtain ⟨link, hlink⟩ := (taken_whole.1 _).2 ⟨11, hraw⟩
  have htaken := taken_whole.2.1 _ link hlink
  exact ⟨link, hlink, htaken.1 11 hraw, htaken.2 [7]⟩

end Tunnel.LinkAddress
