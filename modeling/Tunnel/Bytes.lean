/-!
# Octet strings

Frames, socket addresses and route messages are octet strings. This file fixes how words of 16 and
32 bits are laid out in them: most significant octet first on the wire (frame headers), least
significant first in what a little-endian kernel reads (route messages, interface requests).

## Main definitions

* `Bytes` — an octet string
* `Bytes.ofUInt16BE`, `Bytes.ofUInt32BE`, `Bytes.ofUInt16LE`, `Bytes.ofUInt32LE` — words as octets
* `Bytes.uint16BE`, `Bytes.uint32BE`, `Bytes.uint16LE`, `Bytes.uint32LE` — and back

## Main results

* `Bytes.length_ofUInt16BE` and its three companions — every layout has the width of its word
* `Bytes.uint16BE_octets` and its three companions — a word is read back from its octets
* `Bytes.ofUInt16BE_uint16BE`, `Bytes.ofUInt32BE_uint32BE` — and octets from the word they make
* `Bytes.toNat_uint16LE` — what the word counts
-/

namespace Tunnel

/-- An octet string. -/
abbrev Bytes := List UInt8

namespace Bytes

/-- `n` zero octets. -/
def zeros (n : Nat) : Bytes := List.replicate n 0

@[simp] theorem length_zeros (n : Nat) : (zeros n).length = n := List.length_replicate

/-! ### Most significant octet first -/

/-- The two octets of `w`, most significant first. -/
def ofUInt16BE (w : UInt16) : Bytes := [(w >>> 8).toUInt8, w.toUInt8]

/-- The four octets of `w`, most significant first. -/
def ofUInt32BE (w : UInt32) : Bytes :=
  [(w >>> 24).toUInt8, (w >>> 16).toUInt8, (w >>> 8).toUInt8, w.toUInt8]

/-- The word whose octets are `hi` and `lo`. -/
def uint16BE (hi lo : UInt8) : UInt16 := hi.toUInt16 <<< 8 ||| lo.toUInt16

/-- The word whose octets are `a`, `b`, `c` and `d`, most significant first. -/
def uint32BE (a b c d : UInt8) : UInt32 :=
  a.toUInt32 <<< 24 ||| b.toUInt32 <<< 16 ||| c.toUInt32 <<< 8 ||| d.toUInt32

@[simp] theorem length_ofUInt16BE (w : UInt16) : (ofUInt16BE w).length = 2 := rfl

@[simp] theorem length_ofUInt32BE (w : UInt32) : (ofUInt32BE w).length = 4 := rfl

theorem uint16BE_octets (w : UInt16) : uint16BE (w >>> 8).toUInt8 w.toUInt8 = w := by
  apply UInt16.toBitVec_inj.1
  ext i hi
  simp [uint16BE, -UInt16.toUInt16_toUInt8]
  grind

theorem uint32BE_octets (w : UInt32) :
    uint32BE (w >>> 24).toUInt8 (w >>> 16).toUInt8 (w >>> 8).toUInt8 w.toUInt8 = w := by
  apply UInt32.toBitVec_inj.1
  ext i hi
  simp [uint32BE, -UInt32.toUInt32_toUInt8]
  grind

theorem ofUInt16BE_uint16BE (hi lo : UInt8) : ofUInt16BE (uint16BE hi lo) = [hi, lo] := by
  simp only [ofUInt16BE, List.cons.injEq, and_true]
  refine ⟨?_, ?_⟩ <;>
  · apply UInt8.toBitVec_inj.1
    ext i h
    simp [uint16BE] <;> grind

theorem ofUInt32BE_uint32BE (a b c d : UInt8) :
    ofUInt32BE (uint32BE a b c d) = [a, b, c, d] := by
  simp only [ofUInt32BE, List.cons.injEq, and_true]
  refine ⟨?_, ?_, ?_, ?_⟩ <;>
  · apply UInt8.toBitVec_inj.1
    ext i h
    simp [uint32BE] <;> grind

/-! ### Least significant octet first -/

/-- The two octets of `w`, least significant first. -/
def ofUInt16LE (w : UInt16) : Bytes := [w.toUInt8, (w >>> 8).toUInt8]

/-- The four octets of `w`, least significant first. -/
def ofUInt32LE (w : UInt32) : Bytes :=
  [w.toUInt8, (w >>> 8).toUInt8, (w >>> 16).toUInt8, (w >>> 24).toUInt8]

/-- The word whose octets are `lo` and `hi`. -/
def uint16LE (lo hi : UInt8) : UInt16 := uint16BE hi lo

/-- The word whose octets are `a`, `b`, `c` and `d`, least significant first. -/
def uint32LE (a b c d : UInt8) : UInt32 := uint32BE d c b a

@[simp] theorem length_ofUInt16LE (w : UInt16) : (ofUInt16LE w).length = 2 := rfl

@[simp] theorem length_ofUInt32LE (w : UInt32) : (ofUInt32LE w).length = 4 := rfl

theorem uint16LE_octets (w : UInt16) : uint16LE w.toUInt8 (w >>> 8).toUInt8 = w :=
  uint16BE_octets w

/-- The first octet counts ones and the second counts multiples of 256. -/
theorem toNat_uint16LE (lo hi : UInt8) :
    (uint16LE lo hi).toNat = lo.toNat + 256 * hi.toNat := by
  have hlo := lo.toNat_lt
  have hhi := hi.toNat_lt
  have hshift : (hi.toUInt16 <<< 8).toNat = 2 ^ 8 * hi.toNat := by
    rw [UInt16.toNat_shiftLeft, UInt8.toNat_toUInt16, Nat.shiftLeft_eq]
    show hi.toNat * 2 ^ 8 % 2 ^ 16 = _
    omega
  rw [uint16LE, uint16BE, UInt16.toNat_or, hshift, UInt8.toNat_toUInt16,
    ← Nat.two_pow_add_eq_or_of_lt hlo hi.toNat, Nat.add_comm]

theorem uint32LE_octets (w : UInt32) :
    uint32LE w.toUInt8 (w >>> 8).toUInt8 (w >>> 16).toUInt8 (w >>> 24).toUInt8 = w :=
  uint32BE_octets w

end Bytes

end Tunnel
