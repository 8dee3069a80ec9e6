import Mathlib.Algebra.Order.Ring.Nat
import Mathlib.Order.Bounds.Basic
import Tunnel.Route.Message

/-!
# Padding to whole words

The room of a socket address is found by a trick on bits: set the low three bits of the length less
one, and add one. Here the trick is read as arithmetic. Short of the top of the 64-bit range, where
the last addition wraps around, the room is the length rounded up to a multiple of eight.

## Main results

* `or_seven_eq` — setting the low three bits, as a division
* `toNat_paddedSize` — the room of a length, rounded up
* `isLeast_paddedSize` — no other room of whole words is as small
* `Bytes.room_eq`, `Bytes.length_padded` — the same for octets, and that padding fills the room
-/

namespace Tunnel

/-- Setting the low three bits rounds down to a multiple of eight and adds seven. -/
theorem or_seven_eq (a : Nat) : a ||| 7 = 8 * (a / 8) + 7 := by
  have low : ∀ r < 8, r ||| 7 = 7 := by decide
  have hr : a % 8 < 8 := Nat.mod_lt a (by decide)
  calc a ||| 7 = (8 * (a / 8) ||| a % 8) ||| 7 := by
        rw [← Nat.two_pow_add_eq_or_of_lt (i := 3) hr (a / 8)]
        congr 1
        omega
    _ = 8 * (a / 8) ||| 7 := by rw [Nat.or_assoc, low _ hr]
    _ = 8 * (a / 8) + 7 := (Nat.two_pow_add_eq_or_of_lt (i := 3) (by decide) (a / 8)).symm

/-- The length less one with its low three bits set. One more is the room, unless that wraps. -/
theorem toNat_sub_one_or_seven {length : UInt64} (h : 0 < length.toNat) :
    ((length - 1) ||| (wordSize - 1)).toNat = 8 * ((length.toNat - 1) / 8) + 7 := by
  have hone : (1 : UInt64) ≤ length := UInt64.le_iff_toNat_le.mpr h
  rw [UInt64.toNat_or, UInt64.toNat_sub_of_le _ _ hone]
  exact or_seven_eq _

/-- **The room of a length.** It is the length rounded up to a multiple of eight. -/
theorem toNat_paddedSize {length : UInt64} (hpos : 0 < length.toNat)
    (hle : length.toNat ≤ 2 ^ 64 - 8) :
    (paddedSize length).toNat = 8 * ((length.toNat + 7) / 8) := by
  have hne : length ≠ 0 := by
    rintro rfl
    exact absurd hpos (by decide)
  rw [paddedSize, if_neg hne, UInt64.toNat_add, toNat_sub_one_or_seven hpos]
  have hone : (1 : UInt64).toNat = 1 := rfl
  omega

/-- **No smaller room will do.** The room of a length is the least that consists of whole words, one
at least, and holds the length. -/
theorem isLeast_paddedSize {length : UInt64} (hle : length.toNat ≤ 2 ^ 64 - 8) :
    IsLeast {room : Nat | 0 < room ∧ 8 ∣ room ∧ length.toNat ≤ room}
      (paddedSize length).toNat := by
  rcases Nat.eq_zero_or_pos length.toNat with hzero | hpos
  · obtain rfl : length = 0 := UInt64.toNat_inj.1 hzero
    exact ⟨by decide, fun room hroom => Nat.le_of_dvd hroom.1 hroom.2.1⟩
  · rw [toNat_paddedSize hpos hle]
    refine ⟨⟨by omega, Nat.dvd_mul_right 8 _, by omega⟩, ?_⟩
    rintro room ⟨-, ⟨words, rfl⟩, hroom⟩
    omega

namespace Bytes

variable {octets : Bytes}

theorem toNat_ofNat_length (hle : octets.length ≤ 2 ^ 64 - 8) :
    (UInt64.ofNat octets.length).toNat = octets.length :=
  UInt64.toNat_ofNat_of_lt' (Nat.lt_of_le_of_lt hle (by decide))

theorem room_eq (hpos : 0 < octets.length) (hle : octets.length ≤ 2 ^ 64 - 8) :
    octets.room = 8 * ((octets.length + 7) / 8) := by
  have hlen := toNat_ofNat_length hle
  rw [room, toNat_paddedSize (by omega) (by omega), hlen]

theorem length_le_room (hle : octets.length ≤ 2 ^ 64 - 8) : octets.length ≤ octets.room := by
  have hlen := toNat_ofNat_length hle
  have hroom := (isLeast_paddedSize (hlen.symm ▸ hle)).1.2.2
  rwa [hlen] at hroom

theorem length_padded (hle : octets.length ≤ 2 ^ 64 - 8) :
    octets.padded.length = octets.room := by
  have := length_le_room hle
  rw [padded, List.length_append, length_zeros]
  omega

end Bytes

end Tunnel
