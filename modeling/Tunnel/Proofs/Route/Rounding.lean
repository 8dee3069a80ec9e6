import Tunnel.Proofs.Route.Guarded

/-!
# Rooms worked out in words

The room of a socket address is worked out in words of 64 bits, where a difference can fall below
zero and a sum can be too great. Here each step has a guard that tells. Up to seven below the top of
the range no guard is met, and the room is the least number of whole words that holds the length;
all that callers rely on follows from that alone. From there on the last addition is too great, and
always that one.

## Main definitions

* `Wrap`, `Word.minus`, `Word.plus` — steps on words, with guards
* `paddedSizeGuarded` — the room of a length, worked out with guards
* `RoundsUp` — what the room of a length is good for

## Main results

* `paddedSizeGuarded_eq` — where a guard is met, and which
* `roundsUp` — the room of a length that is in range
* `rounds_up_in_words` — both, and that padding to the room never takes away too much
-/

namespace Tunnel

/-! ### Steps on words -/

/-- How a step leaves the range of words. -/
inductive Wrap
  /-- More was to be taken away than there was. -/
  | below
  /-- The sum is too great for a word. -/
  | above
deriving DecidableEq, Repr

namespace Word

/-- The difference of two words, if it is not below zero. -/
def minus (a b : UInt64) : Except Wrap UInt64 := if a < b then .error .below else .ok (a - b)

/-- The sum of two words, if it is a word. -/
def plus (a b : UInt64) : Except Wrap UInt64 :=
  if 2 ^ 64 ≤ a.toNat + b.toNat then .error .above else .ok (a + b)

end Word

/-- The room for a socket address of `length` octets, worked out with a guard on each step. -/
def paddedSizeGuarded (length : UInt64) : Except Wrap UInt64 :=
  if length = 0 then .ok wordSize
  else do
    let last ← Word.minus length 1
    let low ← Word.minus wordSize 1
    Word.plus 1 (last ||| low)

/-- **Where a guard is met.** Only the addition can be too great, and it is for the last seven
lengths there are. -/
theorem paddedSizeGuarded_eq (length : UInt64) :
    paddedSizeGuarded length =
      if 2 ^ 64 - 7 ≤ length.toNat then .error .above else .ok (paddedSize length) := by
  by_cases hzero : length = 0
  · subst hzero
    rfl
  have hpos : 0 < length.toNat := Nat.pos_of_ne_zero fun h => hzero (UInt64.toNat_inj.1 h)
  have hge : (1 : UInt64) ≤ length := UInt64.le_iff_toNat_le.2 hpos
  have hlast : Word.minus length 1 = .ok (length - 1) := if_neg (UInt64.not_lt.2 hge)
  have hlow : Word.minus wordSize 1 = .ok (wordSize - 1) := rfl
  have hone : (1 : UInt64).toNat = 1 := rfl
  have hlt := length.toNat_lt
  rw [paddedSizeGuarded, paddedSize, if_neg hzero, if_neg hzero, hlast, hlow]
  show Word.plus 1 ((length - 1) ||| (wordSize - 1)) = _
  rw [Word.plus, toNat_sub_one_or_seven hpos, hone]
  by_cases htop : 2 ^ 64 - 7 ≤ length.toNat
  · rw [if_pos htop, if_pos (by omega)]
  · rw [if_neg htop, if_neg (by omega)]

theorem paddedSizeGuarded_of_le {length : UInt64} (h : length.toNat ≤ 2 ^ 64 - 8) :
    paddedSizeGuarded length = .ok (paddedSize length) := by
  rw [paddedSizeGuarded_eq, if_neg (by omega)]

/-! ### What the room is good for -/

/-- What the room of a length is good for. -/
structure RoundsUp (length : UInt64) : Prop where
  /-- No step on the way to it leaves the range of words. -/
  guarded_eq : paddedSizeGuarded length = .ok (paddedSize length)
  /-- It is the least that consists of whole words, one at least, and holds the length. -/
  isLeast : IsLeast {room : Nat | 0 < room ∧ 8 ∣ room ∧ length.toNat ≤ room}
    (paddedSize length).toNat
  /-- A shorter length has no greater room. -/
  monotone : ∀ shorter : UInt64, shorter ≤ length → paddedSize shorter ≤ paddedSize length
  /-- The room of the room is the room, and no guard is met on the way to that either. -/
  idempotent : paddedSizeGuarded (paddedSize length) = .ok (paddedSize length)
  /-- The padding is less than a word, unless there is nothing to pad. -/
  padding_le : 0 < length.toNat → (paddedSize length).toNat - length.toNat ≤ 7

/-- **The room of a length that is in range.** All else follows from the room being the least. -/
theorem roundsUp {length : UInt64} (h : length.toNat ≤ 2 ^ 64 - 8) : RoundsUp length := by
  have hleast := isLeast_paddedSize h
  have ⟨hpos, hdvd, hle⟩ := hleast.1
  refine ⟨paddedSizeGuarded_of_le h, hleast, fun shorter hshorter => ?_, ?_, fun hsome => ?_⟩
  · have hnat := UInt64.le_iff_toNat_le.1 hshorter
    have hroom := isLeast_paddedSize (Nat.le_trans hnat h)
    exact UInt64.le_iff_toNat_le.2
      (hleast.mono hroom fun room hmem => ⟨hmem.1, hmem.2.1, Nat.le_trans hnat hmem.2.2⟩)
  · -- the room is in range again, since the top of the range is no multiple of a word
    have hrange : (paddedSize length).toNat ≤ 2 ^ 64 - 8 := by
      have := (paddedSize length).toNat_lt
      omega
    have hself : IsLeast {room : Nat | 0 < room ∧ 8 ∣ room ∧ (paddedSize length).toNat ≤ room}
        (paddedSize length).toNat := ⟨⟨hpos, hdvd, Nat.le_refl _⟩, fun _ hmem => hmem.2.2⟩
    rw [paddedSizeGuarded_of_le hrange]
    exact congrArg _ (UInt64.toNat_inj.1 ((isLeast_paddedSize hrange).unique hself))
  · -- with a whole word of padding, one word less would do
    by_contra hwide
    have hless : (paddedSize length).toNat - 8 ∈
        {room : Nat | 0 < room ∧ 8 ∣ room ∧ length.toNat ≤ room} := ⟨by omega, by omega, by omega⟩
    have := hleast.2 hless
    omega

/-- **Rooms are worked out in words without fault** for every length up to `2 ^ 64 - 8`, and they
are the lengths rounded up. No greater length will do: the last addition leaves the range of words.
Padding takes the length away from the room, and so it never takes away too much, in octets of their
own as in a message. -/
theorem rounds_up_in_words :
    (∀ length : UInt64, length.toNat ≤ 2 ^ 64 - 8 → RoundsUp length) ∧
    (∀ length : UInt64, 2 ^ 64 - 7 ≤ length.toNat → paddedSizeGuarded length = .error .above) ∧
    (∀ octets : Bytes, octets.length ≤ 2 ^ 64 - 8 → octets.pad = .ok octets.padded) ∧
    ∀ (message : RouteMessage) (sequence : UInt32),
      (∀ octets ∈ message.socketAddresses, octets.length ≤ 2 ^ 64 - 8) →
      message.encodeGuarded sequence = (message.encode sequence).mapError .failure := by
  refine ⟨fun length => roundsUp, fun length htop => ?_, fun octets => Bytes.pad_eq,
    fun message sequence h => message.encodeGuarded_eq h sequence⟩
  rw [paddedSizeGuarded_eq, if_pos htop]

/-- A link-layer address that does not fill its room. -/
def elevenOctets : Bytes := [11, 18, 9, 0, 53, 3, 0, 0, 116, 117, 110]

/-- A message with that address for its gateway. -/
def messageToPad : RouteMessage :=
  ⟨0x805, 3, SocketAddress.inet [10, 0, 0, 1], elevenOctets, none⟩

/-- The greatest length that has a room and the least that has none, octets that take five zeros,
and a message with them. -/
theorem rounds_up_in_words_at_limit :
    RoundsUp 0xFFFFFFFFFFFFFFF8 ∧ paddedSizeGuarded 0xFFFFFFFFFFFFFFF9 = .error .above ∧
      elevenOctets.pad = .ok (elevenOctets ++ Bytes.zeros 5) ∧
      ∀ sequence, messageToPad.encodeGuarded sequence =
        (messageToPad.encode sequence).mapError .failure :=
  ⟨rounds_up_in_words.1 _ (by decide), rounds_up_in_words.2.1 _ (by decide),
    rounds_up_in_words.2.2.1 elevenOctets (by decide), fun sequence =>
      rounds_up_in_words.2.2.2 messageToPad sequence (by decide)⟩

end Tunnel
