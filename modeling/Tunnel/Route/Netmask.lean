import Tunnel.Bytes
import Tunnel.Error

/-!
# Netmasks

A netmask is as wide as an address of its family; its leading bits are ones and the rest zeros.
There is no mask without a leading one: a default route has to be dealt with before a mask is asked
for.

## Main definitions

* `Netmask.ones` — leading ones over a number of octets
* `Netmask.build` — the mask of a family and a length

## Main results

* `Netmask.length_ones` — a mask is as wide as it was asked to be
-/

namespace Tunnel.Netmask

/-- The octet whose `bits` leading bits are ones, `bits` being 8 at most. -/
def leadingOnes (bits : Nat) : UInt8 := UInt8.ofNat (0xFF00 >>> bits)

/-- `width` octets of which the `bits` leading bits are ones. -/
def ones : (width bits : Nat) → Bytes
  | 0, _ => []
  | width + 1, bits => leadingOnes (min bits 8) :: ones width (bits - 8)

/-- The mask of `length` leading ones for an address of `family`. -/
def build (family : AddressFamily) (length : Nat) : Except Error Bytes :=
  match family.width with
  | none => .error (.unsupportedFamily family)
  | some width =>
    if length = 0 ∨ width < length then
      .error (.preconditionViolation ("invalid " ++ family.label ++ " prefix length " ++
        toString length ++ " (expected 1..=" ++ toString width ++ ")"))
    else .ok (ones (width / 8) length)

@[simp] theorem length_ones (width bits : Nat) : (ones width bits).length = width := by
  induction width generalizing bits with
  | zero => rfl
  | succ width ih => simp [ones, ih]

end Tunnel.Netmask
