import Tunnel.Kernel.Machine

/-!
# Rosters of interfaces

Interfaces that are held at the same time, each under a number of its own. They are let go one by
one: by destroying them, or by closing their devices and leaving it at that.

## Main definitions

* `Roster` — the interfaces that are held
* `Roster.create`, `Roster.destroy` — making an interface and taking it away
* `Roster.forget`, `Roster.forgetAll` — closing devices without more

## Main results

* `Roster.get_enroll_self` — an interface that was enrolled is held
-/

namespace Tunnel

/-- Interfaces that are held, by number, in the order of their numbers. -/
structure Roster where
  held : List (Nat × Interface)
  /-- The number of the next interface. -/
  next : Nat
deriving DecidableEq, Repr

namespace Roster

variable {σ κ : Type}

/-- A roster that holds nothing. -/
def empty : Roster := ⟨[], 0⟩

/-- The interface under a number. -/
def get? (roster : Roster) (number : Nat) : Option Interface := roster.held.lookup number

/-- The roster with one more interface. -/
def enroll (roster : Roster) (interface : Interface) : Roster :=
  ⟨roster.held ++ [(roster.next, interface)], roster.next + 1⟩

/-- The roster without an interface. -/
def release (roster : Roster) (number : Nat) : Roster :=
  { roster with held := roster.held.filter fun entry => entry.1 != number }

/-- Makes an interface; the answer has its number. -/
def create (allocator : Allocator σ) (requested : Option String) (roster : Roster) :
    Action σ (Except Error (Nat × Interface) × Roster) := do
  match ← allocator.create requested with
  | .error e => return (.error e, roster)
  | .ok interface => return (.ok (roster.next, interface), roster.enroll interface)

/-- Takes an interface away, whatever comes of it. Without one of that number there is no answer. -/
def destroy (allocator : Allocator σ) (number : Nat) (roster : Roster) :
    Action σ (Option (Except Error Unit) × Roster) := do
  match roster.get? number with
  | none => return (none, roster)
  | some interface =>
    let result ← allocator.destroy interface
    return (some result, roster.release number)

/-- Closes the device of an interface, and answers whether there was one. -/
def forget (kernel : Kernel κ) (number : Nat) (roster : Roster) :
    Action (Machine κ) (Bool × Roster) := do
  match roster.get? number with
  | none => return (false, roster)
  | some interface =>
    Machine.close kernel interface.descriptor
    return (true, roster.release number)

/-- Closes the devices of interfaces in order. -/
def closeAll (kernel : Kernel κ) : List (Nat × Interface) → Action (Machine κ) Unit
  | [] => return ()
  | (_, interface) :: later => do
    Machine.close kernel interface.descriptor
    closeAll kernel later

/-- Closes the devices of all interfaces, in the order of their numbers. -/
def forgetAll (kernel : Kernel κ) (roster : Roster) : Action (Machine κ) Roster := do
  closeAll kernel roster.held
  return { roster with held := [] }

theorem get_enroll_self {roster : Roster} (interface : Interface)
    (h : ∀ entry ∈ roster.held, entry.1 ≠ roster.next) :
    (roster.enroll interface).get? roster.next = some interface := by
  simp only [get?, enroll]
  generalize roster.held = held at h
  induction held with
  | nil => simp
  | cons entry later ih =>
    obtain ⟨number, other⟩ := entry
    have hne : (roster.next == number) = false := by
      simpa using (h (number, other) List.mem_cons_self).symm
    simpa [List.lookup_cons, hne] using ih fun e he => h e (List.mem_cons_of_mem _ he)

end Roster

end Tunnel
