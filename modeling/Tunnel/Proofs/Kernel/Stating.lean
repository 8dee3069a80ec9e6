import Tunnel.Proofs.Kernel.CloneDevice

/-!
# What is stated while an interface is cloned

While an interface is cloned from a device it is stated that the kernel created it, and that it is
up; nothing else is, and neither of these is a warning.

## Main definitions

* `CloneDevice.Stated` — what is stated while an interface is made

## Main results

* `CloneDevice.states_create` — making an interface states that
-/

namespace Tunnel

variable {κ α : Type}

open Tunnel.Action (States silent_state)

namespace CloneDevice

/-- What is stated while an interface is made; `nameOf` is the name that comes with the answer. -/
inductive Stated (nameOf : α → String) : List Notice → Except Error α → Prop
  | nothing (e : Error) : Stated nameOf [] (.error e)
  /-- The kernel created an interface that could not be brought up. -/
  | created (name : String) (e : Error) : Stated nameOf [.created .cloneDevice name] (.error e)
  | isUp (a : α) :
    Stated nameOf [.created .cloneDevice (nameOf a), .isUp .cloneDevice (nameOf a)] (.ok a)

theorem states_createOn (kernel : Kernel κ) (socket device : Descriptor)
    (requested : Option String) :
    States (createOn kernel socket device requested) (Stated id) := by
  refine .silent_bind (silent_state _) fun answer => ?_
  cases answer with
  | error code => exact .pure (.nothing _)
  | ok record =>
    refine .tell_bind ?_
    refine .silent_bind (silent_setUp kernel socket _) fun result => ?_
    cases result with
    | error e => exact .pure (.created _ _)
    | ok _ =>
      refine .tell_bind ?_
      exact .pure (.isUp record.name.text)

theorem states_createWith (kernel : Kernel κ) (socket : Descriptor) (requested : Option String) :
    States (createWith kernel socket requested) (Stated Interface.name) := by
  refine .silent_bind (silent_state _) fun answer => ?_
  cases answer with
  | error code => exact .pure (.nothing _)
  | ok device =>
    refine .bind (states_createOn kernel socket device requested) fun notices result h => ?_
    cases h with
    | nothing e => exact .silent_bind (silent_state _) fun _ => .pure (.nothing e)
    | created name e => exact .silent_bind (silent_state _) fun _ => .pure (.created name e)
    | isUp name => exact .pure (.isUp (interfaceOn device name))

theorem states_createUnderName (kernel : Kernel κ) (requested : Option String) :
    States (createUnderName kernel requested) (Stated Interface.name) := by
  refine .silent_bind (silent_state _) fun answer => ?_
  cases answer with
  | error code => exact .pure (.nothing _)
  | ok socket =>
    refine .bind (states_createWith kernel socket requested) fun notices result h => ?_
    refine .silent_bind (silent_state _) fun _ => .pure ?_
    rw [List.append_nil]
    exact h

/-- **What is stated while an interface is made**: that it was created, and that it is up, as far as
it comes to that. -/
theorem states_create (kernel : Kernel κ) (requested : Option String) :
    States (create kernel requested) (Stated Interface.name) := by
  rw [create]
  cases checkRequested requested with
  | error e => exact .pure (.nothing e)
  | ok checked =>
    cases checked with
    | none => exact states_createUnderName kernel none
    | some name =>
      refine .silent_bind (silent_state _) fun found => ?_
      cases found with
      | true => exact .pure (.nothing _)
      | false => exact states_createUnderName kernel (some name)

end CloneDevice

end Tunnel
