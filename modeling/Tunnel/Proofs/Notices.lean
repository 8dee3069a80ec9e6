import Tunnel.Action

/-!
# Notices of actions

The notices of an action, related to its answer. System calls state nothing, and what a sequence of
steps states is put together from what the steps state.

## Main definitions

* `Action.States` — what an action states, related to its answer
* `Action.Silent` — an action that states nothing

## Main results

* `Action.States.bind` — what two steps state, one after the other
-/

namespace Tunnel

variable {σ α β : Type}

namespace Action

/-- What the action states, and what it answers, are related by `P`, in whatever world it runs. -/
def States (x : Action σ α) (P : List Notice → α → Prop) : Prop :=
  ∀ world, P (x.run world).notices (x.run world).answer

/-- The action states nothing. -/
def Silent (x : Action σ α) : Prop := ∀ world, (x.run world).notices = []

theorem silent_state (step : σ → α × σ) : Silent (state step) := fun _ => rfl

theorem silent_pure (a : α) : Silent (pure a : Action σ α) := fun _ => rfl

theorem Silent.bind {x : Action σ α} {f : α → Action σ β} (hx : Silent x)
    (hf : ∀ a, Silent (f a)) : Silent (x >>= f) := by
  intro world
  rw [run_bind]
  show (x.run world).notices ++ _ = []
  rw [hx world, hf _ _]
  rfl

namespace States

protected theorem pure {a : α} {P : List Notice → α → Prop} (h : P [] a) :
    States (σ := σ) (pure a) P := fun _ => h

/-- **Sequencing.** What the second step states comes behind what the first one stated. -/
protected theorem bind {x : Action σ α} {f : α → Action σ β} {P : List Notice → α → Prop}
    {Q : List Notice → β → Prop} (hx : States x P)
    (hf : ∀ notices a, P notices a → States (f a) fun later b => Q (notices ++ later) b) :
    States (x >>= f) Q :=
  fun world => hf _ _ (hx world) (x.run world).world

/-- A step that states nothing comes first. -/
theorem silent_bind {x : Action σ α} {f : α → Action σ β} {Q : List Notice → β → Prop}
    (hx : Silent x) (hf : ∀ a, States (f a) Q) : States (x >>= f) Q := by
  refine .bind (P := fun notices _ => notices = []) hx ?_
  rintro _ a rfl
  exact hf a

theorem tell_bind {notice : Notice} {f : Unit → Action σ α} {Q : List Notice → α → Prop}
    (hf : States (f ()) fun later => Q (notice :: later)) : States (tell notice >>= f) Q := by
  refine .bind (P := fun notices _ => notices = [notice]) (fun _ => rfl) ?_
  rintro _ _ rfl
  exact hf

end States

end Action

end Tunnel
