import Tunnel.Notice

/-!
# Actions

An action works on a world outside the library: it may read it, change it, and state notices on the
way. Actions are put together in sequence; the second sees the world that the first left, and the
notices stand in the order in which they were stated.

## Main definitions

* `Action` — a step on a world, with its answer and its notices
* `Action.state` — a step that states nothing
* `Action.tell` — a notice
* `Action.attempt` — carrying on with the answer of a step that may fail

## Main results

* `Action.bind_pure_run`, `Action.bind_bind_run` — doing nothing afterwards changes nothing, and
  how steps are grouped does not matter
-/

namespace Tunnel

/-- What an action leaves behind. -/
structure Outcome (σ α : Type) where
  answer : α
  notices : List Notice
  world : σ

/-- A step on a world of type `σ` that answers with an `α`. -/
def Action (σ α : Type) : Type := σ → Outcome σ α

namespace Action

variable {σ τ α β γ : Type}

/-- Runs the action from a world. -/
def run (x : Action σ α) (s : σ) : Outcome σ α := x s

/-- The action that does nothing. -/
protected def pure (a : α) : Action σ α := fun s => ⟨a, [], s⟩

/-- One action after another. -/
protected def bind (x : Action σ α) (f : α → Action σ β) : Action σ β := fun s =>
  let first := x s
  let second := f first.answer first.world
  ⟨second.answer, first.notices ++ second.notices, second.world⟩

instance : Monad (Action σ) where
  pure := Action.pure
  bind := Action.bind

/-- A step on the world that states nothing. -/
def state (step : σ → α × σ) : Action σ α := fun s =>
  let next := step s
  ⟨next.1, [], next.2⟩

/-- States a notice. -/
def tell (notice : Notice) : Action σ Unit := fun s => ⟨(), [notice], s⟩

/-- Carries on with the answer of an action that may fail. -/
def attempt {ε : Type} (x : Action σ (Except ε α)) (f : α → Action σ (Except ε β)) :
    Action σ (Except ε β) :=
  x >>= fun
    | .ok a => f a
    | .error e => pure (.error e)

/-- An action on a part of a larger world. -/
def onPart (get : τ → σ) (set : σ → τ → τ) (x : Action σ α) : Action τ α := fun t =>
  let part := x (get t)
  ⟨part.answer, part.notices, set part.world t⟩

@[simp] theorem run_pure (a : α) (s : σ) : (pure a : Action σ α).run s = ⟨a, [], s⟩ := rfl

@[simp] theorem run_bind (x : Action σ α) (f : α → Action σ β) (s : σ) :
    (x >>= f).run s =
      ⟨((f (x.run s).answer).run (x.run s).world).answer,
        (x.run s).notices ++ ((f (x.run s).answer).run (x.run s).world).notices,
        ((f (x.run s).answer).run (x.run s).world).world⟩ := rfl

@[simp] theorem run_map (f : α → β) (x : Action σ α) (s : σ) :
    (f <$> x).run s = ⟨f (x.run s).answer, (x.run s).notices, (x.run s).world⟩ := by
  show (⟨f (x.run s).answer, (x.run s).notices ++ [], (x.run s).world⟩ : Outcome σ β) = _
  rw [List.append_nil]

@[simp] theorem run_state (step : σ → α × σ) (s : σ) :
    (state step).run s = ⟨(step s).1, [], (step s).2⟩ := rfl

@[simp] theorem run_tell (notice : Notice) (s : σ) :
    (tell notice : Action σ Unit).run s = ⟨(), [notice], s⟩ := rfl

/-- Two actions that leave the same behind from every world are the same. -/
theorem ext_run {x y : Action σ α} (h : ∀ s, x.run s = y.run s) : x = y := funext h

theorem bind_pure_run (x : Action σ α) (s : σ) : (x >>= pure).run s = x.run s := by
  simp

theorem bind_bind_run (x : Action σ α) (f : α → Action σ β) (g : β → Action σ γ) (s : σ) :
    (x >>= f >>= g).run s = (x >>= fun a => f a >>= g).run s := by
  simp [List.append_assoc]

instance : LawfulMonad (Action σ) :=
  LawfulMonad.mk' _ (fun x => ext_run (bind_pure_run x)) (fun _ _ => rfl)
    (fun x f g => ext_run (bind_bind_run x f g))

end Action

end Tunnel
