import Tunnel.Session

/-!
# Running beside a record

A record of what happens is kept in a world of its own kind: the plain world with a record next to
it. Whatever the library does there must be what it does in the plain world, or the record would
tell of another program. This file says what that means, and shows that it need only be checked for
the services that the library is given: sessions and installers see the world through nothing else.

## Main definitions

* `Action.Erases` — without the record, one action is the other
* `Allocator.Erases`, `RouteBackend.Erases` — the same for the services

## Main results

* `RouteInstaller.erases_add` — installing a route erases if the backend does
* `Session.erases_openWith`, `Session.erases_close`, `Session.erases_drop` — opening a session and
  ending it erase if the allocator and the backend do
-/

namespace Tunnel

variable {σ τ α β : Type} {forget : τ → σ}

/-- What is left behind, with the world seen through `forget`. -/
def Outcome.onWorld (forget : τ → σ) (o : Outcome τ α) : Outcome σ α :=
  ⟨o.answer, o.notices, forget o.world⟩

namespace Action

/-- Seen through `forget`, the action `x` does what `y` does: it gives the same answer, states the
same notices and leaves the same world. -/
def Erases (forget : τ → σ) (x : Action τ α) (y : Action σ α) : Prop :=
  ∀ t, (x.run t).onWorld forget = y.run (forget t)

namespace Erases

protected theorem pure (a : α) : Erases forget (pure a) (pure a) := fun _ => rfl

protected theorem tell (notice : Notice) : Erases forget (tell notice) (tell notice) := fun _ => rfl

protected theorem bind {x : Action τ α} {y : Action σ α} {f : α → Action τ β}
    {g : α → Action σ β} (hx : Erases forget x y) (hf : ∀ a, Erases forget (f a) (g a)) :
    Erases forget (x >>= f) (y >>= g) := by
  intro t
  have h := hf (x.run t).answer (x.run t).world
  rw [run_bind, run_bind, ← hx t]
  simp only [Outcome.onWorld] at h ⊢
  rw [← h]

end Erases

end Action

/-- Seen through `forget`, the two allocators are the same. -/
structure Allocator.Erases (forget : τ → σ) (beside : Allocator τ) (plain : Allocator σ) :
    Prop where
  create : ∀ requested, Action.Erases forget (beside.create requested) (plain.create requested)
  destroy : ∀ interface, Action.Erases forget (beside.destroy interface) (plain.destroy interface)

/-- Seen through `forget`, the two backends are the same. -/
structure RouteBackend.Erases (forget : τ → σ) (beside : RouteBackend τ) (plain : RouteBackend σ) :
    Prop where
  linkAddress : ∀ interface,
    Action.Erases forget (beside.linkAddress interface) (plain.linkAddress interface)
  isSupported : Action.Erases forget beside.isSupported plain.isSupported
  submit : ∀ message, Action.Erases forget (beside.submit message) (plain.submit message)

open Tunnel.Action (Erases)

section Installer

variable {beside : RouteBackend τ} {plain : RouteBackend σ}

theorem RouteInstaller.erases_submit (hb : beside.Erases forget plain) (installer : RouteInstaller)
    (interface : String) (destination : RoutePrefix) (message : RouteMessage) :
    Erases forget (installer.submit beside interface destination message)
      (installer.submit plain interface destination message) := by
  rw [RouteInstaller.submit, RouteInstaller.submit]
  cases message.encode installer.next.lastSequence with
  | error e => exact .pure _
  | ok octets =>
    refine .bind (.tell _) fun _ => .bind (hb.submit octets) fun answer => ?_
    cases answer with
    | error e => exact .pure _
    | ok written =>
      by_cases h : written = octets.length
      · simp only [if_pos h]
        exact .bind (.tell _) fun _ => .pure _
      · simp only [if_neg h]
        exact .pure _

theorem RouteInstaller.erases_add (hb : beside.Erases forget plain) (installer : RouteInstaller)
    (interface : String) (destination : RoutePrefix) :
    Erases forget (installer.add beside interface destination)
      (installer.add plain interface destination) := by
  refine .bind hb.isSupported fun supported => ?_
  cases supported with
  | false => exact .pure _
  | true =>
    refine .bind (hb.linkAddress interface) fun answer => ?_
    cases answer with
    | error e => exact .pure _
    | ok gateway =>
      dsimp only
      cases RouteMessage.add destination gateway with
      | error e => exact .pure _
      | ok message => exact erases_submit hb installer interface destination message

end Installer

namespace Session

variable {besideA : Allocator τ} {plainA : Allocator σ} {besideB : RouteBackend τ}
  {plainB : RouteBackend σ}

theorem erases_teardown (ha : besideA.Erases forget plainA) (session : Session) :
    Erases forget (session.teardown besideA) (session.teardown plainA) := by
  rw [teardown, teardown]
  cases session.held with
  | none => exact .pure _
  | some interface =>
    refine .bind (ha.destroy interface) fun answer => ?_
    cases answer with
    | error e => exact .bind (.tell _) fun _ => .pure _
    | ok _ => exact .pure _

theorem erases_drop (ha : besideA.Erases forget plainA) (session : Session) :
    Erases forget (session.drop besideA) (session.drop plainA) :=
  .bind (erases_teardown ha session) fun _ => .pure _

theorem erases_close (ha : besideA.Erases forget plainA) (session : Session) :
    Erases forget (session.close besideA) (session.close plainA) := by
  rw [close, close]
  cases session.held with
  | none => exact .bind (.pure _) fun _ => .bind (erases_drop ha _) fun _ => .pure _
  | some interface =>
    exact .bind (ha.destroy interface) fun _ => .bind (erases_drop ha _) fun _ => .pure _

theorem erases_installRoutes (ha : besideA.Erases forget plainA) (hb : besideB.Erases forget plainB)
    (config : Config) (routes : List RoutePrefix) (session : Session) :
    Erases forget (installRoutes besideA besideB config routes session)
      (installRoutes plainA plainB config routes session) := by
  induction routes generalizing session with
  | nil => exact .pure _
  | cons route later ih =>
    rw [installRoutes, installRoutes]
    by_cases h : config.familyEnabled route.family = true
    · rw [if_pos h, if_pos h]
      refine .bind (RouteInstaller.erases_add hb _ _ _) fun attempt => ?_
      obtain ⟨result, installer⟩ := attempt
      cases result with
      | ok _ => exact ih _
      | error e =>
        cases e
        case notSupported => exact .bind (.tell _) fun _ => .pure _
        all_goals
          exact .bind (erases_teardown ha _) fun _ => .bind (erases_drop ha _) fun _ => .pure _
    · rw [if_neg h, if_neg h]
      exact .bind (.tell _) fun _ => ih _

theorem erases_openWith (ha : besideA.Erases forget plainA) (hb : besideB.Erases forget plainB)
    (installer : RouteInstaller) (config : Config) :
    Erases forget (openWith besideA besideB installer config)
      (openWith plainA plainB installer config) := by
  refine .bind (ha.create config.interface) fun answer => ?_
  cases answer with
  | error e => exact .pure _
  | ok interface =>
    refine .bind (erases_installRoutes ha hb config config.routes _) fun result => ?_
    cases result with
    | error e => exact .pure _
    | ok session => exact .bind (.tell _) fun _ => .pure _

end Session

end Tunnel
