import Tunnel.Interface.Allocator
import Tunnel.Route.Installer

/-!
# Recorded requests

What an allocator and a routing backend are asked for, in order. A recorded world is any world with
the list of the requests that were made of it; recording changes no answer.

## Main definitions

* `Request` — a request
* `Recorded` — a world with the requests made of it
* `Allocator.recorded`, `RouteBackend.recorded` — the same services, with their requests recorded

## Main results

* `Recorded.run_ask` — recording adds the request and leaves the answer as it is
-/

namespace Tunnel

/-- A request made of a world. -/
inductive Request
  | linkAddress (interface : String)
  | submit (message : Bytes)
  | create (requested : Option String)
  | destroy (interface : String)
deriving DecidableEq, Repr

/-- A world with the requests made of it, the first request first. -/
structure Recorded (σ : Type) where
  world : σ
  requests : List Request
deriving Repr

namespace Recorded

variable {σ α : Type}

/-- A world of which nothing has been asked. -/
def ofWorld (world : σ) : Recorded σ := ⟨world, []⟩

/-- Records the request and carries it out. -/
def ask (request : Request) (x : Action σ α) : Action (Recorded σ) α := fun s =>
  let outcome := x s.world
  ⟨outcome.answer, outcome.notices, ⟨outcome.world, s.requests ++ [request]⟩⟩

/-- Carries an action out without a record. -/
def lift (x : Action σ α) : Action (Recorded σ) α := fun s =>
  let outcome := x s.world
  ⟨outcome.answer, outcome.notices, ⟨outcome.world, s.requests⟩⟩

@[simp] theorem run_ask (request : Request) (x : Action σ α) (s : Recorded σ) :
    (ask request x).run s = ⟨(x.run s.world).answer, (x.run s.world).notices,
      ⟨(x.run s.world).world, s.requests ++ [request]⟩⟩ := rfl

@[simp] theorem run_lift (x : Action σ α) (s : Recorded σ) :
    (lift x).run s = ⟨(x.run s.world).answer, (x.run s.world).notices,
      ⟨(x.run s.world).world, s.requests⟩⟩ := rfl

end Recorded

/-- The allocator with its requests recorded. -/
def Allocator.recorded {σ : Type} (allocator : Allocator σ) : Allocator (Recorded σ) where
  create requested := Recorded.ask (.create requested) (allocator.create requested)
  destroy interface := Recorded.ask (.destroy interface.name) (allocator.destroy interface)

/-- The backend with its look-ups and submissions recorded. -/
def RouteBackend.recorded {σ : Type} (backend : RouteBackend σ) : RouteBackend (Recorded σ) where
  linkAddress interface :=
    Recorded.ask (.linkAddress interface) (backend.linkAddress interface)
  isSupported := Recorded.lift backend.isSupported
  submit message := Recorded.ask (.submit message) (backend.submit message)

end Tunnel
