import Tunnel.Interface.Allocator
import Tunnel.Route.Message

/-!
# Route installation

An installer turns destinations into numbered route messages. For each it looks up the link-layer
address of the interface, builds the message and submits it once. It keeps no list of routes and
takes nothing back. The world in which this happens is a parameter: any world in which one can look
up an address, ask for support and submit octets.

## Main definitions

* `RouteBackend` — what an installer needs of the world
* `RouteBackend.unsupported` — a world without routing sockets
* `RouteInstaller` — the number last given out
* `RouteInstaller.add`, `RouteInstaller.addVia` — installing one route
-/

namespace Tunnel

/-- What an installer needs of the world. -/
structure RouteBackend (σ : Type) where
  /-- The link-layer address of the named interface. -/
  linkAddress : String → Action σ (Except Error LinkAddress)
  /-- Whether messages can be submitted at all. -/
  isSupported : Action σ Bool
  /-- Submits a message; the answer is the number of octets taken. -/
  submit : Bytes → Action σ (Except Error Nat)

namespace RouteBackend

/-- A world without link-layer addresses and routing sockets. -/
def unsupported {σ : Type} : RouteBackend σ where
  linkAddress _ := pure (.error (.notSupported "AF_LINK address lookup"))
  isSupported := pure false
  submit _ := pure (.error (.notSupported "routing socket"))

/-- The same services on a part of a larger world. -/
def onPart {σ τ : Type} (get : τ → σ) (set : σ → τ → τ) (backend : RouteBackend σ) :
    RouteBackend τ where
  linkAddress interface := (backend.linkAddress interface).onPart get set
  isSupported := backend.isSupported.onPart get set
  submit message := (backend.submit message).onPart get set

end RouteBackend

/-- An installer of routes. -/
structure RouteInstaller where
  /-- The sequence number last given out; 0 before the first. It wraps around. -/
  lastSequence : UInt32
deriving DecidableEq, Repr

namespace RouteInstaller

/-- An installer that has given out no number. -/
def fresh : RouteInstaller := ⟨0⟩

/-- The installer after giving out one more number. -/
def next (installer : RouteInstaller) : RouteInstaller := ⟨installer.lastSequence + 1⟩

/-- What an attempt to install a route comes to, with the installer to go on with. -/
abbrev Attempt := Except Error Unit × RouteInstaller

/-- Submits the message under the next number. Any other count of octets than the whole message is
a failure, and the route may or may not be there. -/
def submit {σ : Type} (installer : RouteInstaller) (backend : RouteBackend σ) (interface : String)
    (destination : RoutePrefix) (message : RouteMessage) : Action σ Attempt := do
  let installer := installer.next
  match message.encode installer.lastSequence with
  | .error e => return (.error e, installer)
  | .ok octets =>
    Action.tell
      (.submitting installer.lastSequence message.flags message.addresses octets.length)
    match ← backend.submit octets with
    | .error e => return (.error e, installer)
    | .ok written =>
      if written = octets.length then
        Action.tell (.routeAdded destination.toText interface)
        return (.ok (), installer)
      else
        return (.error (.transactionIncomplete written octets.length), installer)

/-- Installs a route to `destination` into the named interface. -/
def add {σ : Type} (installer : RouteInstaller) (backend : RouteBackend σ) (interface : String)
    (destination : RoutePrefix) : Action σ Attempt := do
  if ← backend.isSupported then
    match ← backend.linkAddress interface with
    | .error e => return (.error e, installer)
    | .ok gateway =>
      match RouteMessage.add destination gateway with
      | .error e => return (.error e, installer)
      | .ok message => installer.submit backend interface destination message
  else
    return (.error (.notSupported "route installation"), installer)

/-- Installs a route to `destination` into an interface that is at hand. -/
def addVia {σ : Type} (installer : RouteInstaller) (backend : RouteBackend σ)
    (interface : Interface) (destination : RoutePrefix) : Action σ Attempt :=
  installer.add backend interface.name destination

end RouteInstaller

end Tunnel
