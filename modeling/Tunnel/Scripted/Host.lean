import Tunnel.Interface.Name
import Tunnel.Interface.Traffic
import Tunnel.Scripted.Routing

/-!
# A scripted host

A host whose allocator gives out interfaces by script, each with a device of its own, and whose
routing world answers by script as well.

## Main definitions

* `Scripted.AllocatorScript` — how the allocator answers
* `Scripted.Host` — the host
* `Scripted.Host.allocator`, `Scripted.Host.backend` — its services
* `Scripted.Host.device`, `Scripted.Host.onDevice` — the device of an interface
-/

namespace Tunnel.Scripted

/-- How the allocator of a scripted host answers. -/
structure AllocatorScript where
  /-- Whether a requested name has to be one. -/
  validates : Bool
  createFailure : Option Error
  /-- The name that every interface gets. -/
  assigned : Option String
  mode : LinkMode
  up : Bool
  /-- The device that a new interface gets. -/
  device : Device
  destroyFailure : Option Error
deriving DecidableEq, Repr

/-- An allocator that does as it is asked. -/
def AllocatorScript.willing : AllocatorScript :=
  ⟨false, none, none, .pointToPoint, true, .quiet, none⟩

/-- A host that answers by script. -/
structure Host where
  script : AllocatorScript
  routing : Routing
  /-- The devices that were given out; a descriptor is a place in this list. -/
  devices : List Device
deriving DecidableEq, Repr

namespace Host

/-- The interface that the script gives out for a request. -/
def allocate (requested : Option String) (host : Host) : Except Error Interface × Host :=
  let script := host.script
  let checked := match requested with
    | some name =>
      if script.validates then (Interface.validateName name).map some else .ok requested
    | none => .ok none
  match checked with
  | .error e => (.error e, host)
  | .ok _ =>
    match script.createFailure with
    | some cause => (.error cause, host)
    | none =>
      let name := (script.assigned.or requested).getD "tun0"
      (.ok ⟨name, host.devices.length, script.mode, script.up⟩,
        { host with devices := host.devices ++ [script.device] })

/-- The allocator that answers by the script. -/
def allocator : Allocator Host where
  create requested := Action.state (allocate requested)
  destroy _ := Action.state fun host =>
    (match host.script.destroyFailure with
      | some cause => .error cause
      | none => .ok (), host)

/-- The routing services that answer by the script. -/
def backend : RouteBackend Host :=
  Routing.backend.onPart Host.routing fun routing host => { host with routing := routing }

/-- The device behind a descriptor. -/
def device (host : Host) (descriptor : Descriptor) : Device :=
  (host.devices[descriptor]?).getD .null

/-- An action on the device behind a descriptor. -/
def onDevice {α : Type} (descriptor : Descriptor) (x : Action Device α) : Action Host α :=
  x.onPart (fun host => host.device descriptor) fun device host =>
    { host with devices := host.devices.set descriptor device }

end Host

end Tunnel.Scripted
