import Tunnel.Scripted.Kernel
import Tunnel.Scripted.Routing

/-!
# A scripted world

A machine with a scripted kernel beside a routing world that answers by script. On the one platform
there is no routing to speak of, so that the script for it is never asked.

## Main definitions

* `Scripted.World` — the machine and the routing world
* `Scripted.World.allocator`, `Scripted.World.backend` — the services of a platform
-/

namespace Tunnel.Scripted

/-- A machine, and a routing world of which the requests are recorded. -/
structure World where
  machine : Machine Kernel
  routing : Recorded Routing

namespace World

/-- A world that has just been started. -/
def start (kernel : Kernel) (routing : Routing) : World := ⟨.start kernel, .ofWorld routing⟩

/-- The world with another machine. -/
def withMachine (machine : Machine Kernel) (world : World) : World :=
  { world with machine := machine }

/-- The world with another routing world. -/
def withRouting (routing : Recorded Routing) (world : World) : World :=
  { world with routing := routing }

/-- An action on the machine. -/
def onMachine {α : Type} (x : Action (Machine Kernel) α) : Action World α :=
  x.onPart machine withMachine

/-- The allocator of a platform. -/
def allocator (platform : Platform) : Allocator World :=
  (Kernel.allocator platform).onPart machine withMachine

/-- The routing services of a platform. -/
def backend : Platform → RouteBackend World
  | .linux => .unsupported
  | .freebsd => Routing.backend.recorded.onPart routing withRouting

/-- The world without a record of what was asked of it so far. -/
def unrecorded (world : World) : World :=
  ⟨{ world.machine with calls := [] }, .ofWorld world.routing.world⟩

end World

end Tunnel.Scripted
