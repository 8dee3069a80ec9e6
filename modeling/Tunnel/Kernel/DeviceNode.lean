import Tunnel.Kernel.CloneDevice

/-!
# Interfaces with a device each

On the second platform an interface is made by a control request, and its frames pass through a
device that bears its name. It stays until it is taken away by another request, so one whose setup
fails half way is taken away at once, after its device was closed. That this may fail as well is
stated; the failure reported is the one of the setup.

## Main definitions

* `DeviceNode.allocator` — the allocator
* `DeviceNode.configure` — setting up an interface that was made
* `Platform.allocator` — the allocator of either platform

## Main results

* `DeviceNode.create_invalid` — a text that is no name never reaches the kernel
-/

namespace Tunnel

variable {κ : Type}

namespace DeviceNode

/-- The name for which the kernel chooses a number to go with it. -/
def clonedName : String := "tun"

/-- The mode of an interface between two points (`IFF_POINTOPOINT`). -/
def modePointToPoint : UInt32 := 0x10

/-- The path of the device of an interface. -/
def path (name : String) : String := "/dev/" ++ name

/-- Sets an open device to point-to-point mode (`TUNSIFMODE`) with frame headers (`TUNSIFHEAD`), and
brings the interface up. -/
def configureDevice (kernel : Kernel κ) (socket device : Descriptor) (name : String) :
    Action (Machine κ) (Except Error Unit) := do
  match ← Machine.control kernel device (.onDevice .setMode modePointToPoint) with
  | .error code => return .error (.refused .setMode code)
  | .ok _ =>
    match ← Machine.control kernel device (.onDevice .setHead 1) with
    | .error code => return .error (.refused .setHead code)
    | .ok _ => setUp kernel socket name

/-- Opens the device of an interface and sets it up. The device is kept only if all goes well. -/
def configure (kernel : Kernel κ) (socket : Descriptor) (name : String) :
    Action (Machine κ) (Except Error Descriptor) := do
  match ← Machine.openDevice kernel (path name) with
  | .error code => return .error (.unavailable .deviceOpen code)
  | .ok device =>
    match ← configureDevice kernel socket device name with
    | .error e =>
      Machine.close kernel device
      return .error e
    | .ok () =>
      Action.tell (.isUp .deviceNode name)
      return .ok device

/-- Takes an interface away by way of an open socket (`SIOCIFDESTROY`). -/
def destroyByName (kernel : Kernel κ) (socket : Descriptor) (name : String) :
    Action (Machine κ) (Except Error Unit) := do
  match ← Machine.control kernel socket (.onInterface .destroy (.ofName name 0)) with
  | .error code => return .error (.refused .destroy code)
  | .ok _ => return .ok ()

/-- Makes an interface by way of an open socket (`SIOCIFCREATE2`), and takes it away again if it
cannot be set up. -/
def createWith (kernel : Kernel κ) (socket : Descriptor) (requested : Option String) :
    Action (Machine κ) (Except Error Interface) := do
  let record := InterfaceRecord.ofName (requested.getD clonedName) 0
  match ← Machine.control kernel socket (.onInterface .create record) with
  | .error code => return .error (.refused .create code)
  | .ok record =>
    let name := record.name.text
    Action.tell (.created .deviceNode name)
    match ← configure kernel socket name with
    | .ok device => return .ok ⟨name, device, .pointToPoint, true⟩
    | .error e =>
      if let .error cause ← destroyByName kernel socket name then
        Action.tell (.cleanupFailed name cause)
      return .error e

/-- Makes an interface. -/
def create (kernel : Kernel κ) (requested : Option String) :
    Action (Machine κ) (Except Error Interface) := do
  match checkRequested requested with
  | .error e => return .error e
  | .ok requested =>
    match ← Machine.openSocket kernel with
    | .error code => return .error (.unavailable .controlSocket code)
    | .ok socket =>
      let result ← createWith kernel socket requested
      Machine.close kernel socket
      return result

/-- Takes an interface away, after closing its device. -/
def destroy (kernel : Kernel κ) (interface : Interface) :
    Action (Machine κ) (Except Error Unit) := do
  Machine.close kernel interface.descriptor
  match ← Machine.openSocket kernel with
  | .error code => return .error (.unavailable .destroy code)
  | .ok socket =>
    let result ← destroyByName kernel socket interface.name
    if let .ok () := result then
      Action.tell (.destroyed interface.name)
    Machine.close kernel socket
    return result

/-- The allocator of interfaces that have a device each. -/
def allocator (kernel : Kernel κ) : Allocator (Machine κ) := ⟨create kernel, destroy kernel⟩

theorem create_invalid (kernel : Kernel κ) {name : String} (h : Interface.isName name = false)
    (m : Machine κ) :
    (create kernel (some name)).run m = ⟨.error (.invalidName name), [], m⟩ := by
  simp [create, checkRequested, Interface.validateName, h, Except.map]

end DeviceNode

/-- The allocator of a platform. -/
def Platform.allocator (kernel : Kernel κ) : Platform → Allocator (Machine κ)
  | linux => CloneDevice.allocator kernel
  | freebsd => DeviceNode.allocator kernel

end Tunnel
