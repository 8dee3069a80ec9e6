import Tunnel.Kernel.Machine

/-!
# Interfaces cloned from a device

On the first platform an interface is made on a descriptor of the clone device, and it lives as long
as that descriptor is open. Making an interface under a name that is taken would attach to the one
that is there, so the name is looked up first. Whatever fails, the descriptors opened so far are
closed again, the last one first.

## Main definitions

* `CloneDevice.allocator` — the allocator
* `setUp` — bringing an interface up, which both platforms do alike

## Main results

* `CloneDevice.create_invalid` — a text that is no name never reaches the kernel
-/

namespace Tunnel

variable {κ : Type}

/-- Brings an interface up: asks for its flags (`SIOCGIFFLAGS`) and sets them with `IFF_UP` added
(`SIOCSIFFLAGS`). The record is the same for both requests, so that the second one carries what the
kernel left in it. -/
def setUp (kernel : Kernel κ) (socket : Descriptor) (name : String) :
    Action (Machine κ) (Except Error Unit) := do
  match ← Machine.control kernel socket (.onInterface .getFlags (.ofName name 0)) with
  | .error code => return .error (.refused .up code)
  | .ok record =>
    match ← Machine.control kernel socket (.onInterface .setFlags record.raised) with
    | .error code => return .error (.refused .up code)
    | .ok _ => return .ok ()

/-- The text, if it is an interface name. No text is fine as well. -/
def checkRequested (requested : Option String) : Except Error (Option String) :=
  match requested with
  | none => .ok none
  | some name => (Interface.validateName name).map some

namespace CloneDevice

/-- The path of the clone device. -/
def path : String := "/dev/net/tun"

/-- The flag of an interface that carries packets rather than link-layer frames (`IFF_TUN`). -/
def flagTun : UInt16 := 1

/-- Makes an interface on an open device (`TUNSETIFF`) and brings it up by way of an open socket. -/
def createOn (kernel : Kernel κ) (socket device : Descriptor) (requested : Option String) :
    Action (Machine κ) (Except Error String) := do
  let record := InterfaceRecord.ofName (requested.getD "") flagTun
  match ← Machine.control kernel device (.onInterface .create record) with
  | .error code => return .error (.refused .create code)
  | .ok record =>
    let name := record.name.text
    Action.tell (.created .cloneDevice name)
    match ← setUp kernel socket name with
    | .error e => return .error e
    | .ok () =>
      Action.tell (.isUp .cloneDevice name)
      return .ok name

/-- Opens the clone device and makes an interface on it. The device is kept only if all goes well.
-/
def createWith (kernel : Kernel κ) (socket : Descriptor) (requested : Option String) :
    Action (Machine κ) (Except Error Interface) := do
  match ← Machine.openDevice kernel path with
  | .error code => return .error (.unavailable .deviceOpen code)
  | .ok device =>
    match ← createOn kernel socket device requested with
    | .error e =>
      Machine.close kernel device
      return .error e
    | .ok name => return .ok ⟨name, device, .pointToPoint, true⟩

/-- Makes an interface by way of a socket that is open meanwhile. -/
def createUnderName (kernel : Kernel κ) (requested : Option String) :
    Action (Machine κ) (Except Error Interface) := do
  match ← Machine.openSocket kernel with
  | .error code => return .error (.unavailable .controlSocket code)
  | .ok socket =>
    let result ← createWith kernel socket requested
    Machine.close kernel socket
    return result

/-- Makes an interface. A requested name must not be taken. -/
def create (kernel : Kernel κ) (requested : Option String) :
    Action (Machine κ) (Except Error Interface) := do
  match checkRequested requested with
  | .error e => return .error e
  | .ok none => createUnderName kernel none
  | .ok (some name) =>
    if ← Machine.interfaceExists kernel name then
      return .error (.refused .create Errno.alreadyExists)
    else createUnderName kernel (some name)

/-- Closes the device of an interface, with which the interface goes. -/
def destroy (kernel : Kernel κ) (interface : Interface) :
    Action (Machine κ) (Except Error Unit) := do
  Action.tell (.closingDevice interface.name)
  Machine.close kernel interface.descriptor
  return .ok ()

/-- The allocator of interfaces that are cloned from a device. -/
def allocator (kernel : Kernel κ) : Allocator (Machine κ) := ⟨create kernel, destroy kernel⟩

theorem create_invalid (kernel : Kernel κ) {name : String} (h : Interface.isName name = false)
    (m : Machine κ) :
    (create kernel (some name)).run m = ⟨.error (.invalidName name), [], m⟩ := by
  simp [create, checkRequested, Interface.validateName, h, Except.map]

end CloneDevice

end Tunnel
