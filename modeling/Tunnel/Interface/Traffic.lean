import Tunnel.Frame
import Tunnel.Interface.Device

/-!
# Traffic through a device

Sending a packet puts it into a buffer behind its header and writes the frame; a packet that cannot
be framed never reaches the device. Receiving reads one frame into a buffer and takes it apart.

## Main definitions

* `Device.send` — a packet on its way out
* `Received` — a frame on its way in, taken apart
* `Device.receive` — reading one
* `FamilyChoice` — the family of a packet, given or guessed

## Main results

* `Device.send_error` — a packet that cannot be framed leaves the device alone
-/

namespace Tunnel

/-- How the family of a packet is found. -/
inductive FamilyChoice
  | given (family : AddressFamily)
  /-- By the version in the packet itself. -/
  | guessed
deriving DecidableEq, Repr

/-- The family of the packet. -/
def FamilyChoice.family (choice : FamilyChoice) (packet : Bytes) : AddressFamily :=
  match choice with
  | given family => family
  | guessed => AddressFamily.ofPacket packet

/-- A frame that was read, taken apart. -/
structure Received where
  frame : Bytes
  family : AddressFamily
  payload : Option Bytes
deriving DecidableEq, Repr

namespace Device

/-- Frames the packet in a buffer of `room` octets and writes the frame. The outer failure is one of
framing, the inner one of the device. -/
def send (codec : FrameCodec) (family : AddressFamily) (packet : Bytes) (room : Nat)
    (device : Device) : Except Error (Except Errno Nat) × Device :=
  match codec.wrap family packet (Bytes.zeros room) with
  | .error e => (.error e, device)
  | .ok wrapped =>
    let (written, device) := device.write wrapped.frame
    (.ok written, device)

/-- Reads a frame into a buffer of `room` octets and takes it apart. -/
def receive (codec : FrameCodec) (room : Nat) : Action Device (Except Errno Received) := do
  match ← Action.state (Device.read room) with
  | .error code => return .error code
  | .ok frame =>
    let family ← codec.receive frame
    return .ok ⟨frame, family, Frame.payload? frame⟩

theorem send_error {codec : FrameCodec} {family : AddressFamily} {packet : Bytes} {room : Nat}
    {device : Device} {e : Error} (h : (device.send codec family packet room).1 = .error e) :
    (device.send codec family packet room).2 = device := by
  unfold send at h ⊢
  split
  · rfl
  · next h' => simp [h'] at h

end Device

end Tunnel
