import Tunnel.Bytes
import Tunnel.Error

/-!
# Frame devices

Behind the descriptor of an interface stands a device that takes and gives frames. A datagram device
keeps frames apart: reading takes one of the frames that wait, cut to the room there is, and writing
hands one over. A null device gives nothing and swallows everything, as far as it was opened for
reading and writing at all.

## Main definitions

* `Device` — a device
* `Device.read`, `Device.write` — taking a frame and handing one over
* `Device.inject`, `Device.collect` — what the other end does
-/

namespace Tunnel

/-- A device that carries frames. -/
inductive Device
  /-- Reading gives no octets and writing takes all. -/
  | null
  /-- A null device that was opened for reading only. -/
  | nullReadOnly
  /-- A null device that was opened for writing only. -/
  | nullWriteOnly
  /-- Frames that wait to be read, and frames that were written and not yet collected. -/
  | datagrams (incoming outgoing : List Bytes)
deriving DecidableEq, Repr

namespace Device

/-- A datagram device with nothing waiting at either end. -/
def quiet : Device := datagrams [] []

/-- Reads into `room` octets. Without room nothing is taken from the queue. -/
def read (room : Nat) : Device → Except Errno Bytes × Device
  | null => (.ok [], null)
  | nullReadOnly => (.ok [], nullReadOnly)
  | nullWriteOnly => (.error Errno.badDescriptor, nullWriteOnly)
  | datagrams incoming outgoing =>
    if room = 0 then (.ok [], datagrams incoming outgoing)
    else match incoming with
      | [] => (.error Errno.wouldBlock, datagrams [] outgoing)
      | frame :: later => (.ok (frame.take room), datagrams later outgoing)

/-- Writes a frame; the answer is the number of octets taken. -/
def write (frame : Bytes) : Device → Except Errno Nat × Device
  | null => (.ok frame.length, null)
  | nullReadOnly => (.error Errno.badDescriptor, nullReadOnly)
  | nullWriteOnly => (.ok frame.length, nullWriteOnly)
  | datagrams incoming outgoing => (.ok frame.length, datagrams incoming (outgoing ++ [frame]))

/-- Puts a frame where it can be read. -/
def inject (frame : Bytes) : Device → Device
  | datagrams incoming outgoing => datagrams (incoming ++ [frame]) outgoing
  | device => device

/-- Takes the frames that were written. -/
def collect : Device → List Bytes × Device
  | datagrams incoming outgoing => (outgoing, datagrams incoming [])
  | device => ([], device)

end Device

end Tunnel
