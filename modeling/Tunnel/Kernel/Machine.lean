import Tunnel.Interface.Allocator
import Tunnel.Kernel.Request

/-!
# A machine

A kernel answers system calls, in any way it likes. A machine is a kernel together with the
descriptors that are open on it and a record of all the calls that were made. Every descriptor has a
number of its own, which is never used again.

## Main definitions

* `Kernel` — how system calls are answered
* `SystemCall` — a call as it is recorded
* `Machine` — a kernel's state, the open descriptors and the calls so far
* `Machine.openSocket`, `Machine.openDevice`, `Machine.control`, `Machine.close`,
  `Machine.interfaceExists` — the calls

## Main results

* `Machine.run_close` — closing an open descriptor takes it off the list and is recorded
* `Machine.run_control` — a control request changes no descriptor
-/

namespace Tunnel

/-- What a descriptor is open on. -/
inductive DescriptorKind
  /-- A socket for control requests. -/
  | control
  /-- A device that carries frames. -/
  | device
deriving DecidableEq, Repr

/-- How a kernel answers system calls. Each answer may change the state of the kernel. -/
structure Kernel (κ : Type) where
  /-- Whether there is an interface of this name. -/
  interfaceExists : String → κ → Bool × κ
  /-- Opens a socket for control requests. -/
  openSocket : κ → Except Errno Unit × κ
  /-- Opens a device by its path. -/
  openDevice : String → κ → Except Errno Unit × κ
  /-- Answers a control request on a descriptor. The answer is the record as the kernel leaves it;
  it has no meaning where the request carries none. -/
  control : Descriptor → ControlRequest → κ → Except Errno InterfaceRecord × κ
  /-- Takes note that a descriptor was closed. -/
  closed : Descriptor → κ → κ

/-- A system call with its outcome. -/
inductive SystemCall
  | interfaceExists (name : String) (found : Bool)
  | openSocket (failure : Option Errno)
  | openDevice (path : String) (failure : Option Errno)
  | control (descriptor : Descriptor) (kind : DescriptorKind) (request : ControlRequest)
    (failure : Option Errno)
  | close (descriptor : Descriptor) (kind : DescriptorKind)
deriving DecidableEq

/-- A kernel's state, the descriptors that are open, and the calls so far. -/
structure Machine (κ : Type) where
  kernel : κ
  /-- The open descriptors, the latest first. -/
  opened : List (Descriptor × DescriptorKind)
  /-- The number of the next descriptor. -/
  next : Descriptor
  /-- The calls so far, the first call first. -/
  calls : List SystemCall

/-- The error number of an answer that is a failure. -/
def failureOf {α : Type} : Except Errno α → Option Errno
  | .ok _ => none
  | .error code => some code

namespace Machine

variable {κ : Type}

/-- A machine that has just been started. -/
def start (kernel : κ) : Machine κ := ⟨kernel, [], 0, []⟩

/-- What a descriptor is open on, if it is open. -/
def kindOf? (m : Machine κ) (descriptor : Descriptor) : Option DescriptorKind :=
  m.opened.lookup descriptor

/-- The machine with one more call on record. -/
def record (m : Machine κ) (call : SystemCall) : Machine κ := { m with calls := m.calls ++ [call] }

/-- The machine with one more open descriptor. -/
def withOpened (m : Machine κ) (kind : DescriptorKind) : Machine κ :=
  { m with opened := (m.next, kind) :: m.opened, next := m.next + 1 }

/-- Asks whether there is an interface of this name. -/
def interfaceExists (kernel : Kernel κ) (name : String) : Action (Machine κ) Bool :=
  Action.state fun m =>
    let (found, after) := kernel.interfaceExists name m.kernel
    (found, { m with kernel := after }.record (.interfaceExists name found))

/-- The answer to an attempt to open something, and the machine after it. -/
def afterOpen (m : Machine κ) (kind : DescriptorKind) (result : Except Errno Unit) :
    Except Errno Descriptor × Machine κ :=
  match result with
  | .error code => (.error code, m)
  | .ok () => (.ok m.next, m.withOpened kind)

/-- Opens a socket for control requests. -/
def openSocket (kernel : Kernel κ) : Action (Machine κ) (Except Errno Descriptor) :=
  Action.state fun m =>
    let (result, after) := kernel.openSocket m.kernel
    ({ m with kernel := after }.record (.openSocket (failureOf result))).afterOpen .control result

/-- Opens a device. -/
def openDevice (kernel : Kernel κ) (path : String) :
    Action (Machine κ) (Except Errno Descriptor) :=
  Action.state fun m =>
    let (result, after) := kernel.openDevice path m.kernel
    ({ m with kernel := after }.record (.openDevice path (failureOf result))).afterOpen .device
      result

/-- Makes a control request. On a descriptor that is not open it fails and never reaches the kernel.
-/
def control (kernel : Kernel κ) (descriptor : Descriptor) (request : ControlRequest) :
    Action (Machine κ) (Except Errno InterfaceRecord) :=
  Action.state fun m =>
    match m.kindOf? descriptor with
    | none => (.error Errno.badDescriptor, m)
    | some kind =>
      let (result, after) := kernel.control descriptor request m.kernel
      (result,
        { m with kernel := after }.record (.control descriptor kind request (failureOf result)))

/-- Closes a descriptor. Closing one that is not open does nothing. -/
def close (kernel : Kernel κ) (descriptor : Descriptor) : Action (Machine κ) Unit :=
  Action.state fun m =>
    match m.kindOf? descriptor with
    | none => ((), m)
    | some kind =>
      ((), {
        m with
        kernel := kernel.closed descriptor m.kernel
        opened := m.opened.filter fun entry => entry.1 != descriptor }.record
          (.close descriptor kind))

theorem run_control {kernel : Kernel κ} {descriptor : Descriptor} {request : ControlRequest}
    (m : Machine κ) :
    ((control kernel descriptor request).run m).world.opened = m.opened := by
  simp only [control, Action.run_state]
  split <;> rfl

theorem run_close {kernel : Kernel κ} {descriptor : Descriptor} {kind : DescriptorKind}
    {m : Machine κ} (h : m.kindOf? descriptor = some kind) :
    (close kernel descriptor).run m = ⟨(), [], {
      kernel := kernel.closed descriptor m.kernel
      opened := m.opened.filter fun entry => entry.1 != descriptor
      next := m.next
      calls := m.calls ++ [.close descriptor kind] }⟩ := by
  simp [close, h, record]

end Machine

end Tunnel
