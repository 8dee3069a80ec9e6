import Tunnel.Errno
import Tunnel.Family
import Tunnel.Text.Quoted

/-!
# What can go wrong

The failures of every operation of the library, with their wording. A failed system call keeps the
step it belongs to, so that a report can name it and so that a failed teardown can be told from a
failed setup: only the former leaves the caller with nothing to abort.

## Main definitions

* `Stage` — the step of an interface's life that a system call belongs to
* `SystemError` — why a system call failed
* `Error` — the failures
* `Error.message` — their wording
* `Error.stage`, `Error.source`, `Error.isFatal` — what a caller may ask of one

## Main results

* `Error.isFatal_eq_false_iff` — a failure is harmless exactly when it belongs to a teardown
-/

namespace Tunnel

/-- The step at which a system call failed. -/
inductive Stage
  | controlSocket
  | deviceOpen
  | create
  | setMode
  | setHead
  | up
  | destroy
  | routingSocket
deriving DecidableEq, Repr

/-- The wording of a step. -/
def Stage.text : Stage → String
  | .controlSocket => "control socket open"
  | .deviceOpen => "device open"
  | .create => "interface create ioctl"
  | .setMode => "point-to-point mode ioctl"
  | .setHead => "address family header ioctl"
  | .up => "interface up"
  | .destroy => "interface destroy ioctl"
  | .routingSocket => "routing socket open"

/-- Why a system call failed: the system's number, or a text where there is none. -/
inductive SystemError
  | number (code : Errno)
  | custom (text : String)
deriving DecidableEq, Repr

/-- The wording of a system failure. -/
def SystemError.message : SystemError → String
  | .number code => code.message
  | .custom text => text

/-- The failures of the library. -/
inductive Error
  /-- A socket or a device node could not be opened. -/
  | resourceUnavailable (stage : Stage) (source : SystemError)
  /-- The kernel refused to create, configure or destroy an interface. -/
  | creationFailed (stage : Stage) (source : SystemError)
  /-- Only IPv4 and IPv6 can be framed or routed. -/
  | unsupportedFamily (family : AddressFamily)
  /-- The interface has no link-layer address. -/
  | lookupFailed (interface : String)
  /-- The routing socket took another number of octets than the message has. -/
  | transactionIncomplete (written expected : Nat)
  /-- The caller broke a stated condition. -/
  | preconditionViolation (text : String)
  /-- The text is no interface name. -/
  | invalidName (name : String)
  /-- The text is no route prefix. -/
  | invalidPrefix (text : String)
  /-- The frame is shorter than its header. -/
  | frameTooShort (length : Nat)
  /-- The buffer is shorter than the frame. -/
  | bufferTooSmall (needed available : Nat)
  /-- The platform has no such service. -/
  | notSupported (what : String)
  /-- Input or output failed. -/
  | io (source : SystemError)
  /-- The configuration cannot be read. -/
  | config (text : String)
deriving DecidableEq, Repr

namespace Error

/-- The wording of a failure. -/
def message : Error → String
  | resourceUnavailable stage source => stage.text ++ " failed: " ++ source.message
  | creationFailed stage source => stage.text ++ " failed: " ++ source.message
  | unsupportedFamily family => "Unsupported address family: " ++ family.label
  | lookupFailed interface => "No link-layer address found for interface " ++ interface
  | transactionIncomplete written expected =>
    "Route message partially written: " ++ toString written ++ " of " ++ toString expected ++
      " bytes"
  | preconditionViolation text => "Precondition violated: " ++ text
  | invalidName name => "Invalid interface name: " ++ Text.quote name
  | invalidPrefix text => "Invalid route prefix: " ++ text
  | frameTooShort length => "Frame too short: " ++ toString length ++ " bytes"
  | bufferTooSmall needed available =>
    "Frame buffer too small: need " ++ toString needed ++ " bytes, have " ++ toString available
  | notSupported what => "Not supported on this platform: " ++ what
  | io source => "I/O error: " ++ source.message
  | config text => "Configuration error: " ++ text

/-- The step at which a system call failed, if the failure is one of a system call. -/
def stage : Error → Option Stage
  | resourceUnavailable stage _ => some stage
  | creationFailed stage _ => some stage
  | _ => none

/-- The failure of the system behind this one. -/
def source : Error → Option SystemError
  | resourceUnavailable _ source => some source
  | creationFailed _ source => some source
  | io source => some source
  | _ => none

/-- Whether the failure ends a session: every failure does, but that of a teardown. -/
def isFatal (error : Error) : Bool := error.stage != some .destroy

theorem isFatal_eq_false_iff {error : Error} :
    error.isFatal = false ↔ error.stage = some .destroy := by
  simp [isFatal]

/-- A request that the kernel refused at `stage`. -/
def refused (stage : Stage) (code : Errno) : Error := creationFailed stage (.number code)

/-- A socket or device that the kernel did not open at `stage`. -/
def unavailable (stage : Stage) (code : Errno) : Error := resourceUnavailable stage (.number code)

end Error

end Tunnel
