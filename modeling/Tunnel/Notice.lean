import Tunnel.Error
import Tunnel.Text.Digits

/-!
# Notices

What the library tells its operator on the way. A notice is a fact, with the part of the library
that states it; its level and its wording follow from it. Each part has a target, by which the
operator chooses what to see.

## Main definitions

* `Level` — how grave a notice is
* `Origin` — the part of the library that states it
* `Notice` — the facts
* `Notice.level`, `Notice.text`, `Notice.origin` — what follows from a fact
-/

namespace Tunnel

/-- How grave a notice is; the gravest comes first. -/
inductive Level
  | error
  | warn
  | info
  | debug
  | trace
deriving DecidableEq, Repr

/-- The name of a level as it stands in a log line. -/
def Level.label : Level → String
  | .error => "ERROR"
  | .warn => "WARN"
  | .info => "INFO"
  | .debug => "DEBUG"
  | .trace => "TRACE"

/-- The place of a level among the levels; the gravest has the least. -/
def Level.rank : Level → Nat
  | .error => 1
  | .warn => 2
  | .info => 3
  | .debug => 4
  | .trace => 5

/-- The part of the library that states a notice. -/
inductive Origin
  | program
  | session
  | route
  | frame
  | cloneDevice
  | deviceNode
deriving DecidableEq, Repr

/-- The target under which a part states its notices. -/
def Origin.target : Origin → String
  | .program => "tunif"
  | .session => "tunif::session"
  | .route => "tunif::route"
  | .frame => "tunif::frame"
  | .cloneDevice => "tunif::adapter::linux"
  | .deviceNode => "tunif::adapter::bsd"

/-- A fact told to the operator. -/
inductive Notice
  /-- A frame header names no known EtherType. -/
  | unknownEtherType (value : UInt16)
  /-- A frame header names no known address family. -/
  | unknownFamily (value : UInt32)
  /-- A route message is about to be submitted. -/
  | submitting (sequence : UInt32) (flags addresses : UInt32) (length : Nat)
  /-- A route is in place. -/
  | routeAdded (route interface : String)
  /-- A route is left out because its family is not enabled. -/
  | skippingRoute (route : String) (family : AddressFamily)
  /-- The remaining routes are left out because the platform cannot install any. -/
  | notInstalling (what : String)
  /-- A session is open. -/
  | sessionOpen (interface : String)
  /-- An interface could not be destroyed when its session ended. -/
  | destroyFailed (interface : String) (cause : Error)
  /-- The kernel has created an interface. -/
  | created (origin : Origin) (interface : String)
  /-- An interface is up. -/
  | isUp (origin : Origin) (interface : String)
  /-- A device is about to be closed, and its interface goes with it. -/
  | closingDevice (interface : String)
  /-- An interface was destroyed on request. -/
  | destroyed (interface : String)
  /-- An interface whose setup failed could not be destroyed. -/
  | cleanupFailed (interface : String) (cause : Error)
  /-- The configuration is about to be read. -/
  | loadingConfiguration (path : String)
  /-- The session could not be opened. -/
  | openFailed (cause : Error)
  /-- The program waits for an interrupt. -/
  | running (interface : String) (routes : Nat)
  /-- The program was interrupted. -/
  | shuttingDown (interface : String)
  /-- The interface was left behind at the end. -/
  | teardownIncomplete (cause : Error)
deriving DecidableEq, Repr

namespace Notice

/-- How grave the fact is. -/
def level : Notice → Level
  | unknownEtherType _ | unknownFamily _ | skippingRoute _ _ | notInstalling _ | destroyFailed _ _
  | cleanupFailed _ _ | teardownIncomplete _ => .warn
  | submitting _ _ _ _ | closingDevice _ => .debug
  | openFailed _ => .error
  | routeAdded _ _ | sessionOpen _ | created _ _ | isUp _ _ | destroyed _ | loadingConfiguration _
  | running _ _ | shuttingDown _ => .info

/-- The part of the library that states the fact. -/
def origin : Notice → Origin
  | unknownEtherType _ | unknownFamily _ => .frame
  | submitting _ _ _ _ | routeAdded _ _ => .route
  | skippingRoute _ _ | notInstalling _ | sessionOpen _ | destroyFailed _ _ => .session
  | created origin _ | isUp origin _ => origin
  | closingDevice _ => .cloneDevice
  | destroyed _ | cleanupFailed _ _ => .deviceNode
  | loadingConfiguration _ | openFailed _ | running _ _ | shuttingDown _ | teardownIncomplete _ =>
    .program

/-- A number in hexadecimal after `0x`, with at least `width` digits. -/
def hexText (width n : Nat) : String :=
  let digits := Text.hexDigits n
  "0x" ++ String.ofList (List.replicate (width - digits.length) '0' ++ digits)

/-- The wording of the fact. -/
def text : Notice → String
  | unknownEtherType value => "Unknown ether frame type " ++ hexText 4 value.toNat ++ " received"
  | unknownFamily value => "Unknown address family " ++ toString value.toNat ++ " received"
  | submitting sequence flags addresses length =>
    "RTM_ADD seq=" ++ toString sequence.toNat ++ " flags=" ++ hexText 1 flags.toNat ++ " addrs=" ++
      hexText 1 addresses.toNat ++ " len=" ++ toString length
  | routeAdded route interface => "Added route: " ++ route ++ " via interface " ++ interface
  | skippingRoute route family =>
    "Skipping route " ++ route ++ ": " ++ family.label ++ " is not enabled"
  | notInstalling what => "Not installing routes: " ++ what ++ " is not supported"
  | sessionOpen interface => "Session open on " ++ interface
  | destroyFailed interface cause => "Failed to destroy " ++ interface ++ ": " ++ cause.message
  | created _ interface => "Created TUN device: " ++ interface
  | isUp _ interface => "Interface " ++ interface ++ " is up"
  | closingDevice interface => "Closing TUN device: " ++ interface
  | destroyed interface => "Destroyed TUN device: " ++ interface
  | cleanupFailed interface cause =>
    "Cannot destroy " ++ interface ++ " after failed setup: " ++ cause.message
  | loadingConfiguration path => "Loading configuration from: " ++ path
  | openFailed cause => "Failed to open tunnel session: " ++ cause.message
  | running interface routes =>
    "Interface " ++ interface ++ " is up (" ++ toString routes ++
      " route(s) configured); press Ctrl-C to exit"
  | shuttingDown interface => "Shutting down " ++ interface
  | teardownIncomplete cause => "Teardown incomplete: " ++ cause.message

end Notice

end Tunnel
