import Tunnel.Recording

/-!
# A scripted routing world

A link table and a routing socket that answer by script, so that every answer which the real ones
may give can be rehearsed: any link-layer address or none, any failure, and any count of octets.

## Main definitions

* `Scripted.Routing` — the script
* `Scripted.Routing.backend` — the services that answer by it
-/

namespace Tunnel.Scripted

/-- How a look-up of a link-layer address is answered. -/
inductive LinkAnswer
  /-- With these octets, which need not be an address. -/
  | reported (octets : Bytes)
  | failure (cause : Error)
deriving DecidableEq, Repr

/-- How a submission is answered. -/
inductive SubmitAnswer
  /-- The whole message is taken. -/
  | full
  /-- All but so many octets are taken. -/
  | short (missing : Nat)
  /-- So many octets are taken, whatever the message has. -/
  | written (count : Nat)
  | failure (cause : Error)
deriving DecidableEq, Repr

/-- A routing world that answers by script. -/
structure Routing where
  /-- Answers by the name of the interface; the name `*` stands for any other. -/
  links : List (String × LinkAnswer)
  supported : Bool
  /-- Whether the socket cannot be asked for support; it then counts as supported. -/
  alwaysSupported : Bool
  /-- Answers to submissions, in order; after the last, every message is taken whole. -/
  submissions : List SubmitAnswer
deriving DecidableEq, Repr

namespace Routing

/-- The link-layer address of an interface by the script. -/
def linkAddress (routing : Routing) (interface : String) : Except Error LinkAddress :=
  match (routing.links.lookup interface).or (routing.links.lookup "*") with
  | none => .error (.lookupFailed interface)
  | some (.failure cause) => .error cause
  | some (.reported octets) =>
    match LinkAddress.ofBytes? octets with
    | some link => .ok link
    | none => .error (.lookupFailed interface)

/-- The answer to a submission. -/
def SubmitAnswer.result (message : Bytes) : SubmitAnswer → Except Error Nat
  | .full => .ok message.length
  | .short missing => .ok (message.length - missing)
  | .written count => .ok count
  | .failure cause => .error cause

/-- Takes the next answer to a submission. -/
def submit (message : Bytes) (routing : Routing) : Except Error Nat × Routing :=
  match routing.submissions with
  | [] => (.ok message.length, routing)
  | answer :: later =>
    (SubmitAnswer.result message answer, { routing with submissions := later })

/-- The services that answer by the script. -/
def backend : RouteBackend Routing where
  linkAddress interface := Action.state fun routing => (routing.linkAddress interface, routing)
  isSupported := Action.state fun routing => (routing.alwaysSupported || routing.supported, routing)
  submit message := Action.state (submit message)

end Routing

end Tunnel.Scripted
