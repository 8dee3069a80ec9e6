import Tunnel.Interface.Roster
import Tunnel.Main
import Tunnel.Scripted.Host
import Tunnel.Scripted.World
import Tunnel.Proofs.Route.Recovery
import Tunnel.Proofs.Route.Numbering
import Tunnel.Proofs.Session.Lifecycle
import Tunnel.Proofs.Interface.Custody
import Tunnel.Proofs.Interface.Requested
import Tunnel.Proofs.Interface.Addressing
import Tunnel.Proofs.Interface.Severity
import Tunnel.Proofs.Frame.Interchange
import Tunnel.Proofs.Frame.Retagging
import Tunnel.Proofs.Address.Recovery
import Tunnel.Proofs.Json.Writing
import Tunnel.Proofs.Route.PrefixText
import Tunnel.Proofs.Route.Guarded
import Tunnel.Proofs.Route.Sweep
import Tunnel.Proofs.Session.Refinement
import Tunnel.Proofs.Session.Acceptance
import Tunnel.Proofs.Session.Traffic
import Tunnel.Proofs.Config.RoundTrip
import Tunnel.Proofs.Program.Course
import Tunnel.Proofs.Route.Link
import Tunnel.Proofs.Route.Rounding
import Tunnel.Proofs.Config.Routes
