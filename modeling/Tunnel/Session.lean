import Tunnel.Config.Basic
import Tunnel.Frame
import Tunnel.Interface.Allocator
import Tunnel.Route.Installer

/-!
# Sessions

A session holds one interface and the routes into it, for as long as it lasts. Opening one makes the
interface and installs the enabled routes in order. If a route fails, the interface is taken away
before the failure is reported; if the platform cannot install routes, the session goes on without
them. Every end of a session takes its interface away, once.

## Main definitions

* `Session` — a session
* `Session.openWith` — making the interface and installing the routes
* `Session.close`, `Session.drop` — the two ends: with an answer, and without
* `Session.interface` — the interface, which frames pass through

## Main results

* `Session.drop_released` — a session that gave its interface up has none to destroy
-/

namespace Tunnel

/-- A session. -/
structure Session where
  /-- The name that the interface was given. -/
  name : String
  /-- The interface, until it is taken away. -/
  held : Option Interface
  installer : RouteInstaller
deriving DecidableEq, Repr

namespace Session

variable {σ : Type}

/-- The interface of the session. -/
def interface (session : Session) : Except Error Interface :=
  match session.held with
  | some interface => .ok interface
  | none => .error (.preconditionViolation ("session on " ++ session.name ++ " is closed"))

/-- The layout of the frames that pass through a session. -/
def codec : FrameCodec := FrameCodec.native

/-- The session without its interface. -/
def released (session : Session) : Session := { session with held := none }

/-- Takes the interface away, if the session still holds one. A failure is stated, and no more. -/
def teardown (allocator : Allocator σ) (session : Session) : Action σ Session := do
  if let some interface := session.held then
    if let .error e ← allocator.destroy interface then
      Action.tell (.destroyFailed interface.name e)
  return session.released

/-- Ends the session without an answer. -/
def drop (allocator : Allocator σ) (session : Session) : Action σ Unit := do
  let _ ← session.teardown allocator

/-- Ends the session and answers whether its interface could be taken away. -/
def close (allocator : Allocator σ) (session : Session) : Action σ (Except Error Unit) := do
  let result ← match session.held with
    | some interface => allocator.destroy interface
    | none => pure (.ok ())
  session.released.drop allocator
  return result

/-- Installs the routes whose family is enabled, up to the first failure. A platform without routes
is no failure: the remaining routes are left out. Any other failure ends the session. -/
def installRoutes (allocator : Allocator σ) (backend : RouteBackend σ) (config : Config) :
    List RoutePrefix → Session → Action σ (Except Error Session)
  | [], session => return .ok session
  | route :: later, session =>
    if config.familyEnabled route.family then do
      let (result, installer) ← session.installer.add backend session.name route
      let session := { session with installer := installer }
      match result with
      | .ok () => installRoutes allocator backend config later session
      | .error (.notSupported what) =>
        Action.tell (.notInstalling what)
        return .ok session
      | .error e =>
        let session ← session.teardown allocator
        session.drop allocator
        return .error e
    else do
      Action.tell (.skippingRoute route.toText route.family)
      installRoutes allocator backend config later session

/-- Opens a session: makes the interface, then installs the enabled routes. -/
def openWith (allocator : Allocator σ) (backend : RouteBackend σ) (installer : RouteInstaller)
    (config : Config) : Action σ (Except Error Session) := do
  match ← allocator.create config.interface with
  | .error e => return .error e
  | .ok interface =>
    let session : Session := ⟨interface.name, some interface, installer⟩
    match ← installRoutes allocator backend config config.routes session with
    | .error e => return .error e
    | .ok session =>
      Action.tell (.sessionOpen session.name)
      return .ok session

theorem drop_released (allocator : Allocator σ) (session : Session) (world : σ) :
    (session.released.drop allocator).run world = ⟨(), [], world⟩ := rfl

end Session

end Tunnel
