import Tunnel.Config.File
import Tunnel.Program.CommandLine
import Tunnel.Program.LogFilter
import Tunnel.Session

/-!
# The program

The program loads a configuration, opens a session by it, waits for an interrupt and closes the
session. A configuration that cannot be loaded and a session that cannot be opened end it with a
report, and so does a wait that fails, after the session was given up. An interface that is left
behind at the end is stated, unless the failure is a grave one.

## Main definitions

* `Program.run` — what the program does
* `Program.Environment` — what it is given from outside
* `Program.Result` — what it leaves behind
* `Program.invoke` — the program from its arguments to its result

## Main results

* `Program.run_unloaded` — without a configuration the world is left alone
-/

namespace Tunnel.Program

variable {σ : Type}

/-- Ends a session after the interrupt. -/
def finish (allocator : Allocator σ) (session : Session) : Action σ (Except Report Unit) := do
  Action.tell (.shuttingDown session.name)
  match ← session.close allocator with
  | .ok () => return .ok ()
  | .error e =>
    if e.isFatal then return .error (.ofCause (.failure e))
    else
      Action.tell (.teardownIncomplete e)
      return .ok ()

/-- Holds a session for a configuration until the interrupt, for which `wait` waits. If that fails
the session is dropped. -/
def hold (allocator : Allocator σ) (backend : RouteBackend σ)
    (wait : Action σ (Except SystemError Unit)) (config : Config) :
    Action σ (Except Report Unit) := do
  match ← Session.openWith allocator backend .fresh config with
  | .error e =>
    Action.tell (.openFailed e)
    return .error (.ofCause (.failure e))
  | .ok session =>
    Action.tell (.running session.name config.enabledRoutes.length)
    match ← wait with
    | .error fault =>
      session.drop allocator
      return .error ((Report.ofCause (.system fault)).within "Failed to wait for Ctrl-C")
    | .ok () => finish allocator session

/-- Runs the program on the configuration at `path`, given the text there or why there is none. -/
def run (allocator : Allocator σ) (backend : RouteBackend σ)
    (wait : Action σ (Except SystemError Unit)) (path : String)
    (text : Except SystemError String) : Action σ (Except Report Unit) := do
  Action.tell (.loadingConfiguration path)
  match Config.ofFile path text with
  | .error report => return .error (report.within ("Failed to load configuration from: " ++ path))
  | .ok config => hold allocator backend wait config

theorem run_unloaded (allocator : Allocator σ) (backend : RouteBackend σ)
    (wait : Action σ (Except SystemError Unit)) {path : String}
    {text : Except SystemError String} {report : Report}
    (h : Config.ofFile path text = .error report) (world : σ) :
    (run allocator backend wait path text).run world =
      ⟨.error (report.within ("Failed to load configuration from: " ++ path)),
        [.loadingConfiguration path], world⟩ := by
  simp [run, h]

/-! ### From arguments to a result -/

/-- What the program is given from outside. -/
structure Environment where
  /-- The filter of notices, where the environment names one. -/
  logFilter : Option String
  /-- The level of notices, where the environment names one. -/
  logLevel : Option String
  /-- The text at a path, or why there is none. -/
  readText : String → Except SystemError String

/-- What the program leaves behind. -/
structure Result where
  exitCode : Nat
  output : String
  complaint : String
deriving DecidableEq, Repr

/-- The answer to the question for the version. -/
def versionText : String := "tunif 0.1.0\n"

/-- How the program is called. -/
def usageText : String := "Usage: tunif [OPTIONS]\n"

/-- The answer to the question for help. -/
def helpText : String :=
  "Create a tun interface and route prefixes into it\n\n" ++ usageText ++ "\nOptions:\n" ++
    "  -c, --config <CONFIG>  Configuration file path [default: " ++ CommandLine.standardConfig ++
    "]\n" ++
    "  -v, --verbose          Enable verbose logging\n" ++
    "  -h, --help             Print help\n" ++
    "  -V, --version          Print version\n"

/-- The result of a run, with the notices that are shown. -/
def Result.ofRun (filter : LogFilter) (notices : List Notice) : Except Report Unit → Result
  | .ok () => ⟨0, filter.transcript notices, ""⟩
  | .error report => ⟨1, filter.transcript notices, report.render⟩

/-- The program from its arguments to its result. -/
def invoke (environment : Environment) (allocator : Allocator σ) (backend : RouteBackend σ)
    (wait : Action σ (Except SystemError Unit)) (args : List String) (world : σ) : Result × σ :=
  match CommandLine.parse args with
  | .help => (⟨0, helpText, ""⟩, world)
  | .version => (⟨0, versionText, ""⟩, world)
  | .misuse => (⟨2, "", usageText⟩, world)
  | .run path verbose =>
    let filter := LogFilter.choose environment.logFilter environment.logLevel verbose
    let outcome := (run allocator backend wait path (environment.readText path)).run world
    (.ofRun filter outcome.notices outcome.answer, outcome.world)

end Tunnel.Program
