import Tunnel.Program.Run
import Tunnel.Proofs.Kernel.Stating
import Tunnel.Proofs.Session.Unrouted

/-!
# The course of the program

What the program does from its start to its end where interfaces are cloned from a device and routes
are not supported, for any text in its configuration file and any kernel. It ends in one of four
ways: there is no configuration to go by, and nothing was asked of the kernel; or no interface was
made, and that is the failure reported; or an interface was made, held until the interrupt and given
up, and all went well; or the wait for the interrupt failed, and the interface was given up all the
same. Everything that was opened on the way is closed.

## Main definitions

* `Program.transcript`, `Program.exchanges` — what is stated and exchanged with an interface
* `Program.Opened`, `Program.Unopened` — a session was opened, or not
* `Program.Course` — the four courses of the program

## Main results

* `Program.filter_openingNotices` — the warnings of an opening are those about the routes
* `Program.run_takes_course` — the program takes one of the four courses
-/

namespace Tunnel

variable {σ κ : Type}

/-! ### From a configuration to the end -/

namespace Program

open Transaction (heldBy)

variable {allocator : Allocator σ} {backend : RouteBackend σ} {asked : σ → σ}
  {wait : Action σ (Except SystemError Unit)} {interrupt : Except SystemError Unit} {path : String}
  {text : Except SystemError String} {config : Config} {interface : Interface} {world next last : σ}
  {stated : List Notice}

/-- What is stated while a session is opened. -/
def openingNotices (config : Config) (interface : Interface) : List Notice :=
  [.created .cloneDevice interface.name, .isUp .cloneDevice interface.name] ++
    (config.routeWarnings ++ [.sessionOpen interface.name])

/-- What is stated from the start to the end. Only an interrupt that came is answered. -/
def transcript (interrupt : Except SystemError Unit) (path : String) (config : Config)
    (interface : Interface) : List Notice :=
  .loadingConfiguration path :: (openingNotices config interface ++
    (.running interface.name config.enabledRoutes.length ::
      ((match interrupt with
        | .ok () => [.shuttingDown interface.name]
        | .error _ => []) ++ [.closingDevice interface.name])))

/-- What the program comes to once a session is open: what the wait for the interrupt came to. -/
def verdict (interrupt : Except SystemError Unit) : Except Report Unit :=
  interrupt.mapError fun fault => ⟨["Failed to wait for Ctrl-C"], .system fault⟩

theorem run_loaded (hload : Config.ofFile path text = .ok config) (world : σ) :
    (run allocator backend wait path text).run world =
      ⟨((hold allocator backend wait config).run world).answer,
        .loadingConfiguration path :: ((hold allocator backend wait config).run world).notices,
        ((hold allocator backend wait config).run world).world⟩ := by
  rw [run, hload]
  rfl

/-- Without an interface the program ends with the failure to make one. -/
theorem run_unopened {e : Error} (hload : Config.ofFile path text = .ok config)
    (hfailed : (allocator.create config.interface).run world = ⟨.error e, stated, next⟩) :
    (run allocator backend wait path text).run world =
      ⟨.error (.ofCause (.failure e)), .loadingConfiguration path :: (stated ++ [.openFailed e]),
        next⟩ := by
  rw [run_loaded hload, hold, Action.run_bind, Session.run_openWith_failed .fresh hfailed]
  rfl

/-- With an interface it ends as the wait does, if the interface can be given up. -/
theorem run_closed (hlacks : backend.Lacks asked) (hload : Config.ofFile path text = .ok config)
    (hmade : (allocator.create config.interface).run world =
      ⟨.ok interface, [.created .cloneDevice interface.name, .isUp .cloneDevice interface.name],
        next⟩)
    (hended : (allocator.destroy interface).run
      (if config.enabledRoutes = [] then next else asked next) =
        ⟨.ok (), [.closingDevice interface.name], last⟩) :
    (run allocator backend (pure interrupt) path text).run world =
      ⟨verdict interrupt, transcript interrupt path config interface, last⟩ := by
  rw [run_loaded hload, hold, Action.run_bind, Session.run_openWith_lacking hlacks .fresh hmade]
  cases interrupt with
  | ok _ =>
    simp [finish, Session.close, Session.drop, Session.teardown, Session.released, hended,
      transcript, openingNotices, verdict, Except.mapError]
  | error fault =>
    simp [Session.drop, Session.teardown, Session.released, hended, transcript, openingNotices,
      verdict, Except.mapError, Report.ofCause, Report.within]

/-! ### The four courses -/

/-- What passes between the program and its services: an interface is made, support for routes is
asked for where there is an enabled one, and the interface is taken away. -/
def exchanges (config : Config) (interface : Interface) : List Exchange :=
  .create config.interface (.ok interface) ::
    ((if config.enabledRoutes = [] then [] else [.support false]) ++ [.destroy interface (.ok ())])

/-- What is stated while a session is opened is no warning, but for what is said about the routes.
-/
theorem filter_openingNotices (config : Config) (interface : Interface) :
    (openingNotices config interface).filter (fun notice => notice.level = .warn) =
      config.routeWarnings := by
  have hroutes : config.routeWarnings.filter (fun notice => notice.level = .warn) =
      config.routeWarnings := by
    refine List.filter_eq_self.2 fun notice hmem => ?_
    exact decide_eq_true (Config.level_of_mem_routeWarnings hmem)
  rw [openingNotices, List.filter_append, List.filter_append, hroutes]
  exact List.append_nil _

/-- A session was opened: the interface was made, no number was given out, and the warnings are
those about the routes. -/
structure Opened (kernel : Kernel κ) (m : Machine κ) (config : Config) (interface : Interface) :
    Prop where
  created : ((CloneDevice.create kernel config.interface).run m).answer = .ok interface
  opened : (Session.openWith (CloneDevice.allocator kernel) .unsupported .fresh config).run m =
    ⟨.ok ⟨interface.name, some interface, ⟨0⟩⟩, openingNotices config interface,
      ((CloneDevice.create kernel config.interface).run m).world⟩
  warnings : (openingNotices config interface).filter (fun notice => notice.level = .warn) =
    config.routeWarnings

/-- No session was opened, for want of an interface. -/
structure Unopened (kernel : Kernel κ) (m : Machine κ) (config : Config) (e : Error) : Prop where
  failed : ((CloneDevice.create kernel config.interface).run m).answer = .error e
  unopened : ((Session.openWith (CloneDevice.allocator kernel) .unsupported .fresh config).run
    m).answer = .error e

/-- The four courses of the program on a machine: its answer, what it states, what passes between it
and its services, and its system calls. They hang on the text of the configuration and on what the
wait for the interrupt comes to. -/
inductive Course (kernel : Kernel κ) (interrupt : Except SystemError Unit) (path : String)
    (text : Except SystemError String) (m : Machine κ) :
    Except Report Unit → List Notice → List Exchange → List Transaction → Prop
  /-- No configuration was loaded. Nothing was asked of the services or the kernel. -/
  | unloaded {report : Report} (hload : Config.ofFile path text = .error report) :
    Course kernel interrupt path text m
      (.error (report.within ("Failed to load configuration from: " ++ path)))
      [.loadingConfiguration path] [] []
  /-- No interface could be made. -/
  | unopened {config : Config} {e : Error} {stated : List Notice} {log : List Transaction}
    (hload : config.IsIn text) (hunopened : Unopened kernel m config e)
    (hstated : CloneDevice.Stated Interface.name stated (.error e)) :
    Course kernel interrupt path text m (.error (.ofCause (.failure e)))
      (.loadingConfiguration path :: (stated ++ [.openFailed e]))
      [.create config.interface (.error e)] log
  /-- An interface was made. The interrupt came, and the device was closed. -/
  | closed {config : Config} {interface : Interface} {log : List Transaction}
    (hinterrupt : interrupt = .ok ()) (hload : config.IsIn text)
    (hopened : Opened kernel m config interface)
    (hmade : Machine.Did kernel m log ((CloneDevice.create kernel config.interface).run m).world) :
    Course kernel interrupt path text m (.ok ())
      (.loadingConfiguration path :: (openingNotices config interface ++
        [.running interface.name config.enabledRoutes.length, .shuttingDown interface.name,
          .closingDevice interface.name]))
      (exchanges config interface) (log ++ [.close interface.descriptor .device])
  /-- An interface was made. The wait for the interrupt failed, and the device was closed. -/
  | abandoned {config : Config} {interface : Interface} {log : List Transaction}
    {fault : SystemError} (hinterrupt : interrupt = .error fault) (hload : config.IsIn text)
    (hopened : Opened kernel m config interface)
    (hmade : Machine.Did kernel m log ((CloneDevice.create kernel config.interface).run m).world) :
    Course kernel interrupt path text m
      (.error ⟨["Failed to wait for Ctrl-C"], .system fault⟩)
      (.loadingConfiguration path :: (openingNotices config interface ++
        [.running interface.name config.enabledRoutes.length, .closingDevice interface.name]))
      (exchanges config interface) (log ++ [.close interface.descriptor .device])

section Courses

variable {kernel : Kernel κ} {m made : Machine κ} {state : κ} {requested : Option String}
  {result : Except Error Interface}

theorem stated_of_create
    (hcreate : (CloneDevice.create kernel requested).run m = ⟨result, stated, made⟩) :
    CloneDevice.Stated Interface.name stated result := by
  have hstated := CloneDevice.states_create kernel requested m
  rwa [hcreate] at hstated

theorem opened_of_create
    (hcreate : (CloneDevice.create kernel config.interface).run m = ⟨.ok interface, stated, made⟩) :
    Opened kernel m config interface where
  created := by rw [hcreate]
  opened := by
    cases stated_of_create hcreate
    rw [Session.run_openWith_lacking RouteBackend.lacks_unsupported .fresh hcreate, hcreate, id,
      ite_self]
    rfl
  warnings := filter_openingNotices config interface

theorem unopened_of_create {e : Error}
    (hcreate : (CloneDevice.create kernel config.interface).run m = ⟨.error e, stated, made⟩) :
    Unopened kernel m config e where
  failed := by rw [hcreate]
  unopened := congrArg Outcome.answer (Session.run_openWith_failed .fresh hcreate)

/-- On a machine that has just been started, what is open after an attempt to make an interface is
the device of the interface, if there is one. -/
theorem did_create
    (hcreate : (CloneDevice.create kernel requested).run (.start state) = ⟨result, stated, made⟩) :
    ∃ log, Machine.Did kernel (.start state) log made ∧
      made.opened = heldBy (fun interface => [interface.entry]) result := by
  have hbounded : DescriptorTable.empty.Bounded := DescriptorTable.Balanced.start.lt_next
  obtain ⟨log, hdid, hmaking⟩ := CloneDevice.traces_create requested (.start state) rfl
  rw [hcreate] at hdid hmaking
  refine ⟨log, hdid, ?_⟩
  have htable : made.table = DescriptorTable.empty.afterAll log := hdid.table
  have hopened : made.opened = _ ++ DescriptorTable.empty.opened :=
    (congrArg DescriptorTable.opened htable).trans (hmaking.opens hbounded).opened_eq
  rw [hopened]
  exact List.append_nil _

/-- Giving an interface up closes its device, and cannot fail. -/
theorem did_destroy (kernel : Kernel κ) (hopened : made.opened = [interface.entry]) :
    ∃ last, (CloneDevice.destroy kernel interface).run made =
        ⟨.ok (), [.closingDevice interface.name], last⟩ ∧
      Machine.Did kernel made [.close interface.descriptor .device] last ∧ last.opened = [] := by
  have hopen : made.table.kindOf? interface.descriptor = some .device := by
    show made.opened.lookup interface.descriptor = some .device
    rw [hopened]
    exact List.lookup_cons_self
  have htraces : Machine.Traces kernel made.table (CloneDevice.destroy kernel interface) _ :=
    CloneDevice.traces_destroy hopen
  obtain ⟨_, hdid, rfl, -⟩ := htraces made rfl
  have hlast := congrArg DescriptorTable.opened hdid.table
  refine ⟨_, rfl, hdid, hlast.trans ?_⟩
  show made.opened.filter (fun entry => entry.1 != interface.descriptor) = []
  rw [hopened]
  simp [Interface.entry]

/-- A session is opened exactly if an interface is made, whatever the configuration says of families
and routes. -/
theorem opens_iff (kernel : Kernel κ) (config : Config) (m : Machine κ) :
    (∃ session, ((Session.openWith (CloneDevice.allocator kernel) .unsupported .fresh config).run
        m).answer = .ok session) ↔
      ∃ interface, ((CloneDevice.create kernel config.interface).run m).answer = .ok interface := by
  obtain ⟨result, stated, made, hcreate⟩ : ∃ result stated made,
      (CloneDevice.create kernel config.interface).run m = ⟨result, stated, made⟩ := ⟨_, _, _, rfl⟩
  cases result with
  | error e =>
    rw [(unopened_of_create hcreate).unopened, hcreate]
    exact ⟨nofun, nofun⟩
  | ok interface =>
    rw [(opened_of_create hcreate).opened, hcreate]
    exact ⟨fun _ => ⟨_, rfl⟩, fun _ => ⟨_, rfl⟩⟩

/-- What the program left behind is the end of one of the four courses, and nothing is open. -/
def TakesCourse (kernel : Kernel κ) (interrupt : Except SystemError Unit) (path : String)
    (text : Except SystemError String) (state : κ)
    (ran : Outcome (Machine κ) (Except Report Unit)) : Prop :=
  ∃ journal log,
    (run (CloneDevice.allocator kernel).journaled RouteBackend.unsupported.journaled
      (pure interrupt) path text).run (.ofWorld (.start state)) =
        ⟨ran.answer, ran.notices, ⟨ran.world, journal⟩⟩ ∧
    Machine.Did kernel (.start state) log ran.world ∧ ran.world.opened = [] ∧
    Course kernel interrupt path text (.start state) ran.answer ran.notices journal log

theorem takesCourse_unopened {e : Error} (hload : Config.ofFile path text = .ok config)
    (hcreate : (CloneDevice.create kernel config.interface).run (.start state) =
      ⟨.error e, stated, made⟩) :
    TakesCourse kernel interrupt path text state
      ((run (CloneDevice.allocator kernel) .unsupported (pure interrupt) path text).run
        (.start state)) := by
  obtain ⟨log, hdid, hnothing⟩ := did_create hcreate
  have hplain : ((CloneDevice.allocator kernel).create config.interface).run (.start state) =
      ⟨.error e, stated, made⟩ := hcreate
  rw [run_unopened hload hplain]
  refine ⟨_, log, run_unopened hload (Allocator.run_create_journaled (.ofWorld _) hplain), hdid,
    hnothing, ?_⟩
  exact .unopened (Config.ofFile_eq_ok_iff.1 hload) (unopened_of_create hcreate)
    (stated_of_create hcreate)

theorem takesCourse_closed (hload : Config.ofFile path text = .ok config)
    (hcreate : (CloneDevice.create kernel config.interface).run (.start state) =
      ⟨.ok interface, stated, made⟩) :
    TakesCourse kernel interrupt path text state
      ((run (CloneDevice.allocator kernel) .unsupported (pure interrupt) path text).run
        (.start state)) := by
  obtain ⟨log, hdid, hopened⟩ := did_create hcreate
  obtain ⟨last, hdestroy, hclosed, hnothing⟩ := did_destroy kernel hopened
  have hopening := opened_of_create hcreate
  cases stated_of_create hcreate
  have hplain : (run (CloneDevice.allocator kernel) .unsupported (pure interrupt) path text).run
      (.start state) = ⟨verdict interrupt, transcript interrupt path config interface, last⟩ := by
    refine run_closed RouteBackend.lacks_unsupported hload hcreate ?_
    rw [id, ite_self]
    exact hdestroy
  have hbeside : (run (CloneDevice.allocator kernel).journaled
      RouteBackend.unsupported.journaled (pure interrupt) path text).run (.ofWorld (.start state)) =
        ⟨verdict interrupt, transcript interrupt path config interface,
          ⟨last, exchanges config interface⟩⟩ := by
    have hmade : ((CloneDevice.allocator kernel).journaled.create config.interface).run
        (.ofWorld (.start state)) = ⟨.ok interface, _, _⟩ :=
      (Allocator.run_create_journaled (.ofWorld _) hcreate).trans rfl
    refine run_closed RouteBackend.lacks_unsupported.journaled hload hmade ?_
    -- the question for support is noted only where there is an enabled route
    rw [exchanges]
    split
    · exact (Allocator.run_destroy_journaled ⟨made, _⟩ hdestroy).trans rfl
    · exact (Allocator.run_destroy_journaled ⟨made, _⟩ hdestroy).trans rfl
  rw [hplain]
  have hmade : Machine.Did kernel (.start state) log
      ((CloneDevice.create kernel config.interface).run (.start state)).world := by
    rw [hcreate]
    exact hdid
  refine ⟨_, _, hbeside, hdid.append hclosed, hnothing, ?_⟩
  have hloaded := Config.ofFile_eq_ok_iff.1 hload
  cases interrupt with
  | ok _ => exact .closed rfl hloaded hopening hmade
  | error fault => exact .abandoned rfl hloaded hopening hmade

/-- **The program takes one of the four courses**, whatever its file holds, whatever the kernel
answers and whatever the wait for the interrupt comes to; and a session is opened exactly if an
interface is made. -/
theorem run_takes_course (kernel : Kernel κ) (interrupt : Except SystemError Unit) (path : String)
    (text : Except SystemError String) (state : κ) :
    TakesCourse kernel interrupt path text state
        ((run (CloneDevice.allocator kernel) .unsupported (pure interrupt) path text).run
          (.start state)) ∧
      ∀ config m,
        (∃ session,
          ((Session.openWith (CloneDevice.allocator kernel) .unsupported .fresh config).run
            m).answer = .ok session) ↔
          ∃ interface, ((CloneDevice.create kernel config.interface).run m).answer =
            .ok interface := by
  refine ⟨?_, opens_iff kernel⟩
  cases hload : Config.ofFile path text with
  | error report =>
    rw [run_unloaded _ _ _ hload]
    exact ⟨[], [], run_unloaded _ _ _ hload _, .nothing kernel _, rfl, .unloaded hload⟩
  | ok config =>
    obtain ⟨result, stated, made, hcreate⟩ : ∃ result stated made,
        (CloneDevice.create kernel config.interface).run (.start state) =
          ⟨result, stated, made⟩ := ⟨_, _, _, rfl⟩
    cases result with
    | error e => exact takesCourse_unopened hload hcreate
    | ok interface => exact takesCourse_closed hload hcreate

end Courses

end Program

end Tunnel
