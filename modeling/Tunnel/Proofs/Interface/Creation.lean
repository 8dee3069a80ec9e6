import Tunnel.Proofs.Interface.Custody

/-!
# The first failure wins

Making an interface is a fixed order of system calls on either platform. They are made up to the
first that fails, and the failure of that call is the answer, whatever is done afterwards: the
descriptors that were opened are closed, and where an interface outlives its device, one that was
made is given up by a single request, of which nothing is heard in the answer.

## Main definitions

* `CloneDevice.plan`, `DeviceNode.plan` — the order of the calls on either platform
* `Platform.CleansUp` — what is done after the calls of the plan
* `Platform.Undertakes` — the calls of a plan, and the cleanup

## Main results

* `CloneDevice.traces_create_plan`, `DeviceNode.traces_create_plan` — either platform follows its
  plan
* `Platform.create_first_failure` — the calls and the answer, from any machine
-/

namespace Tunnel

variable {κ : Type} {kernel : Kernel κ} {t : DescriptorTable} {log : List Transaction}
variable {platform : Platform} {requested : Option String}

open Transaction (unclosed WithSocket WithDevice)
open Machine (Traces)

/-! ### Cleaning up -/

/-- The record that the kernel left when it made an interface. -/
def Transaction.created? (log : List Transaction) : Option InterfaceRecord :=
  log.findSome? fun
    | .control _ _ (.onInterface .create _) (.ok record) => some record
    | _ => none

namespace Platform

/-- What is done after the calls that were taken from the plan. Where an interface outlives its
device, one that was made in vain is given up by a single `SIOCIFDESTROY` under the name that the
kernel wrote back, whatever it answers; else nothing is done. -/
def CleansUp (platform : Platform) (socket : Descriptor) (taken : List Transaction)
    (result : Except Error Interface) (cleanup : List Transaction) : Prop :=
  match platform, result, Transaction.created? taken with
  | .freebsd, .error _, some record => ∃ reply,
    cleanup = [.control socket .control (DeviceNode.destruction record.name.text) reply]
  | _, _, _ => cleanup = []

/-- The calls that close nothing are those of a run of the plan, and the cleanup. -/
def Undertakes (platform : Platform) (socket : Descriptor) (plan : Plan Interface)
    (log : List Transaction) (result : Except Error Interface) : Prop :=
  ∃ taken cleanup, unclosed log = taken ++ cleanup ∧ plan.Run taken result ∧
    platform.CleansUp socket taken result cleanup

variable {socket : Descriptor} {plan : Plan Interface} {result : Except Error Interface}

/-- A socket is opened ahead of the plan, and closed behind the cleanup. -/
theorem Undertakes.withSocket {Body : List Transaction → Except Error Interface → Prop}
    (h : WithSocket socket .controlSocket Body log result)
    (hbody : ∀ log result, Body log result → platform.Undertakes socket plan log result) :
    platform.Undertakes socket (.openSocket plan) log result := by
  cases h with
  | unopened code =>
    refine ⟨_, [], rfl, .noSocket code, ?_⟩
    cases platform <;> exact rfl
  | @opened log result hlog =>
    obtain ⟨taken, cleanup, hunclosed, hrun, hcleanup⟩ := hbody _ _ hlog
    refine ⟨.openSocket (.ok ()) :: taken, cleanup, ?_, .socket hrun, hcleanup⟩
    show .openSocket (.ok ()) :: unclosed (log ++ [.close socket .control]) = _
    rw [Transaction.unclosed_append, hunclosed]
    exact congrArg _ (List.append_nil _)

/-- A name is looked up ahead of the plan, and is not taken. -/
theorem Undertakes.lookUp (h : platform.Undertakes socket plan log result) (name : String) :
    platform.Undertakes socket (.lookUp name plan) (.lookUp name false :: log) result := by
  obtain ⟨taken, cleanup, hunclosed, hrun, hcleanup⟩ := h
  exact ⟨.lookUp name false :: taken, cleanup, congrArg _ hunclosed, .free hrun, hcleanup⟩

end Platform

/-! ### Interfaces cloned from a device -/

namespace CloneDevice

/-- The calls behind the opening of a socket. -/
def planWith (socket : Descriptor) (requested : Option String) : Plan Interface :=
  .openDevice "/dev/net/tun"
    ((planOn socket (socket + 1) requested).map (interfaceOn (socket + 1)))

/-- The calls by which an interface is cloned from the device: the look-up of a requested name
(`if_nametoindex`), the opening of a socket, the opening of `/dev/net/tun`, `TUNSETIFF`,
`SIOCGIFFLAGS` and `SIOCSIFFLAGS`. -/
def plan (socket : Descriptor) : Option String → Plan Interface
  | none => .openSocket (planWith socket none)
  | some name => .lookUp name (.openSocket (planWith socket (some name)))

/-- **An interface is cloned** by the calls of the plan. -/
theorem traces_create_plan (hrequested : checkRequested requested = .ok requested) :
    Traces kernel t (create kernel requested)
      (Platform.linux.Undertakes t.next (plan t.next requested)) := by
  refine traces_createChecked hrequested ?_ fun log result h => ?_
  · rintro name rfl
    exact ⟨_, [], rfl, .taken, rfl⟩
  · have hopened : Platform.linux.Undertakes t.next (.openSocket (planWith t.next requested))
        log result := by
      refine .withSocket h fun log result h => ⟨_, [], (List.append_nil _).symm, ?_, rfl⟩
      refine Plan.Run.withDevice h fun log result h => ?_
      rw [(h.of_isControl isControl_planOn).1]
      exact h
    cases requested with
    | none => exact hopened
    | some name => exact hopened.lookUp name

end CloneDevice

/-! ### Interfaces with a device each -/

namespace DeviceNode

/-- The calls behind the opening of a socket. -/
def planWith (socket : Descriptor) (requested : Option String) : Plan Interface :=
  .control socket .control (creation requested) fun created =>
  .openDevice ("/dev/" ++ created.name.text)
    ((planOn socket (socket + 1) created.name.text).map fun _ =>
      ⟨created.name.text, socket + 1, .pointToPoint, true⟩)

/-- The calls by which an interface with its own device is made: the opening of a socket,
`SIOCIFCREATE2`, the opening of `/dev/` with the name that the kernel wrote back, `TUNSIFMODE`,
`TUNSIFHEAD`, `SIOCGIFFLAGS` and `SIOCSIFFLAGS`. -/
def plan (socket : Descriptor) (requested : Option String) : Plan Interface :=
  .openSocket (planWith socket requested)

/-- What was made is kept if all goes well. -/
theorem undertakes_kept {socket : Descriptor} {request : ControlRequest} {record : InterfaceRecord}
    {next : InterfaceRecord → Plan Interface} {interface : Interface}
    (hrun : (next record).Run (unclosed log) (.ok interface)) :
    Platform.freebsd.Undertakes socket (.control socket .control request next)
      (.control socket .control request (.ok record) :: log) (.ok interface) :=
  ⟨.control socket .control request (.ok record) :: unclosed log, [], (List.append_nil _).symm,
    .granted hrun, rfl⟩

/-- What was made in vain is given up by one request. -/
theorem undertakes_undone {socket : Descriptor} {record : InterfaceRecord}
    {next : InterfaceRecord → Plan Interface} {e : Error}
    (hrun : (next record).Run (unclosed log) (.error e)) (reply : Except Errno InterfaceRecord) :
    Platform.freebsd.Undertakes socket (.control socket .control (creation requested) next)
      (.control socket .control (creation requested) (.ok record) ::
        (log ++ [.control socket .control (destruction record.name.text) reply])) (.error e) := by
  refine ⟨.control socket .control (creation requested) (.ok record) :: unclosed log,
    [.control socket .control (destruction record.name.text) reply], ?_, .granted hrun, reply, rfl⟩
  show _ :: unclosed (log ++ _) = _
  rw [Transaction.unclosed_append]
  rfl

/-- The device of an interface is opened and set by the calls of the plan. -/
theorem Configured.run {socket : Descriptor} {name : String} {result : Except Error Descriptor}
    (h : Configured socket name log result) (f : Descriptor → Interface) :
    (Plan.openDevice (path name) ((planOn socket (socket + 1) name).map
      fun _ => f (socket + 1))).Run (unclosed log) (result.map f) := by
  have hrun := Plan.Run.withDevice h fun log result h => by
    rw [(h.of_isControl isControl_planOn).1]
    exact h
  exact hrun.map f

/-- **An interface with its own device is made** by the calls of the plan. -/
theorem traces_create_plan (hrequested : checkRequested requested = .ok requested) :
    Traces kernel t (create kernel requested)
      (Platform.freebsd.Undertakes t.next (plan t.next requested)) := by
  have hmade : Traces kernel (t.add .control) (createWith kernel t.next requested) fun log result =>
      ((t.add .control).afterAll log).kindOf? t.next = some .control ∧
      Platform.freebsd.Undertakes t.next (planWith t.next requested) log result := by
    refine traces_createWith ?_ ?_ ?_
    · exact fun code => ⟨_, [], rfl, .refused code, rfl⟩
    · exact fun record log device h =>
        undertakes_kept (h.run fun device => ⟨record.name.text, device, .pointToPoint, true⟩)
    · exact fun record log e reply h =>
        undertakes_undone
          (h.run fun device => ⟨record.name.text, device, .pointToPoint, true⟩) reply
  rw [create_eq, hrequested]
  refine (Machine.traces_withSocket hmade fun _ _ h => h.1).mono ?_
  exact fun log result h => .withSocket h fun _ _ h => h.2

end DeviceNode

/-! ### Either platform -/

namespace Platform

/-- The calls by which the platform makes an interface. -/
def plan : Platform → (socket : Descriptor) → (requested : Option String) → Plan Interface
  | linux => CloneDevice.plan
  | freebsd => DeviceNode.plan

theorem checkRequested_of_isName (h : ∀ name ∈ requested, Interface.isName name = true) :
    checkRequested requested = .ok requested := by
  cases requested with
  | none => rfl
  | some name => simp [checkRequested, Interface.validateName, h name rfl, Except.map]

/-- **The first failure wins.** From any machine, and for any name that can be requested or none,
the calls that close nothing are those of the platform's plan up to the first that fails, and the
cleanup. The answer is what the plan comes to: the failure of that call, whatever comes of the
cleanup, or the interface. -/
theorem create_first_failure (platform : Platform) (kernel : Kernel κ) (m : Machine κ)
    {requested : Option String} (h : ∀ name ∈ requested, Interface.isName name = true) :
    ∃ log taken cleanup,
      Machine.Did kernel m log (((platform.allocator kernel).create requested).run m).world ∧
      unclosed log = taken ++ cleanup ∧
      (platform.plan m.next requested).Run taken
        (((platform.allocator kernel).create requested).run m).answer ∧
      Plan.EndsAtFirstFailure taken
        (((platform.allocator kernel).create requested).run m).answer ∧
      platform.CleansUp m.next taken
        (((platform.allocator kernel).create requested).run m).answer cleanup := by
  have hchecked := checkRequested_of_isName h
  have htraces : Traces kernel m.table ((platform.allocator kernel).create requested)
      (platform.Undertakes m.next (platform.plan m.next requested)) := by
    cases platform with
    | linux => exact CloneDevice.traces_create_plan hchecked
    | freebsd => exact DeviceNode.traces_create_plan hchecked
  obtain ⟨log, hdid, taken, cleanup, hunclosed, hrun, hcleanup⟩ := htraces m rfl
  exact ⟨log, taken, cleanup, hdid, hunclosed, hrun, hrun.first_failure, hcleanup⟩

/-- The header of the device's frames is refused, and the cleanup fails as well. -/
theorem create_first_failure_scripted :
    let kernel := Kernel.followingScript (.ofName "tun0")
    let m : Machine _ := .start [none, none, none, none, some 25, some 6]
    let outcome := ((Platform.freebsd.allocator kernel).create (some "tun0")).run m
    (∀ name ∈ some "tun0", Interface.isName name = true) ∧
      outcome.answer = .error (.refused .setHead 25) ∧
      ∃ log taken cleanup, Machine.Did kernel m log outcome.world ∧
        unclosed log = taken ++ cleanup ∧
        (Platform.freebsd.plan 0 (some "tun0")).Run taken outcome.answer ∧
        Plan.EndsAtFirstFailure taken outcome.answer ∧
        Platform.freebsd.CleansUp 0 taken outcome.answer cleanup := by
  have hname : ∀ name ∈ some "tun0", Interface.isName name = true := by
    rintro _ ⟨⟩
    decide +kernel
  exact ⟨hname, rfl, create_first_failure .freebsd _ _ hname⟩

end Platform

end Tunnel
