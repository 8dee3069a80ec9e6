import Tunnel.Kernel.DeviceNode
import Tunnel.Proofs.Kernel.Settings

/-!
# Interfaces with a device each: what they leave open

What the platform on which interfaces are made by request does with its kernel, transaction by
transaction. A socket is open meanwhile and a device is kept only if all goes well. An interface
that was made and could not be set up is taken away, by the name that the kernel gave it, after its
device was closed.

## Main definitions

* `DeviceNode.Making`, `DeviceNode.Ending` — making an interface, and taking it away
* `DeviceNode.planOn` — the calls on the device

## Main results

* `DeviceNode.accounts_createWith` — making one, call by call, for whatever is said of its calls and
  its notices
* `DeviceNode.traces_create`, `DeviceNode.traces_destroy` — the actions do that
* `DeviceNode.Making.opens` — an interface that was made holds its device, and nothing else is left
-/

namespace Tunnel.DeviceNode

open Transaction (Settings WithSocket WithDevice heldBy)
open Tunnel.Action (Silent silent_state silent_pure)

variable {κ : Type} {kernel : Kernel κ} {t : DescriptorTable} {log : List Transaction}

/-- The request by which an interface is made: `SIOCIFCREATE2` under the requested name, or else
under `tun`, to which the kernel adds a number, with zeros behind it. -/
def creation (requested : Option String) : ControlRequest :=
  .onInterface .create ⟨NameField.ofName (requested.getD "tun"), 0, .replicate 22 0⟩

/-- The request by which it is taken away: `SIOCIFDESTROY` under its name, with zeros behind it. -/
def destruction (name : String) : ControlRequest :=
  .onInterface .destroy ⟨NameField.ofName name, 0, .replicate 22 0⟩

/-- What the kernel's reply to that comes to. -/
def destroyAnswer : Except Errno InterfaceRecord → Except Error Unit
  | .ok _ => .ok ()
  | .error code => .error (.refused .destroy code)

/-- One request to take the interface away. -/
def Destroying (socket : Descriptor) (name : String) (log : List Transaction)
    (answer : Except Error Unit) : Prop :=
  ∃ reply, log = [.control socket .control (destruction name) reply] ∧
    answer = destroyAnswer reply

/-- Opening a device and setting it up. -/
abbrev Configuring (device : Descriptor) (name : String) :
    List Transaction → Except Error Descriptor → Prop :=
  WithDevice device (path name) (fun log (_ : Except Error Unit) => Settings log) fun _ => device

/-- An interface is made by way of an open socket. -/
inductive MakingBy (socket : Descriptor) (requested : Option String) :
    List Transaction → Except Error Interface → Prop
  | refused (code : Errno) :
    MakingBy socket requested [.control socket .control (creation requested) (.error code)]
      (.error (.refused .create code))
  | undone {record : InterfaceRecord} {log : List Transaction} {e : Error}
    (reply : Except Errno InterfaceRecord) :
    Configuring (socket + 1) record.name.text log (.error e) →
    MakingBy socket requested
      (.control socket .control (creation requested) (.ok record) :: log ++
        [.control socket .control (destruction record.name.text) reply])
      (.error e)
  | done {record : InterfaceRecord} {log : List Transaction} {device : Descriptor} :
    Configuring (socket + 1) record.name.text log (.ok device) →
    MakingBy socket requested
      (.control socket .control (creation requested) (.ok record) :: log)
      (.ok ⟨record.name.text, device, .pointToPoint, true⟩)

/-- An interface is made, or not. -/
inductive Making (socket : Descriptor) (requested : Option String) :
    List Transaction → Except Error Interface → Prop
  | invalid {e : Error} :
    checkRequested requested = .error e → Making socket requested [] (.error e)
  | tried {log : List Transaction} {result : Except Error Interface} :
    checkRequested requested = .ok requested →
    WithSocket socket .controlSocket (MakingBy socket requested) log result →
    Making socket requested log result

/-- An interface is taken away, or not: its device is closed, and then there is one request, if a
socket can be opened for it. -/
inductive Ending (socket : Descriptor) (interface : Interface) :
    List Transaction → Except Error Unit → Prop
  | closed {log : List Transaction} {answer : Except Error Unit} :
    WithSocket socket .destroy (Destroying socket interface.name) log answer →
    Ending socket interface (.close interface.descriptor .device :: log) answer

/-! ### Making -/

variable {requested : Option String}

/-- The calls on an open device: `TUNSIFMODE` with `IFF_POINTOPOINT`, `TUNSIFHEAD` with one, and
those that bring the interface up. -/
def planOn (socket device : Descriptor) (name : String) : Plan Unit :=
  .control device .device (.onDevice .setMode 0x10) fun _ =>
  .control device .device (.onDevice .setHead 1) fun _ =>
  .bringUp socket name ()

theorem isControl_planOn {socket device : Descriptor} {name : String} :
    (planOn socket device name).IsControl := fun _ _ _ _ => trivial

theorem isSettings_planOn {socket device : Descriptor} {name : String} :
    (planOn socket device name).IsSettings :=
  ⟨nofun, nofun, fun _ => ⟨nofun, nofun, fun _ => Plan.isSettings_bringUp⟩⟩

theorem traces_configureDevice {socket device : Descriptor}
    (hsocket : t.kindOf? socket = some .control) (hdevice : t.kindOf? device = some .device)
    (name : String) :
    Machine.Traces kernel t (configureDevice kernel socket device name)
      (planOn socket device name).Run := by
  refine Plan.traces_control hdevice (fun _ => rfl) fun _ => ?_
  refine Plan.traces_control hdevice (fun _ => rfl) fun _ => ?_
  exact Plan.traces_setUp hsocket name

theorem configure_eq (kernel : Kernel κ) (socket : Descriptor) (name : String) :
    configure kernel socket name = Machine.withDevice kernel (path name)
      (fun device => configureDevice kernel socket device name)
      (fun device _ => do
        Action.tell (.isUp .deviceNode name)
        return .ok device) := by
  refine bind_congr fun answer => ?_
  cases answer with
  | error code => rfl
  | ok device =>
    refine bind_congr fun result => ?_
    cases result <;> rfl

theorem traces_configure {socket : Descriptor} (hsocket : t.kindOf? socket = some .control)
    (hne : socket ≠ t.next) (name : String) :
    Machine.Traces kernel t (configure kernel socket name)
      (WithDevice t.next (path name) (planOn socket t.next name).Run fun _ => t.next) := by
  rw [configure_eq]
  refine Machine.traces_withDevice ?_ (fun _ _ h => (h.of_isControl isControl_planOn).2 _)
    fun _ => .tell_bind (.pure ⟨rfl, rfl⟩)
  refine traces_configureDevice ?_ (t.kindOf?_add_next .device) name
  rw [DescriptorTable.kindOf?_add_of_ne hne, hsocket]

/-- Opening the device of an interface, behind an open socket, and setting it up. -/
abbrev Configured (socket : Descriptor) (name : String) :
    List Transaction → Except Error Descriptor → Prop :=
  WithDevice (socket + 1) (path name) (planOn socket (socket + 1) name).Run fun _ => socket + 1

/-- That takes settings only. -/
theorem Configured.configuring {socket : Descriptor} {name : String}
    {result : Except Error Descriptor} (h : Configured socket name log result) :
    Configuring (socket + 1) name log result :=
  WithDevice.mono h fun _ _ h => h.settings isSettings_planOn

/-- Of what was opened, only a device that was set up is left. -/
theorem opens_configuring (hbounded : t.Bounded) {name : String}
    {result : Except Error Descriptor} (h : Configuring t.next name log result) :
    t.Opens log (heldBy (fun device => [(device, .device)]) result) :=
  h.opens hbounded (fun _ _ h => h.afterAll _) fun _ => rfl

theorem states_configure (kernel : Kernel κ) (socket : Descriptor) (name : String) :
    (configure kernel socket name).States fun notices result =>
      notices = heldBy (fun _ => [.isUp .deviceNode name]) result := by
  have hquiet (device : Descriptor) : Silent (configureDevice kernel socket device name) := by
    refine .bind (silent_state _) fun answer => ?_
    cases answer with
    | error code => exact silent_pure _
    | ok _ =>
      refine .bind (silent_state _) fun answer => ?_
      cases answer with
      | error code => exact silent_pure _
      | ok _ => exact silent_setUp kernel socket name
  refine .silent_bind (silent_state _) fun answer => ?_
  cases answer with
  | error code => exact .pure rfl
  | ok device =>
    refine .silent_bind (hquiet device) fun result => ?_
    cases result with
    | error e => exact .silent_bind (silent_state _) fun _ => .pure rfl
    | ok _ => exact .tell_bind (.pure rfl)

theorem traces_destroyByName {socket : Descriptor} (hsocket : t.kindOf? socket = some .control)
    (name : String) :
    Machine.Traces kernel t (destroyByName kernel socket name) (Destroying socket name) := by
  refine .bind (Machine.traces_control hsocket _) ?_
  rintro _ reply rfl
  cases reply with
  | error code => exact .pure ⟨_, rfl, rfl⟩
  | ok record => exact .pure ⟨_, rfl, rfl⟩

theorem silent_destroyByName (kernel : Kernel κ) (socket : Descriptor) (name : String) :
    Silent (destroyByName kernel socket name) := by
  refine .bind (silent_state _) fun answer => ?_
  cases answer <;> exact silent_pure _

/-- What is stated of the reply to a cleanup. -/
def cleanupNotices (name : String) : Except Errno InterfaceRecord → List Notice
  | .ok _ => []
  | .error code => [.cleanupFailed name (.refused .destroy code)]

/-- What the making of an interface by way of an open socket comes to, and what is stated of it: the
kernel refuses to make it, or its device is opened and set, or it is given up. Meanwhile the socket
stays open. -/
theorem accounts_createWith
    {Made : List Transaction → List Notice → Except Error Interface → Prop}
    (hrefused : ∀ code, Made [.control t.next .control (creation requested) (.error code)] []
      (.error (.refused .create code)))
    (hdone : ∀ record log device,
      Configured t.next record.name.text log (.ok device) →
      Made (.control t.next .control (creation requested) (.ok record) :: log)
        [.created .deviceNode record.name.text, .isUp .deviceNode record.name.text]
        (.ok ⟨record.name.text, device, .pointToPoint, true⟩))
    (hundone : ∀ record log e reply,
      Configured t.next record.name.text log (.error e) →
      Made (.control t.next .control (creation requested) (.ok record) :: log ++
        [.control t.next .control (destruction record.name.text) reply])
        (.created .deviceNode record.name.text :: cleanupNotices record.name.text reply)
        (.error e)) :
    Machine.Accounts kernel (t.add .control) (createWith kernel t.next requested)
      fun log notices result =>
        ((t.add .control).afterAll log).kindOf? t.next = some .control ∧
          Made log notices result := by
  have hsocket := t.kindOf?_add_next .control
  have hne : t.next ≠ (t.add .control).next := Nat.ne_of_lt (Nat.lt_succ_self _)
  refine .bind (.of_state (Machine.traces_control hsocket _)) ?_
  rintro _ _ answer ⟨rfl, rfl⟩
  cases answer with
  | error code => exact .pure ⟨hsocket, hrefused code⟩
  | ok record =>
    refine .tell_bind ?_
    refine .bind ((traces_configure hsocket hne record.name.text).accounts
      (states_configure kernel t.next record.name.text)) ?_
    rintro log _ result ⟨h, rfl⟩
    have hstill : ((t.add .control).afterAll log).kindOf? t.next = some .control := by
      rw [Plan.kindOf?_withDevice h (fun _ _ h => (h.of_isControl isControl_planOn).2 _) hne,
        hsocket]
    cases result with
    | ok device =>
      refine .pure ?_
      rw [List.append_nil]
      exact ⟨hstill, hdone record log device h⟩
    | error e =>
      refine .bind ((traces_destroyByName hstill record.name.text).silent
        (silent_destroyByName kernel t.next record.name.text)) ?_
      rintro _ _ _ ⟨⟨reply, rfl, rfl⟩, rfl⟩
      have hleft : ((t.add .control).afterAll (log ++ [.control t.next .control
          (destruction record.name.text) reply])).kindOf? t.next = some .control := by
        rw [DescriptorTable.afterAll_append]
        exact hstill
      -- a request that is refused is stated, and the answer is what it was
      cases reply with
      | error code =>
        refine .tell_bind ?_
        exact .pure ⟨hleft, hundone record log e _ h⟩
      | ok _ => exact .pure ⟨hleft, hundone record log e _ h⟩

/-- The same of the transactions alone. -/
theorem traces_createWith {Made : List Transaction → Except Error Interface → Prop}
    (hrefused : ∀ code, Made [.control t.next .control (creation requested) (.error code)]
      (.error (.refused .create code)))
    (hdone : ∀ record log device,
      Configured t.next record.name.text log (.ok device) →
      Made (.control t.next .control (creation requested) (.ok record) :: log)
        (.ok ⟨record.name.text, device, .pointToPoint, true⟩))
    (hundone : ∀ record log e reply,
      Configured t.next record.name.text log (.error e) →
      Made (.control t.next .control (creation requested) (.ok record) :: log ++
        [.control t.next .control (destruction record.name.text) reply]) (.error e)) :
    Machine.Traces kernel (t.add .control) (createWith kernel t.next requested) fun log result =>
      ((t.add .control).afterAll log).kindOf? t.next = some .control ∧ Made log result := by
  have hall : Machine.Accounts kernel (t.add .control) (createWith kernel t.next requested)
      fun log _ result =>
        ((t.add .control).afterAll log).kindOf? t.next = some .control ∧ Made log result :=
    accounts_createWith hrefused hdone hundone
  exact hall

/-- What the making of an interface leaves open, besides the socket. -/
theorem MakingBy.opens {result : Except Error Interface}
    (h : MakingBy t.next requested log result) (hbounded : t.Bounded) :
    (t.add .control).Opens log (heldBy (fun interface => [interface.entry]) result) := by
  cases h with
  | refused code => exact .nothing rfl
  | undone reply hlog =>
    exact ((opens_configuring (hbounded.add _) hlog).cons_control ..).concat_control ..
  | done hlog => exact (opens_configuring (hbounded.add _) hlog).cons_control ..

theorem create_eq (kernel : Kernel κ) (requested : Option String) :
    create kernel requested = match checkRequested requested with
      | .error e => pure (.error e)
      | .ok checked => Machine.withSocket kernel .controlSocket fun socket =>
        createWith kernel socket checked := rfl

/-- **Making an interface** that has a device of its own. -/
theorem traces_create (requested : Option String) :
    Machine.Traces kernel t (create kernel requested) (Making t.next requested) := by
  rw [create_eq]
  cases hcheck : checkRequested requested with
  | error e => exact .pure (.invalid hcheck)
  | ok checked =>
    obtain rfl : checked = requested := checkRequested_eq_ok hcheck
    have hmade : Machine.Traces kernel (t.add .control) (createWith kernel t.next checked)
        fun log result => ((t.add .control).afterAll log).kindOf? t.next = some .control ∧
          MakingBy t.next checked log result := by
      refine traces_createWith .refused ?_ ?_
      · exact fun record log device h => .done h.configuring
      · exact fun record log e reply h => .undone reply h.configuring
    refine (Machine.traces_withSocket hmade fun _ _ h => h.1).mono ?_
    exact fun log result h => .tried hcheck (h.mono fun _ _ h => h.2)

/-- Of what was opened, an interface that was made holds its device, and nothing else is left. -/
theorem Making.opens {result : Except Error Interface}
    (h : Making t.next requested log result) (hbounded : t.Bounded) :
    t.Opens log (heldBy (fun interface => [interface.entry]) result) := by
  cases h with
  | invalid _ => exact .nothing rfl
  | tried _ htried => exact htried.opens hbounded fun _ _ h => h.opens hbounded

/-! ### Taking away -/

/-- Taking an interface away, whatever its descriptor is open on: the descriptor is closed, and then
there is one request, if a socket can be opened for it. -/
theorem traces_destroy_closing (interface : Interface) :
    Machine.Traces kernel t (destroy kernel interface) fun log answer =>
      ∃ rest, log = t.closing interface.descriptor ++ rest ∧
        WithSocket t.next .destroy (Destroying t.next interface.name) rest answer := by
  have hsocket := (t.erase interface.descriptor).kindOf?_add_next .control
  refine .bind (Machine.traces_closing interface.descriptor) ?_
  rintro _ _ rfl
  rw [DescriptorTable.afterAll_closing]
  refine .bind Machine.traces_openSocket ?_
  rintro _ _ ⟨answer, rfl, rfl⟩
  cases answer with
  | error code => exact .pure ⟨_, rfl, .unopened code⟩
  | ok _ =>
    refine .bind (traces_destroyByName hsocket interface.name) ?_
    rintro _ _ ⟨reply, rfl, rfl⟩
    cases reply with
    | error code =>
      refine .bind (Machine.traces_close hsocket) ?_
      rintro _ _ rfl
      exact .pure ⟨_, rfl, .opened ⟨.error code, rfl, rfl⟩⟩
    | ok record =>
      refine .tell_bind ?_
      refine .bind (Machine.traces_close hsocket) ?_
      rintro _ _ rfl
      exact .pure ⟨_, rfl, .opened ⟨.ok record, rfl, rfl⟩⟩

/-- **Taking an interface away** that has a device of its own. -/
theorem traces_destroy {interface : Interface}
    (hopen : t.kindOf? interface.descriptor = some .device) :
    Machine.Traces kernel t (destroy kernel interface) (Ending t.next interface) := by
  refine (traces_destroy_closing interface).mono ?_
  rintro _ answer ⟨rest, rfl, h⟩
  rw [DescriptorTable.closing_eq hopen]
  exact .closed h

theorem opens_destroying {socket : Descriptor} {name : String} (log : List Transaction)
    (answer : Except Error Unit) (h : Destroying socket name log answer) :
    t.Opens log (heldBy (fun _ => []) answer) := by
  obtain ⟨reply, rfl, rfl⟩ := h
  cases reply <;> exact .nothing rfl

/-- Of what was open, only the device of the interface is not any more. -/
theorem Ending.opened_afterAll {interface : Interface} {answer : Except Error Unit}
    (h : Ending t.next interface log answer) (hbounded : t.Bounded) :
    (t.afterAll log).opened = (t.erase interface.descriptor).opened := by
  cases h with
  | closed hrest =>
    have hrest' : WithSocket (t.erase interface.descriptor).next .destroy
        (Destroying t.next interface.name) _ answer := hrest
    have hopens := (hrest'.opens (hbounded.erase _) opens_destroying).opened_eq
    rwa [show heldBy (fun _ => []) answer = [] by cases answer <;> rfl] at hopens

end Tunnel.DeviceNode
