import Tunnel.Proofs.Interface.Naming
import Tunnel.Proofs.Kernel.CloneDevice
import Tunnel.Proofs.Kernel.DeviceNode

/-!
# Names that were made and names that were given up

What the transactions of one call on an allocator say about interfaces. The kernel makes one and
writes its name back; a request to destroy one carries its name. Where an interface outlives its
device, each name that was made is either that of the interface in the answer, or is given up before
the answer, with the device closed by then. Where an interface goes with its device, there is no
such request, and a failure behind the making has closed the device.

## Main definitions

* `Transaction.made`, `Transaction.attempted` — the names that were written back, and those that
  requests to destroy carry
* `Kernel.WritesNames` — a kernel that writes names of ASCII with a zero behind them
* `Interface.IsNamed` — an interface with such a name

## Main results

* `DeviceNode.Making.matched`, `DeviceNode.Ending.matched` — what was made is held or given up
* `DeviceNode.Making.device_first`, `DeviceNode.Ending.device_first` — after its device was closed
* `CloneDevice.Making.closed_after` — a failure behind the making closes the device
-/

namespace Tunnel

namespace Transaction

/-- The name of the interface that the call has made. -/
def made? : Transaction → Option Bytes
  | control _ _ (.onInterface .create _) (.ok record) => some record.name.stem
  | _ => none

/-- The name of the interface that the call was to destroy, whatever came of it. -/
def attempted? : Transaction → Option Bytes
  | control _ _ (.onInterface .destroy record) _ => some record.name.stem
  | _ => none

/-- The names of the interfaces that were made, in order. -/
def made (log : List Transaction) : List Bytes := log.filterMap made?

/-- The names of the interfaces that were to be destroyed, in order. -/
def attempted (log : List Transaction) : List Bytes := log.filterMap attempted?

@[simp] theorem made_append (log later : List Transaction) :
    made (log ++ later) = made log ++ made later := List.filterMap_append

@[simp] theorem attempted_append (log later : List Transaction) :
    attempted (log ++ later) = attempted log ++ attempted later := List.filterMap_append

theorem IsSetting.made?_eq {transaction : Transaction} (h : transaction.IsSetting) :
    transaction.made? = none ∧ transaction.attempted? = none := by
  cases transaction with
  | control descriptor kind request answer =>
    obtain ⟨hcreate, hdestroy⟩ := h
    cases request with
    | onDevice _ _ => exact ⟨rfl, rfl⟩
    | onInterface kind record =>
      cases kind with
      | create => exact absurd rfl hcreate
      | destroy => exact absurd rfl hdestroy
      | _ => exact ⟨rfl, rfl⟩
  | _ => exact h.elim

/-- Settings neither make nor give up. -/
theorem Settings.made_eq {log : List Transaction} (h : Settings log) :
    made log = [] ∧ attempted log = [] :=
  ⟨List.filterMap_eq_nil_iff.2 fun transaction hmem => (h transaction hmem).made?_eq.1,
    List.filterMap_eq_nil_iff.2 fun transaction hmem => (h transaction hmem).made?_eq.2⟩

/-- A request to destroy an interface meets these devices. -/
def AttemptsWith (devices : List Descriptor) (t : DescriptorTable) (transaction : Transaction) :
    Prop :=
  transaction.attempted?.isSome = true → t.devices = devices

/-- If the call has made an interface, its name is ASCII with a zero behind it. -/
def WritesName : Transaction → Prop
  | control _ _ (.onInterface .create _) (.ok record) => record.name.IsTerminated
  | _ => True

end Transaction

open Transaction (made attempted Settings WithSocket WithDevice heldBy)

theorem DescriptorTable.Along.of_attempted_eq_nil {t : DescriptorTable}
    {devices : List Descriptor} {log : List Transaction} (h : attempted log = []) :
    t.Along (Transaction.AttemptsWith devices) log := by
  induction log generalizing t with
  | nil => exact trivial
  | cons transaction later ih =>
    have hall := List.filterMap_eq_nil_iff.1 h
    obtain ⟨hfirst, hlater⟩ := List.forall_mem_cons.1 hall
    refine ⟨fun hsome => ?_, ih (List.filterMap_eq_nil_iff.2 hlater)⟩
    rw [hfirst] at hsome
    cases hsome

/-- Every name that the kernel writes back is ASCII with a zero behind it. -/
def Kernel.WritesNames {κ : Type} (kernel : Kernel κ) : Prop :=
  ∀ descriptor request state record,
    (kernel.control descriptor (.onInterface .create request) state).1 = .ok record →
    record.name.IsTerminated

/-- What a kernel replies to a kind of request, it replies wherever such a request is made. -/
theorem Kernel.Trace.replied {κ : Type} {kernel : Kernel κ} {kind : ControlKind}
    {R : InterfaceRecord → InterfaceRecord → Prop}
    (hreplies : ∀ descriptor request state record,
      (kernel.control descriptor (.onInterface kind request) state).1 = .ok record →
      R request record)
    {state last : κ} {log : List Transaction} (h : kernel.Trace state log last)
    {descriptor : Descriptor} {opened : DescriptorKind} {request record : InterfaceRecord}
    (hmem : .control descriptor opened (.onInterface kind request) (.ok record) ∈ log) :
    R request record := by
  induction h with
  | nil _ => exact absurd hmem List.not_mem_nil
  | @cons state _ _ _ _ hanswers _ ih =>
    rcases List.mem_cons.1 hmem with hfirst | hlater
    · obtain rfl := hfirst
      exact hreplies descriptor request state record (congrArg Prod.fst hanswers)
    · exact ih hlater

theorem Kernel.Trace.writesName {κ : Type} {kernel : Kernel κ} (hnames : kernel.WritesNames)
    {state last : κ} {log : List Transaction} (h : kernel.Trace state log last) :
    ∀ transaction ∈ log, transaction.WritesName := by
  intro transaction hmem
  unfold Transaction.WritesName
  split
  · exact h.replied hnames hmem
  · trivial

/-- With such a kernel, every name of an interface that is made is one. -/
theorem Machine.Traces.writing {κ α : Type} {kernel : Kernel κ} {t : DescriptorTable}
    {x : Action (Machine κ) α} {P : List Transaction → α → Prop}
    (h : Machine.Traces kernel t x P) (hnames : kernel.WritesNames) :
    Machine.Traces kernel t x fun log a =>
      P log a ∧ ∀ transaction ∈ log, transaction.WritesName := by
  intro m hm
  obtain ⟨log, hdid, hP⟩ := h m hm
  exact ⟨log, hdid, hP, hdid.trace.writesName hnames⟩

/-- The name of the interface is one that the kernel has written back. -/
def Interface.IsNamed (interface : Interface) : Prop :=
  ∃ field : NameField, field.IsTerminated ∧ interface.name = field.text

/-- The octets of the interface's name. -/
def Interface.stem (interface : Interface) : Bytes := Bytes.ofText interface.name

theorem Interface.IsNamed.stem_ofName {interface : Interface} (h : interface.IsNamed) :
    (NameField.ofName interface.name).stem = interface.stem := by
  obtain ⟨field, hfield, hname⟩ := h
  rw [stem, hname, hfield.stem_ofName_text, hfield.ofText_text]

/-! ### Interfaces with a device each -/

namespace DeviceNode

variable {t : DescriptorTable} {socket : Descriptor} {requested : Option String}
  {log : List Transaction} {result : Except Error Interface}

theorem made_configuring {device : Descriptor} {name : String} {result : Except Error Descriptor}
    (h : Configuring device name log result) : made log = [] ∧ attempted log = [] := by
  cases h with
  | unopened code => exact ⟨rfl, rfl⟩
  | undone hsteps =>
    obtain ⟨hmade, hattempted⟩ := Settings.made_eq hsteps
    rw [Transaction.made_append, Transaction.attempted_append]
    exact ⟨congrArg (· ++ []) hmade, congrArg (· ++ []) hattempted⟩
  | kept hsteps =>
    obtain ⟨hmade, hattempted⟩ := Settings.made_eq hsteps
    exact ⟨hmade, hattempted⟩

/-- What was made is held by the answer, or was given up. -/
theorem MakingBy.matched (h : MakingBy socket requested log result)
    (hnames : ∀ transaction ∈ log, transaction.WritesName) :
    made log = attempted log ++ heldBy (fun interface => [interface.stem]) result ∧
      ∀ interface, result = .ok interface → interface.IsNamed := by
  cases h with
  | refused code => exact ⟨rfl, nofun⟩
  | @undone record cfg e reply hcfg =>
    have hterminated : record.name.IsTerminated := hnames _ List.mem_cons_self
    obtain ⟨hmade, hattempted⟩ := made_configuring hcfg
    refine ⟨?_, nofun⟩
    show record.name.stem :: made (cfg ++ _) = attempted (cfg ++ _) ++ []
    rw [Transaction.made_append, Transaction.attempted_append, hmade, hattempted, List.append_nil]
    show [record.name.stem] = [(NameField.ofName record.name.text).stem]
    rw [hterminated.stem_ofName_text]
  | @done record cfg device hcfg =>
    have hterminated : record.name.IsTerminated := hnames _ List.mem_cons_self
    obtain ⟨hmade, hattempted⟩ := made_configuring hcfg
    refine ⟨?_, ?_⟩
    · show record.name.stem :: made cfg = attempted cfg ++ [Bytes.ofText record.name.text]
      rw [hmade, hattempted, hterminated.ofText_text]
      rfl
    · intro interface hinterface
      obtain rfl := Except.ok.inj hinterface
      exact ⟨record.name, hterminated, rfl⟩

/-- **What was made** is held by the answer, or was given up before it. -/
theorem Making.matched (h : Making socket requested log result)
    (hnames : ∀ transaction ∈ log, transaction.WritesName) :
    made log = attempted log ++ heldBy (fun interface => [interface.stem]) result ∧
      ∀ interface, result = .ok interface → interface.IsNamed := by
  cases h with
  | invalid _ => exact ⟨rfl, nofun⟩
  | tried _ htried =>
    cases htried with
    | unopened code => exact ⟨rfl, nofun⟩
    | @opened body _ hbody =>
      obtain ⟨hmatched, hnamed⟩ := hbody.matched fun transaction hmem =>
        hnames transaction (List.mem_cons_of_mem _ (List.mem_append_left _ hmem))
      refine ⟨?_, hnamed⟩
      show made (body ++ [.close socket .control]) =
        attempted (body ++ [.close socket .control]) ++ _
      rw [Transaction.made_append, Transaction.attempted_append]
      show made body ++ [] = attempted body ++ [] ++ _
      rw [List.append_nil, List.append_nil, hmatched]

/-- A success gives nothing up. -/
theorem Making.attempted_of_ok {interface : Interface}
    (h : Making socket requested log (.ok interface)) : attempted log = [] := by
  cases h with
  | tried _ htried =>
    cases htried with
    | opened hbody =>
      cases hbody with
      | done hcfg =>
        rw [Transaction.attempted_append]
        exact congrArg (· ++ []) (made_configuring hcfg).2

theorem MakingBy.device_first (h : MakingBy t.next requested log result) (hbounded : t.Bounded) :
    (t.add .control).Along (Transaction.AttemptsWith t.devices) log := by
  cases h with
  | refused code => exact .of_attempted_eq_nil rfl
  | @undone record cfg e reply hcfg =>
    have hfront :
        attempted (.control t.next .control (creation requested) (.ok record) :: cfg) = [] :=
      (made_configuring hcfg).2
    have hopened := ((opens_configuring (hbounded.add .control) hcfg).cons_control t.next .control
      (creation requested) (.ok record)).opened_eq
    refine DescriptorTable.along_append.2 ⟨.of_attempted_eq_nil hfront, fun _ => ?_, trivial⟩
    rw [DescriptorTable.devices, hopened]
    rfl
  | done hcfg => exact .of_attempted_eq_nil (made_configuring hcfg).2

/-- **By the time that an interface is given up**, its device is closed: the devices that are open
are those that were open before. -/
theorem Making.device_first (h : Making t.next requested log result) (hbounded : t.Bounded) :
    t.Along (Transaction.AttemptsWith t.devices) log := by
  cases h with
  | invalid _ => exact trivial
  | tried _ htried =>
    cases htried with
    | unopened code => exact .of_attempted_eq_nil rfl
    | opened hbody =>
      refine DescriptorTable.along_append.2 ⟨⟨nofun, hbody.device_first hbounded⟩, ?_⟩
      exact .of_attempted_eq_nil rfl

/-- **Taking an interface away** gives its name up once, unless no socket can be opened for that. -/
theorem Ending.matched {interface : Interface} {answer : Except Error Unit}
    (h : Ending socket interface log answer) (hnamed : interface.IsNamed) :
    made log = [] ∧
      (attempted log = [interface.stem] ∧ (∀ code, answer ≠ .error (.unavailable .destroy code)) ∨
        attempted log = [] ∧ ∃ code, answer = .error (.unavailable .destroy code) ∧
          .openSocket (.error code) ∈ log) := by
  cases h with
  | closed hrest =>
    cases hrest with
    | unopened code =>
      exact ⟨rfl, .inr ⟨rfl, code, rfl, List.mem_cons_of_mem _ List.mem_cons_self⟩⟩
    | opened hbody =>
      obtain ⟨reply, rfl, rfl⟩ := hbody
      refine ⟨rfl, .inl ⟨?_, ?_⟩⟩
      · show [(NameField.ofName interface.name).stem] = _
        rw [hnamed.stem_ofName]
      · intro code
        cases reply with
        | error other => exact fun heq => nomatch heq
        | ok record => exact fun heq => nomatch heq

/-- By the time that it does, the device of the interface is closed. -/
theorem Ending.device_first {interface : Interface} {answer : Except Error Unit}
    (h : Ending t.next interface log answer) :
    t.Along (Transaction.AttemptsWith (t.erase interface.descriptor).devices) log := by
  cases h with
  | closed hrest =>
    cases hrest with
    | unopened code => exact .of_attempted_eq_nil rfl
    | opened hbody =>
      obtain ⟨reply, rfl, rfl⟩ := hbody
      exact ⟨nofun, nofun, fun _ => rfl, nofun, trivial⟩

end DeviceNode

/-! ### Interfaces cloned from a device -/

namespace CloneDevice

variable {socket device : Descriptor} {requested : Option String} {log : List Transaction}

theorem MakingOn.attempted_eq_nil {result : Except Error String}
    (h : MakingOn device requested log result) : attempted log = [] := by
  cases h with
  | refused code => rfl
  | done hsteps _ => exact (Settings.made_eq hsteps).2

/-- An interface is made on the device, and nowhere else. -/
theorem MakingOn.eq_of_mem {result : Except Error String}
    (h : MakingOn device requested log result) {descriptor : Descriptor} {kind : DescriptorKind}
    {request record : InterfaceRecord}
    (hmem : .control descriptor kind (.onInterface .create request) (.ok record) ∈ log) :
    descriptor = device ∧ kind = .device := by
  cases h with
  | refused code => cases List.mem_singleton.1 hmem
  | done hsteps _ =>
    obtain heq | hmem := List.mem_cons.1 hmem
    · cases heq
      exact ⟨rfl, rfl⟩
    · exact absurd rfl (hsteps _ hmem).1

/-- What is done last follows everything that was done before. -/
theorem pair_sublist_concat {transaction last : Transaction} (h : transaction ∈ log) :
    [transaction, last].Sublist (log ++ [last]) :=
  (List.singleton_sublist.2 h).append_right [last]

section Failure

/-! A failure behind the making of an interface. -/

variable {e : Error} {descriptor : Descriptor} {kind : DescriptorKind}
  {request record : InterfaceRecord}

theorem closed_of_withDevice
    (h : WithDevice device path (MakingOn device requested) (interfaceOn device) log (.error e))
    (hmem : .control descriptor kind (.onInterface .create request) (.ok record) ∈ log) :
    [.control descriptor kind (.onInterface .create request) (.ok record),
      .close descriptor kind].Sublist log := by
  cases h with
  | unopened code => cases List.mem_singleton.1 hmem
  | undone hbody =>
    obtain hfront | hlast := List.mem_append.1 hmem
    · obtain hfirst | hbehind := List.mem_cons.1 hfront
      · cases hfirst
      · obtain ⟨rfl, rfl⟩ := hbody.eq_of_mem hbehind
        exact (pair_sublist_concat hbehind).cons _
    · cases List.mem_singleton.1 hlast

/-- **A failure behind the making** of an interface closes the descriptor that it was made on. -/
theorem Making.closed_after (h : Making socket requested log (.error e))
    (hmem : .control descriptor kind (.onInterface .create request) (.ok record) ∈ log) :
    [.control descriptor kind (.onInterface .create request) (.ok record),
      .close descriptor kind].Sublist log := by
  cases h with
  | invalid _ => cases hmem
  | taken _ => cases List.mem_singleton.1 hmem
  | tried _ htried =>
    refine List.sublist_append_of_sublist_right ?_
    obtain hlookUp | hrest := List.mem_append.1 hmem
    · obtain ⟨name, -, heq⟩ := List.mem_map.1 hlookUp
      cases heq
    · cases htried with
      | unopened code => cases List.mem_singleton.1 hrest
      | opened hdevice =>
        obtain hfront | hlast := List.mem_append.1 hrest
        · obtain hfirst | hbehind := List.mem_cons.1 hfront
          · cases hfirst
          · have hsublist := closed_of_withDevice hdevice hbehind
            exact List.sublist_append_of_sublist_left (hsublist.cons _)
        · cases List.mem_singleton.1 hlast

end Failure

theorem attempted_of_withDevice {result : Except Error Interface}
    (h : WithDevice device path (MakingOn device requested) (interfaceOn device) log result) :
    attempted log = [] := by
  cases h with
  | unopened code => rfl
  | undone hbody =>
    rw [Transaction.attempted_append]
    exact congrArg (· ++ []) hbody.attempted_eq_nil
  | kept hbody => exact hbody.attempted_eq_nil

/-- Where interfaces go with their devices, none is given up by request. -/
theorem Making.attempted_eq_nil {result : Except Error Interface}
    (h : Making socket requested log result) : attempted log = [] := by
  cases h with
  | invalid _ => rfl
  | taken _ => rfl
  | tried _ htried =>
    have hfront : attempted (lookUps requested) = [] := by cases requested <;> rfl
    rw [Transaction.attempted_append, hfront, List.nil_append]
    cases htried with
    | unopened code => rfl
    | opened hdevice =>
      rw [Transaction.attempted_append]
      exact congrArg (· ++ []) (attempted_of_withDevice hdevice)

end CloneDevice

end Tunnel
