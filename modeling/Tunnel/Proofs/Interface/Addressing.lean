import Tunnel.Proofs.Interface.Requested
import Tunnel.Scripted.Kernel

/-!
# Names in later requests

The kernel writes the name of an interface back when it has made it, into a field in which anything
may stand behind the name. Whatever is asked of the interface from then on is asked under that name:
its flags, its device, and that it be taken away, at once if its setup fails or at any time later.
What is asked does not hang on what stood behind the name.

The flags of an interface are set by the record in which the kernel has shown them. So that this
record has the name as well, it is needed that a kernel leaves the name of an interface alone when
it shows its flags.

## Main definitions

* `Kernel.KeepsNames` — a kernel that leaves names alone when it shows flags
* `Transaction.WritesBack` — the name that the kernel has given
* `Transaction.Addresses` — a request under a name
* `Plan.CreatesOnce` — a plan by which one interface is made
* `Platform.CreatesUnder` — the making of an interface under the name that the kernel has given

## Main results

* `Platform.assures_plan` — the plan of either platform keeps to the name that the kernel has given
* `Platform.traces_create_under` — and so does all that is done to make an interface
* `Platform.names_created` — and all that is done to take it away
-/

namespace Tunnel

variable {κ : Type} {kernel : Kernel κ} {t : DescriptorTable} {platform : Platform}
  {log : List Transaction} {field : NameField}

/-! ### Requests under a name -/

namespace Transaction

/-- If the call has made an interface, this is the name that the kernel wrote back. -/
def WritesBack (field : NameField) : Transaction → Prop
  | control _ _ (.onInterface .create _) (.ok record) => record.name = field
  | _ => True

/-- If the call has asked for flags, the kernel has left the name alone. -/
def KeepsName : Transaction → Prop
  | control _ _ (.onInterface .getFlags request) (.ok record) => record.name = request.name
  | _ => True

/-- Where the call is one for an interface that was made, it has the octets of its name: in a record
with zeros behind them, and where devices bear names in the path of a device. -/
def Addresses (platform : Platform) (stem : Bytes) : Transaction → Prop
  | openDevice path _ => platform = .freebsd → Bytes.ofText path = Bytes.ofText "/dev/" ++ stem
  | control _ _ (.onInterface kind record) _ =>
    kind ≠ .create → record.name.octets = stem ++ Bytes.zeros (16 - stem.length)
  | _ => True

/-- What the kernel has to do with the name of an interface. -/
def Heeds (field : NameField) (transaction : Transaction) : Prop :=
  transaction.WritesBack field ∧ transaction.KeepsName

theorem mem_of_created? {record : InterfaceRecord} (h : created? log = some record) :
    ∃ descriptor kind request,
      .control descriptor kind (.onInterface .create request) (.ok record) ∈ log := by
  obtain ⟨transaction, hmem, hcreated⟩ := List.exists_of_findSome?_eq_some h
  split at hcreated
  · obtain rfl := Option.some.inj hcreated
    exact ⟨_, _, _, hmem⟩
  · cases hcreated

theorem addresses_destruction (hfield : field.IsTerminated) (platform : Platform)
    (socket : Descriptor) (reply : Except Errno InterfaceRecord) :
    (control socket .control (DeviceNode.destruction field.text) reply).Addresses platform
      field.stem :=
  fun _ => hfield.octets_ofName_text

end Transaction

open Transaction (Addresses Heeds KeepsName WritesBack unclosed)

/-- When it shows the flags of an interface, the kernel leaves the name in the record alone. -/
def Kernel.KeepsNames (kernel : Kernel κ) : Prop :=
  ∀ descriptor request state record,
    (kernel.control descriptor (.onInterface .getFlags request) state).1 = .ok record →
    record.name = request.name

theorem Kernel.Trace.keepsName (hkeeps : kernel.KeepsNames) {state last : κ}
    (h : kernel.Trace state log last) : ∀ transaction ∈ log, transaction.KeepsName := by
  intro transaction hmem
  unfold KeepsName
  split
  · exact h.replied hkeeps hmem
  · trivial

/-! ### Making -/

theorem Plan.assures_bringUp {α : Type} (hfield : field.IsTerminated) {socket : Descriptor}
    {value : α} {Q : α → Prop} (hvalue : Q value) :
    (bringUp socket field.text value).Assures (Heeds field) (Addresses platform field.stem) Q := by
  have hname := hfield.octets_ofName_text
  refine ⟨fun _ _ => hname, fun shown hshown => ⟨fun _ _ => ?_, fun _ _ => hvalue⟩⟩
  -- the record in which the flags were shown has the name still
  have hkept : shown.name = NameField.ofName field.text := hshown.2
  show shown.name.octets = _
  rw [hkept, hname]

theorem CloneDevice.assures_plan (hfield : field.IsTerminated) (socket : Descriptor)
    (requested : Option String) :
    (plan socket requested).Assures (Heeds field) (Addresses .linux field.stem)
      fun interface => interface.name = field.text := by
  have hon : (planOn socket (socket + 1) requested).Assures (Heeds field)
      (Addresses .linux field.stem) fun name => name = field.text := by
    refine ⟨fun _ hkind => absurd rfl hkind, fun created hcreated => ?_⟩
    obtain rfl : created.name = field := hcreated.1
    exact Plan.assures_bringUp hfield rfl
  have hwith : (planWith socket requested).Assures (Heeds field) (Addresses .linux field.stem)
      fun interface => interface.name = field.text := ⟨fun _ => nofun, hon.map⟩
  cases requested with
  | none => exact ⟨fun _ => trivial, hwith⟩
  | some name => exact ⟨fun _ => trivial, fun _ => trivial, hwith⟩

theorem DeviceNode.assures_plan (hfield : field.IsTerminated) (socket : Descriptor)
    (requested : Option String) :
    (plan socket requested).Assures (Heeds field) (Addresses .freebsd field.stem)
      fun interface => interface.name = field.text := by
  refine ⟨fun _ => trivial, fun _ hkind => absurd rfl hkind, fun created hcreated => ?_⟩
  obtain rfl : created.name = field := hcreated.1
  refine ⟨fun _ _ => ?_, Plan.Assures.map ?_⟩
  · rw [Bytes.ofText_append, hfield.ofText_text]
  · refine ⟨fun _ => trivial, fun _ _ => ⟨fun _ => trivial, fun _ _ => ?_⟩⟩
    exact Plan.assures_bringUp hfield rfl

/-- Only the first control request of the plan makes an interface. -/
def Plan.CreatesOnce {α : Type} : Plan α → Prop
  | done _ => True
  | lookUp _ next => next.CreatesOnce
  | openSocket next => next.CreatesOnce
  | openDevice _ next => next.CreatesOnce
  | control _ _ _ next => ∀ record, (next record).Asks fun request => request.kind ≠ .create

/-- So there is one name that the kernel writes back. -/
theorem Plan.Run.writesBack {α : Type} {plan : Plan α} {result : Except Error α}
    (h : plan.Run log result) (hplan : plan.CreatesOnce) {descriptor : Descriptor}
    {kind : DescriptorKind} {request record : InterfaceRecord}
    (hmem : .control descriptor kind (.onInterface .create request) (.ok record) ∈ log) :
    ∀ transaction ∈ log, transaction.WritesBack record.name := by
  induction h with
  | done | taken | noSocket _ | noDevice _ | refused _ => simp at hmem
  | free _ ih => exact List.forall_mem_cons.2 ⟨trivial, ih hplan (by simpa using hmem)⟩
  | socket _ ih => exact List.forall_mem_cons.2 ⟨trivial, ih hplan (by simpa using hmem)⟩
  | device _ ih => exact List.forall_mem_cons.2 ⟨trivial, ih hplan (by simpa using hmem)⟩
  | @granted _ _ _ _ created later _ hlater _ =>
    have hnone : ∀ {descriptor kind request record},
        .control descriptor kind (.onInterface .create request) (.ok record) ∉ later :=
      fun hmem => hlater.asked (hplan created) hmem rfl
    rcases List.mem_cons.1 hmem with hfirst | hrest
    · obtain ⟨-, -, rfl, hrecord⟩ := Transaction.control.inj hfirst
      obtain rfl := Except.ok.inj hrecord
      refine List.forall_mem_cons.2 ⟨rfl, fun transaction hlate => ?_⟩
      unfold WritesBack
      split
      · exact absurd hlate hnone
      · trivial
    · exact absurd hrest hnone

namespace Platform

theorem createsOnce_plan (platform : Platform) (socket : Descriptor)
    (requested : Option String) : (platform.plan socket requested).CreatesOnce := by
  cases platform with
  | linux =>
    have hwith : (CloneDevice.planWith socket requested).CreatesOnce :=
      fun _ => (Plan.isSettings_bringUp.asks.mono fun _ h => h.1).map _
    cases requested <;> exact hwith
  | freebsd => exact fun _ => (DeviceNode.isSettings_planOn.asks.mono fun _ h => h.1).map _

/-- **The plan keeps to the name that the kernel has given**, and the interface is known by it. -/
theorem assures_plan (platform : Platform) (hfield : field.IsTerminated) (socket : Descriptor)
    (requested : Option String) :
    (platform.plan socket requested).Assures (Heeds field) (Addresses platform field.stem)
      fun interface => interface.name = field.text := by
  cases platform with
  | linux => exact CloneDevice.assures_plan hfield socket requested
  | freebsd => exact DeviceNode.assures_plan hfield socket requested

/-- So does the cleanup. -/
theorem CleansUp.addresses {socket : Descriptor} {taken cleanup : List Transaction}
    {result : Except Error Interface} (h : platform.CleansUp socket taken result cleanup)
    (hfield : field.IsTerminated) (hback : ∀ transaction ∈ taken, transaction.WritesBack field) :
    ∀ transaction ∈ cleanup, transaction.Addresses platform field.stem := by
  unfold CleansUp at h
  split at h
  · next hcreated =>
    obtain ⟨reply, rfl⟩ := h
    obtain ⟨_, _, _, hmem⟩ := Transaction.mem_of_created? hcreated
    obtain rfl := hback _ hmem
    exact List.forall_mem_singleton.2 (Transaction.addresses_destruction hfield _ socket reply)
  · rw [h]
    exact nofun

/-- What is done to make an interface is done under the name that the kernel has given. -/
theorem Undertakes.addresses {socket : Descriptor} {requested : Option String}
    {result : Except Error Interface}
    (h : platform.Undertakes socket (platform.plan socket requested) log result)
    (hkeeps : ∀ transaction ∈ log, transaction.KeepsName) {descriptor : Descriptor}
    {kind : DescriptorKind} {request record : InterfaceRecord}
    (hmade : .control descriptor kind (.onInterface .create request) (.ok record) ∈ log)
    (hrecord : record.name.IsTerminated) :
    (∀ transaction ∈ log, transaction.Addresses platform record.name.stem) ∧
      ∀ interface, result = .ok interface → interface.name = record.name.text := by
  obtain ⟨taken, cleanup, hunclosed, hrun, hcleanup⟩ := h
  have hkept : ∀ transaction ∈ log, transaction.closed? = none →
      transaction ∈ taken ∨ transaction ∈ cleanup := by
    intro transaction hmem hnone
    have hunclosed_mem : transaction ∈ unclosed log :=
      List.mem_filter.2 ⟨hmem, by rw [hnone]; rfl⟩
    rw [hunclosed] at hunclosed_mem
    exact List.mem_append.1 hunclosed_mem
  have htaken : .control descriptor kind (.onInterface .create request) (.ok record) ∈ taken := by
    rcases hkept _ hmade rfl with htaken | hlast
    · exact htaken
    · cases hcleanup.kind_eq_destroy hlast
  have hback := hrun.writesBack (createsOnce_plan platform socket requested) htaken
  have hheeds : ∀ transaction ∈ taken, transaction.Heeds record.name := by
    intro transaction hmem
    have hlogged : transaction ∈ unclosed log := hunclosed ▸ List.mem_append_left cleanup hmem
    exact ⟨hback transaction hmem, hkeeps transaction (List.mem_of_mem_filter hlogged)⟩
  obtain ⟨haddressed, hnamed⟩ := hrun.assures (assures_plan platform hrecord _ _) hheeds
  refine ⟨fun transaction hmem => ?_, hnamed⟩
  cases hclosed : transaction.closed? with
  | some descriptor =>
    cases transaction with
    | close _ _ => trivial
    | _ => cases hclosed
  | none =>
    rcases hkept transaction hmem hclosed with hfront | hlast
    · exact haddressed transaction hfront
    · exact hcleanup.addresses hrecord hback transaction hlast

/-- The calls by which an interface is made and set up are made under the name that the kernel has
given, and so is the interface known. -/
structure CreatesUnder (platform : Platform) (log : List Transaction)
    (result : Except Error Interface) : Prop where
  made : ∀ interface, result = .ok interface → ∃ descriptor kind request record,
    .control descriptor kind (.onInterface .create request) (.ok record) ∈ log
  under : ∀ descriptor kind request record,
    .control descriptor kind (.onInterface .create request) (.ok record) ∈ log →
    record.name.IsTerminated →
    (∀ transaction ∈ log, transaction.Addresses platform record.name.stem) ∧
      ∀ interface, result = .ok interface → interface.name = record.name.text

/-- **All that is done to make an interface** is done under its name. -/
theorem traces_create_under (hkeeps : kernel.KeepsNames) (requested : Option String) :
    Machine.Traces kernel t ((platform.allocator kernel).create requested)
      platform.CreatesUnder := by
  intro m hm
  obtain ⟨log, hdid, ⟨rfl, name, hinvalid⟩ | hundertakes⟩ :=
    traces_create_refused_or_undertaken requested m hm
  · refine ⟨[], hdid, fun interface hok => ?_, nofun⟩
    rw [hinvalid] at hok
    cases hok
  · refine ⟨log, hdid, fun interface hok => ?_, fun descriptor kind request record hmem => ?_⟩
    · obtain ⟨taken, cleanup, hunclosed, hrun, -⟩ := hundertakes
      rw [hok] at hrun
      obtain ⟨descriptor, kind, request, record, hmem⟩ := exists_creation_of_run hrun
      have hlogged : .control descriptor kind (.onInterface .create request) (.ok record) ∈
          unclosed log := hunclosed ▸ List.mem_append_left cleanup hmem
      exact ⟨descriptor, kind, request, record, List.mem_of_mem_filter hlogged⟩
    · exact hundertakes.addresses (hdid.trace.keepsName hkeeps) hmem

/-! ### Taking away -/

/-- An interface is taken away under its name. -/
theorem TakesAway.addresses {interface : Interface} {answer : Except Error Unit}
    (h : platform.TakesAway t interface log answer) (hfield : field.IsTerminated)
    (hname : interface.name = field.text) :
    ∀ transaction ∈ log, transaction.Addresses platform field.stem := by
  have hclosing : ∀ transaction ∈ t.closing interface.descriptor,
      transaction.Addresses platform field.stem := by
    intro transaction hmem
    obtain ⟨kind, -, rfl⟩ := List.mem_map.1 hmem
    trivial
  cases platform with
  | linux =>
    obtain ⟨rfl, -⟩ := h
    exact hclosing
  | freebsd =>
    obtain ⟨rest, rfl, hrest⟩ := h
    refine List.forall_mem_append.2 ⟨hclosing, ?_⟩
    cases hrest with
    | unopened code => exact List.forall_mem_singleton.2 trivial
    | opened hlog =>
      obtain ⟨reply, rfl, -⟩ := hlog
      rw [hname]
      simpa [Addresses] using Transaction.addresses_destruction hfield .freebsd t.next reply

/-! ### The name that the kernel has given -/

/-- **Every request names the interface that the kernel has made**, on either platform. A name that
the kernel wrote back has 15 octets at most, and in a request it is followed by zeros, whatever
stood behind it. By that name the interface is set up, given up if its setup fails, and taken away
later, from any machine. A name of ASCII that is written into a field is read from it again, cut to
15 octets; and whatever is written over a field, what is behind it stays, and so does the last
octet. -/
theorem names_created (hkeeps : kernel.KeepsNames) (platform : Platform) :
    (∀ field : NameField, field.IsTerminated →
      (Bytes.ofText field.text).length ≤ 15 ∧
        (NameField.ofName field.text).octets =
          field.stem ++ Bytes.zeros (16 - field.stem.length)) ∧
    (∀ (m : Machine κ) requested, ∃ log,
      Machine.Did kernel m log (((platform.allocator kernel).create requested).run m).world ∧
      platform.CreatesUnder log (((platform.allocator kernel).create requested).run m).answer) ∧
    (∀ (m : Machine κ) interface, ∃ log,
      Machine.Did kernel m log (((platform.allocator kernel).destroy interface).run m).world ∧
      ∀ field : NameField, field.IsTerminated → interface.name = field.text →
        ∀ transaction ∈ log, transaction.Addresses platform field.stem) ∧
    (∀ name, (∀ octet ∈ Bytes.ofText name, octet ≠ 0 ∧ octet < 0x80) →
      Bytes.ofText (NameField.ofName name).text = (Bytes.ofText name).take 15) ∧
    ∀ (field : NameField) name,
      (∀ i < min (Bytes.ofText name).length 15,
        (field.write name).octets[i]? = (Bytes.ofText name)[i]?) ∧
      (∀ i, min (Bytes.ofText name).length 15 ≤ i →
        (field.write name).octets[i]? = field.octets[i]?) ∧
      (field.write name).octets[15]? = field.octets[15]? := by
  refine ⟨fun field hfield => ⟨?_, hfield.octets_ofName_text⟩, fun m requested => ?_,
    fun m interface => ?_, fun name hname => NameField.ofText_text_ofName hname,
    fun field name => ⟨?_, ?_, ?_⟩⟩
  · rw [hfield.ofText_text]
    exact hfield.length_stem_le
  · exact traces_create_under hkeeps requested m rfl
  · obtain ⟨log, hdid, htakes⟩ := traces_destroy_closing platform interface m rfl
    exact ⟨log, hdid, fun field hfield hname => htakes.addresses hfield hname⟩
  · exact fun i hi => field.getElem?_write_of_lt name hi
  · exact fun i hi => field.getElem?_write_of_le name hi
  · exact field.getElem?_write_last name

end Platform

namespace Scripted.Kernel

theorem keepsNames_behaviour : behaviour.KeepsNames := by
  intro descriptor request state record hanswer
  simp only [behaviour, guarded, comply, onNamed] at hanswer
  split at hanswer
  · cases hanswer
  · split at hanswer
    · cases hanswer
    · obtain rfl := Except.ok.inj hanswer
      rfl

end Scripted.Kernel

/-- The kernel counts its interfaces. -/
theorem Platform.names_created_counting :
    let kernel := Scripted.Kernel.behaviour
    let m : Machine Scripted.Kernel := .start (.ofPlatform .freebsd)
    let outcome := ((Platform.freebsd.allocator kernel).create none).run m
    kernel.KeepsNames ∧ outcome.answer = .ok ⟨"tun0", 1, .pointToPoint, true⟩ ∧
      ∃ log, Machine.Did kernel m log outcome.world ∧
        Platform.freebsd.CreatesUnder log outcome.answer := by
  have hkeeps := Scripted.Kernel.keepsNames_behaviour
  exact ⟨hkeeps, by rfl, (names_created hkeeps .freebsd).2.1 _ none⟩

end Tunnel
