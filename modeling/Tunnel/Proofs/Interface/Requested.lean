import Tunnel.Proofs.Directory
import Tunnel.Proofs.Interface.Creation

/-!
# Names that are requested

A name that is requested goes to the kernel as it is, or not at all. What is no name is refused
before the first system call. Whatever is a name stands whole in the one request by which an
interface is made, with a zero behind it, so that nothing of it is cut off or changed.
Configurations are held to the same rule, and the name of one that was accepted is never refused
later.

## Main definitions

* `Interface.IsRequestable` — the rule for names
* `NameField.HoldsWhole` — a field with a whole name in it
* `Platform.TakesWhole` — what a platform does with a requested name

## Main results

* `Interface.isName_iff` — names are recognized by the rule
* `NameField.holdsWhole_ofName` — a name that can be requested fits into its field
* `Platform.traces_create_requested` — the requests that are made with such a name
* `Platform.create_takes_whole` — on either platform, whatever the kernel answers
-/

namespace Tunnel

variable {κ : Type} {kernel : Kernel κ} {t : DescriptorTable} {platform : Platform} {name : String}

/-! ### The rule for names -/

namespace Interface

/-- The name has 1 to 15 octets, all of them printable ASCII but the space and the slash. -/
structure IsRequestable (name : String) : Prop where
  one_le : 1 ≤ (Bytes.ofText name).length
  le_fifteen : (Bytes.ofText name).length ≤ 15
  graphic : ∀ octet ∈ Bytes.ofText name, 0x21 ≤ octet ∧ octet ≤ 0x7E ∧ octet ≠ '/'.toUInt8

/-- **Names are recognized by the rule.** -/
theorem isName_iff : isName name = true ↔ IsRequestable name := by
  have hempty : Bytes.ofText name ≠ [] ↔ 1 ≤ (Bytes.ofText name).length :=
    List.length_pos_iff.symm
  have hall : (Bytes.ofText name).all isNameOctet = true ↔
      ∀ octet ∈ Bytes.ofText name, 0x21 ≤ octet ∧ octet ≤ 0x7E ∧ octet ≠ '/'.toUInt8 := by
    rw [List.all_eq_true]
    refine forall₂_congr fun octet _ => ?_
    rw [isNameOctet, Bool.and_eq_true, Bool.and_eq_true, decide_eq_true_iff, decide_eq_true_iff,
      bne_iff_ne, and_assoc]
    rfl
  simp only [isName, Bool.and_eq_true, bne_iff_ne, decide_eq_true_eq, hall, hempty]
  constructor
  · rintro ⟨⟨hpos, hlt⟩, hgraphic⟩
    exact ⟨hpos, Nat.le_of_lt_succ hlt, hgraphic⟩
  · rintro ⟨hpos, hle, hgraphic⟩
    exact ⟨⟨hpos, Nat.lt_succ_of_le hle⟩, hgraphic⟩

theorem isName_eq_false_iff : isName name = false ↔ ¬IsRequestable name := by
  rw [← isName_iff, Bool.not_eq_true]

end Interface

open Interface (IsRequestable)

/-! ### Fields with a whole name -/

namespace NameField

/-- The field holds the name whole: its octets, and behind them zeros, of which the last octet is
one. Read again it gives the name back. -/
structure HoldsWhole (field : NameField) (name : String) : Prop where
  octets_eq : field.octets =
    Bytes.ofText name ++ Bytes.zeros (16 - (Bytes.ofText name).length)
  getLast?_eq : field.octets.getLast? = some 0
  text_eq : field.text = name

/-- **A name that can be requested fits into its field.** -/
theorem holdsWhole_ofName (h : IsRequestable name) : (ofName name).HoldsWhole name := by
  have hzero : 0 ∉ Bytes.ofText name := fun hmem => absurd (h.graphic 0 hmem).1 (by decide)
  have hstem := stem_ofName h.le_fifteen hzero
  have hoctets := octets_ofName h.le_fifteen
  -- at least one zero stands behind fifteen octets
  obtain ⟨n, hn⟩ : ∃ n, 16 - (Bytes.ofText name).length = n + 1 :=
    ⟨15 - (Bytes.ofText name).length, by have := h.le_fifteen; omega⟩
  have hzeros : Bytes.zeros (n + 1) = Bytes.zeros n ++ [0] := List.replicate_succ'
  have hterminated : (ofName name).IsTerminated := by
    refine isTerminated_ofName ?_
    rw [fitting_eq h.le_fifteen]
    exact fun octet hmem => ⟨fun heq => hzero (heq ▸ hmem),
      UInt8.lt_of_le_of_lt (h.graphic octet hmem).2.1 (by decide)⟩
  refine ⟨hoctets, ?_, ?_⟩
  · rw [hoctets, hn, hzeros, ← List.append_assoc, List.getLast?_concat]
  · have hback : Bytes.ofText (ofName name).text = Bytes.ofText name := by
      rw [hterminated.ofText_text, hstem]
    refine Option.some.inj ?_
    rw [← Bytes.toText?_ofText, hback, Bytes.toText?_ofText]

end NameField

/-! ### Requests with a name -/

/-- If the request is one to make an interface, it carries the name. -/
def ControlRequest.Carries (name : String) (request : ControlRequest) : Prop :=
  ∀ record, request = .onInterface .create record → record.name = NameField.ofName name

open Transaction (unclosed)

/-- No system call fails for the sake of a name. -/
theorem Transaction.error?_ne_invalidName (transaction : Transaction) (name : String) :
    transaction.error? ≠ some (.invalidName name) := by
  match transaction with
  | .lookUp _ true | .openSocket (.error _) | .openDevice _ (.error _)
  | .control _ _ _ (.error _) => exact nofun
  | .lookUp _ false | .openSocket (.ok _) | .openDevice _ (.ok _) | .control _ _ _ (.ok _)
  | .close _ _ => exact nofun

theorem Plan.EndsAtFirstFailure.ne_invalidName {α : Type} {log : List Transaction}
    {result : Except Error α} (h : Plan.EndsAtFirstFailure log result) (name : String) :
    result ≠ .error (.invalidName name) := by
  rintro rfl
  obtain ⟨_, last, _, hlast, _⟩ := h
  exact last.error?_ne_invalidName name hlast

/-- A setting carries no name to make an interface under. -/
theorem ControlRequest.carries_of_ne {request : ControlRequest} (h : request.kind ≠ .create) :
    request.Carries name := by
  rintro record rfl
  exact absurd rfl h

namespace Platform

theorem asks_plan (platform : Platform) (socket : Descriptor) (name : String) :
    (platform.plan socket (some name)).Asks (ControlRequest.Carries name) := by
  cases platform with
  | linux =>
    refine Plan.Asks.map ?_ _
    refine ⟨?_, fun _ => Plan.isSettings_bringUp.asks.mono fun _ h => ?_⟩
    · rintro _ ⟨⟩
      rfl
    · exact ControlRequest.carries_of_ne h.1
  | freebsd =>
    refine ⟨?_, fun _ => Plan.Asks.map ?_ _⟩
    · rintro _ ⟨⟩
      rfl
    · exact DeviceNode.isSettings_planOn.asks.mono fun _ h => ControlRequest.carries_of_ne h.1

/-- A run of the plan that ends well has come by the request to make an interface. -/
theorem exists_creation_of_run {socket : Descriptor} {requested : Option String}
    {taken : List Transaction} {interface : Interface}
    (h : (platform.plan socket requested).Run taken (.ok interface)) :
    ∃ descriptor kind record reply,
      .control descriptor kind (.onInterface .create record) (.ok reply) ∈ taken := by
  cases platform with
  | linux =>
    have hopened : ∀ {taken : List Transaction},
        (Plan.openSocket (CloneDevice.planWith socket requested)).Run taken (.ok interface) →
        ∃ descriptor kind record reply,
          .control descriptor kind (.onInterface .create record) (.ok reply) ∈ taken := by
      intro taken h
      cases h with
      | socket h =>
        cases h with
        | device h =>
          cases h with
          | granted h => exact ⟨_, _, _, _, .tail _ (.tail _ (.head _))⟩
    cases requested with
    | none => exact hopened h
    | some name =>
      cases h with
      | free h =>
        obtain ⟨descriptor, kind, record, reply, hmem⟩ := hopened h
        exact ⟨descriptor, kind, record, reply, .tail _ hmem⟩
  | freebsd =>
    cases h with
    | socket h =>
      cases h with
      | granted h => exact ⟨_, _, _, _, .tail _ (.head _)⟩

/-- The cleanup makes nothing. -/
theorem CleansUp.kind_eq_destroy {socket : Descriptor} {taken cleanup : List Transaction}
    {result : Except Error Interface} (h : platform.CleansUp socket taken result cleanup)
    {descriptor : Descriptor} {kind : DescriptorKind} {request : ControlRequest}
    {answer : Except Errno InterfaceRecord}
    (hmem : .control descriptor kind request answer ∈ cleanup) : request.kind = .destroy := by
  unfold CleansUp at h
  split at h
  · obtain ⟨reply, rfl⟩ := h
    obtain ⟨-, -, rfl, -⟩ := Transaction.control.inj (List.mem_singleton.1 hmem)
    rfl
  · rw [h] at hmem
    exact absurd hmem List.not_mem_nil

theorem traces_create_undertaken {requested : Option String}
    (h : ∀ name ∈ requested, Interface.isName name = true) :
    Machine.Traces kernel t ((platform.allocator kernel).create requested)
      (platform.Undertakes t.next (platform.plan t.next requested)) := by
  have hchecked := checkRequested_of_isName h
  cases platform with
  | linux => exact CloneDevice.traces_create_plan hchecked
  | freebsd => exact DeviceNode.traces_create_plan hchecked

/-- **A name that can be requested is never refused as one.** -/
theorem create_ne_invalidName (m : Machine κ) {requested : Option String}
    (h : ∀ name ∈ requested, Interface.isName name = true) (other : String) :
    (((platform.allocator kernel).create requested).run m).answer ≠
      .error (.invalidName other) := by
  obtain ⟨_, _, _, _, _, hrun, _⟩ := traces_create_undertaken h m rfl
  exact hrun.first_failure.ne_invalidName other

/-- The requests by which an interface is made under a name carry the name, and no interface is made
without one. -/
theorem traces_create_requested (h : Interface.isName name = true) :
    Machine.Traces kernel t ((platform.allocator kernel).create (some name)) fun log result =>
      (∀ descriptor kind request answer, .control descriptor kind request answer ∈ log →
        request.Carries name) ∧
      ∀ interface, result = .ok interface → ∃ descriptor kind record reply,
        .control descriptor kind (.onInterface .create record) (.ok reply) ∈ log := by
  have hnames : ∀ other ∈ some name, Interface.isName other = true := by
    rintro _ ⟨⟩
    exact h
  refine (traces_create_undertaken hnames).mono ?_
  rintro log result ⟨taken, cleanup, hunclosed, hrun, hcleanup⟩
  refine ⟨fun descriptor kind request answer hmem => ?_, ?_⟩
  · have hkept : .control descriptor kind request answer ∈ taken ++ cleanup := by
      rw [← hunclosed]
      exact List.mem_filter.2 ⟨hmem, rfl⟩
    rcases List.mem_append.1 hkept with htaken | hlast
    · exact hrun.asked (asks_plan platform t.next name) htaken
    · rintro record rfl
      cases hcleanup.kind_eq_destroy hlast
  · rintro interface rfl
    obtain ⟨descriptor, kind, record, reply, hmem⟩ := exists_creation_of_run hrun
    have hkept : .control descriptor kind (.onInterface .create record) (.ok reply) ∈
        unclosed log := hunclosed ▸ List.mem_append_left cleanup hmem
    exact ⟨descriptor, kind, record, reply, List.mem_of_mem_filter hkept⟩

/-- What a platform does with a requested name. -/
structure TakesWhole (platform : Platform) (kernel : Kernel κ) (m : Machine κ) (name : String) :
    Prop where
  /-- The name is refused exactly if it breaks the rule. -/
  refused_iff : (∃ other, (((platform.allocator kernel).create (some name)).run m).answer =
    .error (.invalidName other)) ↔ ¬IsRequestable name
  /-- And then no system call was made, and nothing was stated. -/
  untouched : ¬IsRequestable name → ((platform.allocator kernel).create (some name)).run m =
    ⟨.error (.invalidName name), [], m⟩
  /-- Else it stands whole in each request to make an interface that has come on record, and no
  interface is made without such a request. -/
  carried : IsRequestable name → ∃ calls,
    (((platform.allocator kernel).create (some name)).run m).world.calls = m.calls ++ calls ∧
      (∀ descriptor kind record failure,
        .control descriptor kind (.onInterface .create record) failure ∈ calls →
        record.name.HoldsWhole name ∧
          (platform.encode (.onInterface .create record)).take 16 = record.name.octets) ∧
      ∀ interface,
        (((platform.allocator kernel).create (some name)).run m).answer = .ok interface →
        ∃ descriptor kind record,
          .control descriptor kind (.onInterface .create record) none ∈ calls

theorem take_encodeRecord (platform : Platform) (record : InterfaceRecord) :
    (platform.encodeRecord record).take 16 = record.name.octets := by
  rw [encodeRecord, List.append_assoc, List.take_left' record.name.length_octets]

theorem run_create_invalid (kernel : Kernel κ) (m : Machine κ) (h : Interface.isName name = false) :
    ((platform.allocator kernel).create (some name)).run m =
      ⟨.error (.invalidName name), [], m⟩ := by
  cases platform with
  | linux => exact CloneDevice.create_invalid kernel h m
  | freebsd => exact DeviceNode.create_invalid kernel h m

/-- Whatever is requested, the platform undertakes to make an interface, or it refuses the name and
does nothing. -/
theorem traces_create_refused_or_undertaken (requested : Option String) :
    Machine.Traces kernel t ((platform.allocator kernel).create requested) fun log result =>
      (log = [] ∧ ∃ name, result = .error (.invalidName name)) ∨
        platform.Undertakes t.next (platform.plan t.next requested) log result := by
  by_cases hnames : ∀ name ∈ requested, Interface.isName name = true
  · exact (traces_create_undertaken hnames).mono fun _ _ h => .inr h
  · simp only [not_forall, Bool.not_eq_true] at hnames
    obtain ⟨name, hrequested, hname⟩ := hnames
    obtain rfl : requested = some name := hrequested
    intro m hm
    rw [run_create_invalid kernel m hname]
    exact ⟨[], .nothing kernel m, .inl ⟨rfl, name, rfl⟩⟩

theorem takesWhole (platform : Platform) (kernel : Kernel κ) (m : Machine κ) (name : String) :
    platform.TakesWhole kernel m name := by
  constructor
  · constructor
    · rintro ⟨other, hanswer⟩ hrequestable
      refine create_ne_invalidName m ?_ other hanswer
      rintro _ ⟨⟩
      exact Interface.isName_iff.2 hrequestable
    · intro hbreaks
      rw [run_create_invalid kernel m (Interface.isName_eq_false_iff.2 hbreaks)]
      exact ⟨name, rfl⟩
  · intro hbreaks
    exact run_create_invalid kernel m (Interface.isName_eq_false_iff.2 hbreaks)
  · intro hrequestable
    obtain ⟨log, hdid, hcarries, hmade⟩ :=
      traces_create_requested (Interface.isName_iff.2 hrequestable) m rfl
    refine ⟨log.map Transaction.call, hdid.calls, ?_, ?_⟩
    · intro descriptor kind record failure hmem
      obtain ⟨transaction, htransaction, hcall⟩ := List.mem_map.1 hmem
      refine ⟨?_, platform.take_encodeRecord record⟩
      cases transaction with
      | control _ _ request answer =>
        obtain ⟨-, -, rfl, -⟩ := SystemCall.control.inj hcall
        rw [hcarries _ _ _ _ htransaction record rfl]
        exact NameField.holdsWhole_ofName hrequestable
      | _ => cases hcall
    · intro interface hinterface
      obtain ⟨descriptor, kind, record, reply, hmem⟩ := hmade interface hinterface
      exact ⟨descriptor, kind, record, List.mem_map_of_mem hmem⟩

end Platform

/-! ### Names in configurations -/

namespace Config

variable {families : List AddressFamily} {routes : List RoutePrefix}

theorem validate_eq_badName_iff :
    validate ⟨some name, families, routes⟩ = .error (.badName name) ↔ ¬IsRequestable name := by
  rw [← Interface.isName_eq_false_iff, validate]
  cases hname : Interface.isName name with
  | false =>
    have hsome : (some name).filter (fun name => !Interface.isName name) = some name := by
      simp [Option.filter_some, hname]
    exact iff_of_true (by simp only [hsome]) rfl
  | true =>
    refine iff_of_false (fun h => ?_) (by decide)
    have hnone : (some name).filter (fun name => !Interface.isName name) = none := by
      simp [Option.filter_some, hname]
    simp only [hnone] at h
    split at h
    · cases h
    · split at h
      · cases h
      · cases h

theorem validate_named_eq_ok_iff :
    validate ⟨some name, families, routes⟩ = .ok () ↔
      IsRequestable name ∧ families ≠ [] ∧ .unrecognized ∉ families := by
  rw [validate_eq_ok_iff, ← Interface.isName_iff]
  simp

end Config

/-- **A requested name goes to the kernel whole or not at all**, on either platform, from any
machine and whatever the kernel answers. A configuration is accepted with just the names that can be
requested, and so the name in a file that was loaded is never refused. -/
theorem Platform.create_takes_whole (platform : Platform) (kernel : Kernel κ) (m : Machine κ) :
    (∀ name, platform.TakesWhole kernel m name) ∧
    (∀ name families routes,
      (Config.validate ⟨some name, families, routes⟩ = .error (.badName name) ↔
        ¬IsRequestable name) ∧
      (Config.validate ⟨some name, families, routes⟩ = .ok () ↔
        IsRequestable name ∧ families ≠ [] ∧ .unrecognized ∉ families)) ∧
    ∀ path text config, Config.ofFile path text = .ok config → ∀ other,
      (((platform.allocator kernel).create config.interface).run m).answer ≠
        .error (.invalidName other) := by
  refine ⟨platform.takesWhole kernel m, ?_, ?_⟩
  · intro name families routes
    exact ⟨Config.validate_eq_badName_iff, Config.validate_named_eq_ok_iff⟩
  · intro path text config hfile other
    obtain ⟨_, _, _, hvalid⟩ := Config.ofFile_eq_ok_iff.1 hfile
    exact create_ne_invalidName m (Config.validate_eq_ok_iff.1 hvalid).1 other

end Tunnel
