import Tunnel.Proofs.Kernel.Settings

/-!
# Interfaces cloned from a device: what they leave open

What the platform on which interfaces live as long as their device is open does with its kernel,
transaction by transaction. A socket is open while an interface is made, and a device is kept only
if that goes well. On the device, the calls are those of a plan.

## Main definitions

* `CloneDevice.Making`, `CloneDevice.Ending` — making an interface, and taking it away
* `CloneDevice.planOn` — the calls on the device

## Main results

* `CloneDevice.traces_createChecked` — the action, call by call, for whatever is said of its calls
* `CloneDevice.traces_create`, `CloneDevice.traces_destroy` — the actions do that
* `CloneDevice.Making.opens` — an interface that was made holds its device, and nothing else is left
-/

namespace Tunnel.CloneDevice

open Transaction (Settings WithSocket WithDevice heldBy)

variable {κ : Type} {kernel : Kernel κ} {t : DescriptorTable} {log : List Transaction}

/-- The request by which an interface is made: `TUNSETIFF` under the requested name or none, with
`IFF_TUN` for its flags and zeros behind them. -/
def creation (requested : Option String) : ControlRequest :=
  .onInterface .create ⟨NameField.ofName (requested.getD ""), 1, .replicate 22 0⟩

/-- An interface is made on an open device. -/
inductive MakingOn (device : Descriptor) (requested : Option String) :
    List Transaction → Except Error String → Prop
  | refused (code : Errno) :
    MakingOn device requested [.control device .device (creation requested) (.error code)]
      (.error (.refused .create code))
  | done {record : InterfaceRecord} {steps : List Transaction} {result : Except Error String} :
    Settings steps → (∀ name, result = .ok name → name = record.name.text) →
    MakingOn device requested
      (.control device .device (creation requested) (.ok record) :: steps) result

/-- The interface on a device. -/
def interfaceOn (device : Descriptor) (name : String) : Interface :=
  ⟨name, device, .pointToPoint, true⟩

/-- The look-up of a requested name that is not taken. -/
def lookUps (requested : Option String) : List Transaction :=
  requested.toList.map fun name => .lookUp name false

theorem afterAll_lookUps (t : DescriptorTable) (requested : Option String) :
    t.afterAll (lookUps requested) = t := by
  cases requested <;> rfl

/-- An interface is made, or not. A requested name is looked up first. -/
inductive Making (socket : Descriptor) (requested : Option String) :
    List Transaction → Except Error Interface → Prop
  | invalid {e : Error} :
    checkRequested requested = .error e → Making socket requested [] (.error e)
  | taken {name : String} :
    checkRequested requested = .ok (some name) →
    Making socket requested [.lookUp name true] (.error (.refused .create Errno.alreadyExists))
  | tried {log : List Transaction} {result : Except Error Interface} :
    checkRequested requested = .ok requested →
    WithSocket socket .controlSocket
      (WithDevice (socket + 1) path (MakingOn (socket + 1) requested) (interfaceOn (socket + 1)))
      log result →
    Making socket requested (lookUps requested ++ log) result

/-! ### Making -/

variable {requested : Option String}

/-- The calls on an open device: `TUNSETIFF`, and those that bring the interface up under the name
that the kernel wrote back. -/
def planOn (socket device : Descriptor) (requested : Option String) : Plan String :=
  .control device .device (creation requested) fun created =>
  .bringUp socket created.name.text created.name.text

theorem isControl_planOn {socket device : Descriptor} :
    (planOn socket device requested).IsControl := fun _ _ _ => trivial

theorem traces_createOn {socket device : Descriptor} (hsocket : t.kindOf? socket = some .control)
    (hdevice : t.kindOf? device = some .device) :
    Machine.Traces kernel t (createOn kernel socket device requested)
      (planOn socket device requested).Run := by
  refine Plan.traces_control hdevice (fun _ => rfl) fun created => ?_
  refine .tell_bind ?_
  refine Plan.traces_map (g := fun _ => created.name.text) (Plan.traces_setUp hsocket _) ?_ ?_
  · exact fun _ => rfl
  · exact fun _ _ => .tell_bind (.pure ⟨rfl, rfl⟩)

/-- By these calls an interface is made on the device. -/
theorem MakingOn.of_run {socket device : Descriptor} {result : Except Error String}
    (h : (planOn socket device requested).Run log result) :
    MakingOn device requested log result := by
  cases h with
  | refused code => exact .refused code
  | granted hup =>
    refine .done (hup.settings Plan.isSettings_bringUp) ?_
    rintro name rfl
    exact hup.eq_of_bringUp

/-- Making an interface on a device leaves the descriptors as they are. -/
theorem MakingOn.afterAll {device : Descriptor} {result : Except Error String}
    (h : MakingOn device requested log result) (t : DescriptorTable) : t.afterAll log = t := by
  cases h with
  | refused code => rfl
  | done hsteps _ => exact hsteps.afterAll t

theorem createWith_eq (kernel : Kernel κ) (socket : Descriptor) (requested : Option String) :
    createWith kernel socket requested = Machine.withDevice kernel path
      (fun device => createOn kernel socket device requested)
      (fun device name => pure (.ok (interfaceOn device name))) := by
  refine bind_congr fun answer => ?_
  cases answer with
  | error code => rfl
  | ok device =>
    refine bind_congr fun result => ?_
    cases result <;> rfl

theorem createUnderName_eq (kernel : Kernel κ) (requested : Option String) :
    createUnderName kernel requested = Machine.withSocket kernel .controlSocket
      (fun socket => createWith kernel socket requested) := rfl

theorem traces_createWith {socket : Descriptor} (hsocket : t.kindOf? socket = some .control)
    (hne : socket ≠ t.next) :
    Machine.Traces kernel t (createWith kernel socket requested)
      (WithDevice t.next path (planOn socket t.next requested).Run (interfaceOn t.next)) := by
  rw [createWith_eq]
  refine Machine.traces_withDevice ?_ (fun _ _ h => (h.of_isControl isControl_planOn).2 _)
    fun _ => .pure ⟨rfl, rfl⟩
  refine traces_createOn ?_ (t.kindOf?_add_next .device)
  rw [DescriptorTable.kindOf?_add_of_ne hne, hsocket]

/-- Of what was opened, an interface that was made holds its device. -/
theorem opens_withDevice {device : Descriptor} {result : Except Error Interface}
    (hbounded : t.Bounded)
    (h : WithDevice t.next path (MakingOn device requested) (interfaceOn t.next) log result) :
    t.Opens log (heldBy (fun interface => [interface.entry]) result) :=
  h.opens hbounded (fun _ _ h => h.afterAll _) fun _ => rfl

theorem traces_createUnderName :
    Machine.Traces kernel t (createUnderName kernel requested)
      (WithSocket t.next .controlSocket
        (WithDevice (t.next + 1) path (planOn t.next (t.next + 1) requested).Run
          (interfaceOn (t.next + 1)))) := by
  have hsocket := t.kindOf?_add_next .control
  have hne : t.next ≠ (t.add .control).next := Nat.ne_of_lt (Nat.lt_succ_self _)
  rw [createUnderName_eq]
  refine Machine.traces_withSocket (traces_createWith hsocket hne) fun log result h => ?_
  rw [Plan.kindOf?_withDevice h (fun _ _ h => (h.of_isControl isControl_planOn).2 _) hne, hsocket]

/-- What the making of an interface comes to, if the requested name can be one. -/
theorem traces_createChecked {Made : List Transaction → Except Error Interface → Prop}
    (hrequested : checkRequested requested = .ok requested)
    (htaken : ∀ name, requested = some name →
      Made [.lookUp name true] (.error (.refused .create Errno.alreadyExists)))
    (htried : ∀ log result,
      WithSocket t.next .controlSocket
        (WithDevice (t.next + 1) path (planOn t.next (t.next + 1) requested).Run
          (interfaceOn (t.next + 1))) log result →
      Made (lookUps requested ++ log) result) :
    Machine.Traces kernel t (create kernel requested) Made := by
  have hopened : Machine.Traces kernel t (createUnderName kernel requested) fun log result =>
      Made (lookUps requested ++ log) result := traces_createUnderName.mono htried
  rw [create, hrequested]
  cases requested with
  | none => exact hopened
  | some name =>
    refine .bind (Machine.traces_interfaceExists name) ?_
    rintro _ found rfl
    cases found with
    | true => exact .pure (htaken name rfl)
    | false => exact hopened

/-- **Making an interface** that is cloned from a device. -/
theorem traces_create (requested : Option String) :
    Machine.Traces kernel t (create kernel requested) (Making t.next requested) := by
  cases hcheck : checkRequested requested with
  | error e =>
    rw [create, hcheck]
    exact .pure (.invalid hcheck)
  | ok checked =>
    obtain rfl : checked = requested := checkRequested_eq_ok hcheck
    refine traces_createChecked hcheck ?_ fun log result h => ?_
    · rintro name rfl
      exact .taken hcheck
    · exact .tried hcheck (h.mono fun _ _ h => h.mono fun _ _ => .of_run)

/-- Of what was opened, an interface that was made holds its device, and nothing else is left. -/
theorem Making.opens {result : Except Error Interface}
    (h : Making t.next requested log result) (hbounded : t.Bounded) :
    t.Opens log (heldBy (fun interface => [interface.entry]) result) := by
  cases h with
  | invalid _ => exact .nothing rfl
  | taken _ => exact .nothing rfl
  | tried _ htried =>
    refine .prepend (afterAll_lookUps t requested) ?_
    exact htried.opens hbounded fun _ _ h => opens_withDevice (hbounded.add _) h

/-! ### Taking away -/

/-- Taking an interface away: its device is closed. -/
def Ending (interface : Interface) (log : List Transaction) (answer : Except Error Unit) : Prop :=
  log = [.close interface.descriptor .device] ∧ answer = .ok ()

/-- That never fails, whatever the descriptor is open on. -/
theorem traces_destroy_closing (interface : Interface) :
    Machine.Traces kernel t (destroy kernel interface) fun log answer =>
      log = t.closing interface.descriptor ∧ answer = .ok () := by
  refine .tell_bind ?_
  refine .bind (Machine.traces_closing interface.descriptor) ?_
  rintro _ _ rfl
  refine .pure ⟨?_, rfl⟩
  rw [List.append_nil]

theorem traces_destroy {interface : Interface}
    (hopen : t.kindOf? interface.descriptor = some .device) :
    Machine.Traces kernel t (destroy kernel interface) (Ending interface) := by
  refine (traces_destroy_closing interface).mono ?_
  rintro _ _ ⟨rfl, rfl⟩
  exact ⟨DescriptorTable.closing_eq hopen, rfl⟩

end Tunnel.CloneDevice
