import Tunnel.Kernel.CloneDevice
import Tunnel.Proofs.Kernel.Accounting

/-!
# Plans of system calls

A plan is a fixed order of system calls, in which a later call may carry what an earlier one was
answered. It is followed up to the first call that fails, and comes to the failure of that call, or
to what it leads to if none fails. Descriptors that are closed on the way are no part of a plan.

## Main definitions

* `Plan` — calls in order, and what they lead to
* `Plan.Run` — the calls that are made of a plan, and what comes of it
* `Plan.Asks` — what all control requests of a plan have in common
* `Plan.Assures` — what all transactions of a plan have in common, if the kernel does its part
* `Transaction.error?` — the failure of a call
* `Transaction.unclosed` — the calls that close nothing

## Main results

* `Plan.Run.first_failure` — a run ends with the first call that fails, and with its failure
* `Plan.Run.assures` — what a plan assures holds of its runs
* `Plan.Run.asked` — the control requests of a run are those of the plan
* `Plan.traces_control` — a control request is the first call of a plan
* `Plan.Run.withDevice` — a plan on a device, after the opening of the device
* `Plan.traces_setUp` — bringing an interface up follows its plan
-/

namespace Tunnel

variable {κ α β : Type} {kernel : Kernel κ} {t : DescriptorTable} {log : List Transaction}

/-! ### Failures of calls -/

/-- The stage to which a kind of request belongs. -/
def ControlKind.stage : ControlKind → Stage
  | create => .create
  | getFlags | setFlags => .up
  | destroy => .destroy
  | setMode => .setMode
  | setHead => .setHead

namespace Transaction

/-- The failure of the call, if it failed. A name that is looked up must not be taken. -/
def error? : Transaction → Option Error
  | lookUp _ true => some (.refused .create Errno.alreadyExists)
  | openSocket (.error code) => some (.unavailable .controlSocket code)
  | openDevice _ (.error code) => some (.unavailable .deviceOpen code)
  | control _ _ request (.error code) => some (.refused request.kind.stage code)
  | _ => none

/-- The calls that close nothing, in order. -/
def unclosed (log : List Transaction) : List Transaction :=
  log.filter fun transaction => transaction.closed?.isNone

@[simp] theorem unclosed_append (log later : List Transaction) :
    unclosed (log ++ later) = unclosed log ++ unclosed later := List.filter_append ..

end Transaction

open Transaction (unclosed WithSocket WithDevice)

/-! ### Plans -/

/-- System calls in order, and what they lead to. What comes after a control request may hang on the
record that the kernel left. -/
inductive Plan (α : Type)
  | done (value : α)
  | lookUp (name : String) (next : Plan α)
  | openSocket (next : Plan α)
  | openDevice (path : String) (next : Plan α)
  | control (descriptor : Descriptor) (kind : DescriptorKind) (request : ControlRequest)
    (next : InterfaceRecord → Plan α)

namespace Plan

/-- The plan with another end. -/
def map (f : α → β) : Plan α → Plan β
  | done value => done (f value)
  | lookUp name next => lookUp name (next.map f)
  | openSocket next => openSocket (next.map f)
  | openDevice path next => openDevice path (next.map f)
  | control descriptor kind request next =>
    control descriptor kind request fun record => (next record).map f

/-- A plan of control requests and nothing else. -/
def IsControl : Plan α → Prop
  | done _ => True
  | control _ _ _ next => ∀ record, (next record).IsControl
  | _ => False

/-- The calls that are made of a plan, up to the first that fails, and what comes of it. -/
inductive Run : Plan α → List Transaction → Except Error α → Prop
  | done {value : α} : Run (.done value) [] (.ok value)
  | taken {name : String} {next : Plan α} :
    Run (.lookUp name next) [.lookUp name true] (.error (.refused .create Errno.alreadyExists))
  | free {name : String} {next : Plan α} {log : List Transaction} {result : Except Error α} :
    Run next log result → Run (.lookUp name next) (.lookUp name false :: log) result
  | noSocket {next : Plan α} (code : Errno) :
    Run (.openSocket next) [.openSocket (.error code)] (.error (.unavailable .controlSocket code))
  | socket {next : Plan α} {log : List Transaction} {result : Except Error α} :
    Run next log result → Run (.openSocket next) (.openSocket (.ok ()) :: log) result
  | noDevice {path : String} {next : Plan α} (code : Errno) :
    Run (.openDevice path next) [.openDevice path (.error code)]
      (.error (.unavailable .deviceOpen code))
  | device {path : String} {next : Plan α} {log : List Transaction} {result : Except Error α} :
    Run next log result → Run (.openDevice path next) (.openDevice path (.ok ()) :: log) result
  | refused {descriptor : Descriptor} {kind : DescriptorKind} {request : ControlRequest}
    {next : InterfaceRecord → Plan α} (code : Errno) :
    Run (.control descriptor kind request next) [.control descriptor kind request (.error code)]
      (.error (.refused request.kind.stage code))
  | granted {descriptor : Descriptor} {kind : DescriptorKind} {request : ControlRequest}
    {next : InterfaceRecord → Plan α} {record : InterfaceRecord} {log : List Transaction}
    {result : Except Error α} :
    Run (next record) log result →
    Run (.control descriptor kind request next)
      (.control descriptor kind request (.ok record) :: log) result

variable {plan : Plan α} {result : Except Error α}

/-- What a run amounts to: all calls went well, or the last one failed, and no other. -/
def EndsAtFirstFailure (log : List Transaction) : Except Error α → Prop
  | .ok _ => ∀ transaction ∈ log, transaction.error? = none
  | .error e => ∃ front last, log = front ++ [last] ∧ last.error? = some e ∧
    ∀ transaction ∈ front, transaction.error? = none

theorem EndsAtFirstFailure.single {transaction : Transaction} {e : Error}
    (h : transaction.error? = some e) :
    EndsAtFirstFailure [transaction] (.error e : Except Error α) :=
  ⟨[], transaction, rfl, h, List.forall_mem_nil _⟩

theorem EndsAtFirstFailure.cons {transaction : Transaction} (h : transaction.error? = none)
    (hlog : EndsAtFirstFailure log result) : EndsAtFirstFailure (transaction :: log) result := by
  cases result with
  | ok value => exact List.forall_mem_cons.2 ⟨h, hlog⟩
  | error e =>
    obtain ⟨front, last, rfl, hlast, hfront⟩ := hlog
    exact ⟨transaction :: front, last, rfl, hlast, List.forall_mem_cons.2 ⟨h, hfront⟩⟩

/-- **A run ends with the first call that fails**, and comes to the failure of that call. -/
theorem Run.first_failure (h : plan.Run log result) : EndsAtFirstFailure log result := by
  induction h with
  | done => exact List.forall_mem_nil _
  | taken => exact .single rfl
  | free _ ih => exact ih.cons rfl
  | noSocket code => exact .single rfl
  | socket _ ih => exact ih.cons rfl
  | noDevice code => exact .single rfl
  | device _ ih => exact ih.cons rfl
  | refused code => exact .single rfl
  | granted _ ih => exact ih.cons rfl

theorem Run.map (h : plan.Run log result) (f : α → β) :
    (plan.map f).Run log (result.map f) := by
  induction h with
  | done => exact .done
  | taken => exact .taken
  | free _ ih => exact .free ih
  | noSocket code => exact .noSocket code
  | socket _ ih => exact .socket ih
  | noDevice code => exact .noDevice code
  | device _ ih => exact .device ih
  | refused code => exact .refused code
  | granted _ ih => exact .granted ih

/-- Control requests close nothing, and leave the descriptors as they are. -/
theorem Run.of_isControl (h : plan.Run log result) (hplan : plan.IsControl) :
    unclosed log = log ∧ ∀ t : DescriptorTable, t.afterAll log = t := by
  induction h with
  | done => exact ⟨rfl, fun _ => rfl⟩
  | refused code => exact ⟨rfl, fun _ => rfl⟩
  | granted _ ih =>
    obtain ⟨hunclosed, hafter⟩ := ih (hplan _)
    exact ⟨congrArg _ hunclosed, hafter⟩
  | _ => exact hplan.elim

/-! ### What a plan asks for -/

/-- Every control request of the plan is one of `P`, whatever the kernel answers on the way. -/
def Asks (P : ControlRequest → Prop) : Plan α → Prop
  | done _ => True
  | lookUp _ next => next.Asks P
  | openSocket next => next.Asks P
  | openDevice _ next => next.Asks P
  | control _ _ request next => P request ∧ ∀ record, (next record).Asks P

theorem Asks.mono {P Q : ControlRequest → Prop} (h : plan.Asks P)
    (himp : ∀ request, P request → Q request) : plan.Asks Q := by
  induction plan with
  | done => exact trivial
  | lookUp _ _ ih => exact ih h
  | openSocket _ ih => exact ih h
  | openDevice _ _ ih => exact ih h
  | control _ _ _ _ ih => exact ⟨himp _ h.1, fun record => ih record (h.2 record)⟩

theorem Asks.map {P : ControlRequest → Prop} (h : plan.Asks P) (f : α → β) :
    (plan.map f).Asks P := by
  induction plan with
  | done => exact trivial
  | lookUp _ _ ih => exact ih h
  | openSocket _ ih => exact ih h
  | openDevice _ _ ih => exact ih h
  | control _ _ _ _ ih => exact ⟨h.1, fun record => ih record (h.2 record)⟩

/-! ### What a plan assures -/

/-- If every transaction is as assumed, by `H`, then every transaction is as assured, by `P`, and so
is what the plan leads to, by `Q`. -/
def Assures (H P : Transaction → Prop) (Q : α → Prop) : Plan α → Prop
  | done value => Q value
  | lookUp name next => (∀ found, P (.lookUp name found)) ∧ next.Assures H P Q
  | openSocket next => (∀ answer, P (.openSocket answer)) ∧ next.Assures H P Q
  | openDevice path next => (∀ answer, P (.openDevice path answer)) ∧ next.Assures H P Q
  | control descriptor kind request next =>
    (∀ answer, P (.control descriptor kind request answer)) ∧
      ∀ record, H (.control descriptor kind request (.ok record)) → (next record).Assures H P Q

section Assures

variable {H P : Transaction → Prop}

theorem Assures.map {Q : β → Prop} {f : α → β} (h : plan.Assures H P fun a => Q (f a)) :
    (plan.map f).Assures H P Q := by
  induction plan with
  | done => exact h
  | lookUp _ _ ih => exact ⟨h.1, ih h.2⟩
  | openSocket _ ih => exact ⟨h.1, ih h.2⟩
  | openDevice _ _ ih => exact ⟨h.1, ih h.2⟩
  | control _ _ _ _ ih => exact ⟨h.1, fun record hrecord => ih record (h.2 record hrecord)⟩

/-- **What a plan assures** holds of every run of it. -/
theorem Run.assures {Q : α → Prop} (h : plan.Run log result) (hplan : plan.Assures H P Q)
    (hlog : ∀ transaction ∈ log, H transaction) :
    (∀ transaction ∈ log, P transaction) ∧ ∀ value, result = .ok value → Q value := by
  induction h with
  | done =>
    refine ⟨List.forall_mem_nil _, ?_⟩
    rintro _ ⟨⟩
    exact hplan
  | taken => exact ⟨List.forall_mem_singleton.2 (hplan.1 true), nofun⟩
  | noSocket code => exact ⟨List.forall_mem_singleton.2 (hplan.1 (.error code)), nofun⟩
  | noDevice code => exact ⟨List.forall_mem_singleton.2 (hplan.1 (.error code)), nofun⟩
  | refused code => exact ⟨List.forall_mem_singleton.2 (hplan.1 (.error code)), nofun⟩
  | free _ ih =>
    obtain ⟨hlater, hvalue⟩ := ih hplan.2 (List.forall_mem_cons.1 hlog).2
    exact ⟨List.forall_mem_cons.2 ⟨hplan.1 false, hlater⟩, hvalue⟩
  | socket _ ih =>
    obtain ⟨hlater, hvalue⟩ := ih hplan.2 (List.forall_mem_cons.1 hlog).2
    exact ⟨List.forall_mem_cons.2 ⟨hplan.1 (.ok ()), hlater⟩, hvalue⟩
  | device _ ih =>
    obtain ⟨hlater, hvalue⟩ := ih hplan.2 (List.forall_mem_cons.1 hlog).2
    exact ⟨List.forall_mem_cons.2 ⟨hplan.1 (.ok ()), hlater⟩, hvalue⟩
  | @granted _ _ _ _ record _ _ _ ih =>
    obtain ⟨hfirst, hrest⟩ := List.forall_mem_cons.1 hlog
    obtain ⟨hlater, hvalue⟩ := ih (hplan.2 record hfirst) hrest
    exact ⟨List.forall_mem_cons.2 ⟨hplan.1 (.ok record), hlater⟩, hvalue⟩

/-- A plan assures of its control requests what it asks for. -/
theorem Asks.assures {R : ControlRequest → Prop} (h : plan.Asks R) :
    plan.Assures (fun _ => True)
      (fun transaction => ∀ descriptor kind request answer,
        transaction = .control descriptor kind request answer → R request)
      fun _ => True := by
  induction plan with
  | done => exact trivial
  | lookUp _ _ ih =>
    refine ⟨?_, ih h⟩
    rintro _ _ _ _ _ ⟨⟩
  | openSocket _ ih =>
    refine ⟨?_, ih h⟩
    rintro _ _ _ _ _ ⟨⟩
  | openDevice _ _ ih =>
    refine ⟨?_, ih h⟩
    rintro _ _ _ _ _ ⟨⟩
  | control _ _ _ _ ih =>
    refine ⟨?_, fun record _ => ih record (h.2 record)⟩
    rintro _ _ _ _ _ ⟨⟩
    exact h.1

/-- The control requests that are made in a run are those that the plan asks for. -/
theorem Run.asked {R : ControlRequest → Prop} (h : plan.Run log result) (hplan : plan.Asks R)
    {descriptor : Descriptor} {kind : DescriptorKind} {request : ControlRequest}
    {answer : Except Errno InterfaceRecord}
    (hmem : .control descriptor kind request answer ∈ log) : R request :=
  (h.assures hplan.assures fun _ _ => trivial).1 _ hmem _ _ _ _ rfl

end Assures

/-! ### Actions that follow plans -/

open Machine (Traces)

/-- **A control request** is the first call of a plan, if its failure is the answer and the plan is
followed behind it. -/
theorem traces_control {descriptor : Descriptor} {kind : DescriptorKind}
    (hopen : t.kindOf? descriptor = some kind) {request : ControlRequest}
    {next : InterfaceRecord → Plan α}
    {f : Except Errno InterfaceRecord → Action (Machine κ) (Except Error α)}
    (hfail : ∀ code, f (.error code) = pure (.error (.refused request.kind.stage code)))
    (hnext : ∀ record, Traces kernel t (f (.ok record)) (next record).Run) :
    Traces kernel t (Machine.control kernel descriptor request >>= f)
      (control descriptor kind request next).Run := by
  refine .bind (Machine.traces_control hopen request) ?_
  rintro _ answer rfl
  cases answer with
  | error code =>
    rw [hfail code]
    exact .pure (.refused code)
  | ok record => exact (hnext record).mono fun _ _ h => .granted h

/-- What only finishes an answer follows the plan with another end. -/
theorem traces_map {x : Action (Machine κ) (Except Error α)}
    {f : Except Error α → Action (Machine κ) (Except Error β)} {g : α → β}
    (hx : Traces kernel t x plan.Run) (hfail : ∀ e, f (.error e) = pure (.error e))
    (hok : ∀ a t, Traces kernel t (f (.ok a)) fun log result => log = [] ∧ result = .ok (g a)) :
    Traces kernel t (x >>= f) (plan.map g).Run := by
  refine .bind hx fun log result h => ?_
  cases result with
  | error e =>
    rw [hfail e]
    refine .pure ?_
    rw [List.append_nil]
    exact h.map g
  | ok a =>
    refine (hok a _).mono ?_
    rintro _ _ ⟨rfl, rfl⟩
    rw [List.append_nil]
    exact h.map g

/-- A plan on a device that is kept if all goes well. -/
theorem Run.withDevice {Body : List Transaction → Except Error α → Prop} {device : Descriptor}
    {path : String} {f : α → β} {result : Except Error β}
    (h : WithDevice device path Body f log result)
    (hbody : ∀ log result, Body log result → plan.Run (unclosed log) result) :
    (openDevice path (plan.map f)).Run (unclosed log) result := by
  cases h with
  | unopened code => exact .noDevice code
  | @undone log e hlog =>
    have hunclosed : unclosed (log ++ [.close device .device]) = unclosed log := by
      rw [Transaction.unclosed_append]
      exact List.append_nil _
    show (openDevice path (plan.map f)).Run
      (.openDevice path (.ok ()) :: unclosed (log ++ [.close device .device])) _
    rw [hunclosed]
    exact .device ((hbody _ _ hlog).map f)
  | kept hlog => exact .device ((hbody _ _ hlog).map f)

/-- What is open besides a device stays open. -/
theorem kindOf?_withDevice {Body : List Transaction → Except Error α → Prop} {path : String}
    {f : α → β} {result : Except Error β} (h : WithDevice t.next path Body f log result)
    (hbody : ∀ log result, Body log result → (t.add .device).afterAll log = t.add .device)
    {descriptor : Descriptor} (hne : descriptor ≠ t.next) :
    (t.afterAll log).kindOf? descriptor = t.kindOf? descriptor := by
  cases h with
  | unopened code => rfl
  | @undone log e hlog =>
    show ((t.add .device).afterAll (log ++ [.close t.next .device])).kindOf? descriptor = _
    rw [DescriptorTable.afterAll_append, hbody _ _ hlog]
    show ((t.add .device).erase t.next).kindOf? descriptor = _
    rw [DescriptorTable.kindOf?_erase_of_ne hne, DescriptorTable.kindOf?_add_of_ne hne]
  | @kept log a hlog =>
    show ((t.add .device).afterAll log).kindOf? descriptor = _
    rw [hbody _ _ hlog, DescriptorTable.kindOf?_add_of_ne hne]

/-! ### Bringing an interface up -/

/-- An interface is brought up: `SIOCGIFFLAGS` under its name, then `SIOCSIFFLAGS` with the record
as the kernel left it and `IFF_UP` added to the flags. -/
def bringUp (socket : Descriptor) (name : String) (value : α) : Plan α :=
  control socket .control
    (.onInterface .getFlags ⟨NameField.ofName name, 0, .replicate 22 0⟩) fun shown =>
  control socket .control
    (.onInterface .setFlags ⟨shown.name, shown.flags ||| 1, shown.rest⟩) fun _ => done value

theorem traces_setUp {socket : Descriptor} (hopen : t.kindOf? socket = some .control)
    (name : String) :
    Traces kernel t (setUp kernel socket name) (bringUp socket name ()).Run := by
  refine traces_control hopen (fun _ => rfl) fun shown => ?_
  refine traces_control hopen (fun _ => rfl) fun _ => ?_
  exact .pure .done

theorem Run.eq_of_bringUp {socket : Descriptor} {name : String} {value a : α}
    (h : (bringUp socket name value).Run log (.ok a)) : a = value := by
  cases h with
  | granted hset =>
    cases hset with
    | granted hdone =>
      cases hdone with
      | done => rfl

end Plan

open Tunnel.Action (Silent silent_state silent_pure) in
theorem silent_setUp (kernel : Kernel κ) (socket : Descriptor) (name : String) :
    Silent (setUp kernel socket name) := by
  refine .bind (silent_state _) fun answer => ?_
  cases answer with
  | error code => exact silent_pure _
  | ok record =>
    refine .bind (silent_state _) fun answer => ?_
    cases answer <;> exact silent_pure _

end Tunnel
