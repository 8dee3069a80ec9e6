import Tunnel.Proofs.Kernel.Transaction
import Tunnel.Proofs.Lookup

/-!
# Tracing actions on a machine

What an action does on a machine, stated for all machines with a given table of descriptors: the
transactions that it makes, related to its answer. The table is all of the machine that an action's
course can hang on, other than the answers of the kernel, and the transactions tell how the table
goes on. So such statements follow the steps of an action, each step at the table that the steps
before it left.

Two shapes of action come back on every platform: a socket that is open for as long as an action
lasts, and a device that is kept only if an action goes well.

## Main definitions

* `Machine.Traces` — what an action does, at a table
* `DescriptorTable.Opens` — transactions that leave something open, and what they found
* `Machine.withSocket`, `Machine.withDevice` — the two shapes
* `Transaction.WithSocket`, `Transaction.WithDevice` — their transactions

## Main results

* `Machine.Traces.bind` — what two steps do, one after the other
* `Machine.traces_openSocket`, `Machine.traces_openDevice`, `Machine.traces_control`,
  `Machine.traces_closing`, `Machine.traces_interfaceExists` — the system calls
* `Machine.traces_withDevice` — an action of the second shape
* `Transaction.WithSocket.opens`, `Transaction.WithDevice.opens` — and what they leave open
-/

namespace Tunnel

variable {κ α β : Type} {kernel : Kernel κ} {t : DescriptorTable}

namespace Machine

/-- On every machine with this table, the action does what `P` says, of its transactions and its
answer. -/
def Traces (kernel : Kernel κ) (t : DescriptorTable) (x : Action (Machine κ) α)
    (P : List Transaction → α → Prop) : Prop :=
  ∀ m : Machine κ, m.table = t →
    ∃ log, Did kernel m log (x.run m).world ∧ P log (x.run m).answer

namespace Traces

protected theorem pure {a : α} {P : List Transaction → α → Prop} (h : P [] a) :
    Traces kernel t (pure a) P :=
  fun m _ => ⟨[], .nothing kernel m, h⟩

protected theorem tell {notice : Notice} {P : List Transaction → Unit → Prop} (h : P [] ()) :
    Traces kernel t (Action.tell notice) P :=
  fun m _ => ⟨[], .nothing kernel m, h⟩

/-- **Sequencing.** The second step meets the table that the first one left. -/
protected theorem bind {x : Action (Machine κ) α} {f : α → Action (Machine κ) β}
    {P : List Transaction → α → Prop} {Q : List Transaction → β → Prop}
    (hx : Traces kernel t x P)
    (hf : ∀ log a, P log a →
      Traces kernel (t.afterAll log) (f a) fun later b => Q (log ++ later) b) :
    Traces kernel t (x >>= f) Q := by
  intro m hm
  obtain ⟨log, hdid, hP⟩ := hx m hm
  obtain ⟨later, hlater, hQ⟩ := hf log _ hP (x.run m).world (by rw [hdid.table, hm])
  exact ⟨log ++ later, hdid.append hlater, hQ⟩

/-- A notice on the way changes nothing of what is done. -/
theorem tell_bind {notice : Notice} {f : Unit → Action (Machine κ) α}
    {P : List Transaction → α → Prop} (h : Traces kernel t (f ()) P) :
    Traces kernel t (Action.tell notice >>= f) P := by
  refine .bind (P := fun log _ => log = []) (.tell rfl) ?_
  rintro _ _ rfl
  exact h

theorem mono {x : Action (Machine κ) α} {P Q : List Transaction → α → Prop}
    (hx : Traces kernel t x P) (h : ∀ log a, P log a → Q log a) : Traces kernel t x Q := by
  intro m hm
  obtain ⟨log, hdid, hP⟩ := hx m hm
  exact ⟨log, hdid, h _ _ hP⟩

/-- Whatever was done was permitted. -/
theorem permitted {x : Action (Machine κ) α} {P : List Transaction → α → Prop}
    (h : Traces kernel t x P) :
    Traces kernel t x fun log a => P log a ∧ t.Along DescriptorTable.Permits log := by
  rintro m rfl
  obtain ⟨log, hdid, hP⟩ := h m rfl
  exact ⟨log, hdid, hP, hdid.permitted⟩

end Traces

/-! ### System calls -/

theorem traces_interfaceExists (name : String) :
    Traces kernel t (interfaceExists kernel name) fun log found => log = [.lookUp name found] :=
  fun _ _ => ⟨[.lookUp name _], .once rfl rfl rfl trivial, rfl⟩

theorem traces_openSocket :
    Traces kernel t (openSocket kernel) fun log a =>
      ∃ answer, log = [.openSocket answer] ∧ a = answer.map fun _ => t.next := by
  rintro m rfl
  obtain ⟨answer, after, h⟩ : ∃ answer after, kernel.openSocket m.kernel = (answer, after) :=
    ⟨_, _, rfl⟩
  simp only [openSocket, Action.run_state, h]
  cases answer with
  | error code =>
    exact ⟨[.openSocket (.error code)], .once h rfl rfl trivial, .error code, rfl, rfl⟩
  | ok _ => exact ⟨[.openSocket (.ok ())], .once h rfl rfl trivial, .ok (), rfl, rfl⟩

theorem traces_openDevice (path : String) :
    Traces kernel t (openDevice kernel path) fun log a =>
      ∃ answer, log = [.openDevice path answer] ∧ a = answer.map fun _ => t.next := by
  rintro m rfl
  obtain ⟨answer, after, h⟩ : ∃ answer after, kernel.openDevice path m.kernel = (answer, after) :=
    ⟨_, _, rfl⟩
  simp only [openDevice, Action.run_state, h]
  cases answer with
  | error code =>
    exact ⟨[.openDevice path (.error code)], .once h rfl rfl trivial, .error code, rfl, rfl⟩
  | ok _ => exact ⟨[.openDevice path (.ok ())], .once h rfl rfl trivial, .ok (), rfl, rfl⟩

/-- A control request on an open descriptor reaches the kernel. -/
theorem traces_control {descriptor : Descriptor} {kind : DescriptorKind}
    (hopen : t.kindOf? descriptor = some kind) (request : ControlRequest) :
    Traces kernel t (control kernel descriptor request) fun log answer =>
      log = [.control descriptor kind request answer] := by
  rintro m rfl
  have hkind : m.kindOf? descriptor = some kind := hopen
  simp only [control, Action.run_state, hkind]
  exact ⟨[.control descriptor kind request _], .once rfl rfl rfl hopen, rfl⟩

/-- A descriptor is closed, if it is open. -/
theorem traces_closing (descriptor : Descriptor) :
    Traces kernel t (close kernel descriptor) fun log _ => log = t.closing descriptor := by
  rintro m rfl
  cases hkind : m.kindOf? descriptor with
  | none =>
    have hnothing : m.table.closing descriptor = [] := DescriptorTable.closing_eq_nil hkind
    have hrun : (close kernel descriptor).run m = ⟨(), [], m⟩ := by simp [close, hkind]
    rw [hrun, hnothing]
    exact ⟨[], .nothing kernel m, rfl⟩
  | some kind =>
    have hopen : m.table.kindOf? descriptor = some kind := hkind
    rw [run_close hkind, DescriptorTable.closing_eq hopen]
    exact ⟨[.close descriptor kind], .once rfl rfl rfl hopen, rfl⟩

/-- An open descriptor is closed. -/
theorem traces_close {descriptor : Descriptor} {kind : DescriptorKind}
    (hopen : t.kindOf? descriptor = some kind) :
    Traces kernel t (close kernel descriptor) fun log _ => log = [.close descriptor kind] :=
  DescriptorTable.closing_eq hopen ▸ traces_closing descriptor

end Machine

/-! ### What is left open -/

namespace DescriptorTable

/-- The transactions leave open what was open, and `added`, of which nothing was given out before.
-/
structure Opens (t : DescriptorTable) (log : List Transaction)
    (added : List (Descriptor × DescriptorKind)) : Prop where
  opened_eq : (t.afterAll log).opened = added ++ t.opened
  next_le : ∀ entry ∈ added, t.next ≤ entry.1

/-- Every open descriptor was given out before. -/
def Bounded (t : DescriptorTable) : Prop := ∀ entry ∈ t.opened, entry.1 < t.next

theorem Bounded.add (h : t.Bounded) (kind : DescriptorKind) : (t.add kind).Bounded :=
  List.forall_mem_cons.2 ⟨Nat.lt_succ_self _, fun entry hmem => Nat.lt_succ_of_lt (h entry hmem)⟩

theorem kindOf?_add_next (t : DescriptorTable) (kind : DescriptorKind) :
    (t.add kind).kindOf? t.next = some kind := by
  rw [kindOf?, add, List.lookup_cons_self]

/-- Opening something changes nothing for the numbers of other descriptors. -/
theorem kindOf?_add_of_ne {t : DescriptorTable} {descriptor : Descriptor}
    (h : descriptor ≠ t.next) (kind : DescriptorKind) :
    (t.add kind).kindOf? descriptor = t.kindOf? descriptor := by
  show ((t.next, kind) :: t.opened).lookup descriptor = _
  rw [List.lookup_cons, beq_false_of_ne h]
  rfl

/-- Neither does closing something. -/
theorem kindOf?_erase_of_ne {t : DescriptorTable} {descriptor other : Descriptor}
    (h : descriptor ≠ other) : (t.erase other).kindOf? descriptor = t.kindOf? descriptor :=
  List.lookup_filter_of_ne h t.opened

theorem Bounded.erase (h : t.Bounded) (descriptor : Descriptor) : (t.erase descriptor).Bounded :=
  fun entry hmem => h entry (List.mem_of_mem_filter hmem)

theorem filter_opened {opened : List (Descriptor × DescriptorKind)} {descriptor : Descriptor}
    (h : ∀ entry ∈ opened, entry.1 ≠ descriptor) :
    (opened.filter fun entry => entry.1 != descriptor) = opened :=
  List.filter_eq_self.2 fun entry hmem => bne_iff_ne.2 (h entry hmem)

namespace Opens

variable {log : List Transaction} {added : List (Descriptor × DescriptorKind)}

theorem nothing (h : t.afterAll log = t) : t.Opens log [] :=
  ⟨congrArg opened h, fun _ hmem => absurd hmem List.not_mem_nil⟩

theorem prepend {front : List Transaction} (hfront : t.afterAll front = t)
    (h : t.Opens log added) : t.Opens (front ++ log) added where
  opened_eq := by rw [afterAll_append, hfront, h.opened_eq]
  next_le := h.next_le

section Control

/-! A control request opens nothing, wherever it stands. -/

variable (descriptor : Descriptor) (kind : DescriptorKind) (request : ControlRequest)
  (answer : Except Errno InterfaceRecord)

theorem cons_control (h : t.Opens log added) :
    t.Opens (.control descriptor kind request answer :: log) added where
  opened_eq := h.opened_eq
  next_le := h.next_le

theorem concat_control (h : t.Opens log added) :
    t.Opens (log ++ [.control descriptor kind request answer]) added where
  opened_eq := by
    rw [afterAll_append]
    exact h.opened_eq
  next_le := h.next_le

end Control

/-- Once the descriptor that was given out first is closed, what was added is all that is left. -/
theorem close_next {kind : DescriptorKind} (hbounded : t.Bounded)
    (h : (t.add kind).Opens log added) {transaction : Transaction}
    (hopens : t.after transaction = t.add kind) :
    t.Opens (transaction :: log ++ [.close t.next kind]) added where
  opened_eq := by
    have hadded : ∀ entry ∈ added, entry.1 ≠ t.next := fun entry hmem =>
      Nat.ne_of_gt (h.next_le entry hmem)
    have hbefore : ∀ entry ∈ t.opened, entry.1 ≠ t.next := fun entry hmem =>
      Nat.ne_of_lt (hbounded entry hmem)
    rw [List.cons_append, ← List.singleton_append, afterAll_append, afterAll_append]
    show (((t.after transaction).afterAll log).erase t.next).opened = _
    rw [hopens, DescriptorTable.erase, h.opened_eq, List.filter_append, filter_opened hadded]
    show added ++ List.filter _ ((t.next, kind) :: t.opened) = _
    rw [List.filter_cons_of_neg (by simp), filter_opened hbefore]
  next_le := fun entry hmem => Nat.le_of_succ_le (h.next_le entry hmem)

end Opens

end DescriptorTable

/-! ### Sockets and devices -/

namespace Transaction

/-- A socket that is open for as long as `Body` lasts. -/
inductive WithSocket (socket : Descriptor) (stage : Stage)
    (Body : List Transaction → Except Error α → Prop) : List Transaction → Except Error α → Prop
  | unopened (code : Errno) :
    WithSocket socket stage Body [.openSocket (.error code)] (.error (.unavailable stage code))
  | opened {log : List Transaction} {result : Except Error α} :
    Body log result →
    WithSocket socket stage Body (.openSocket (.ok ()) :: log ++ [.close socket .control]) result

/-- A device that is kept only if `Body` goes well. -/
inductive WithDevice (device : Descriptor) (path : String)
    (Body : List Transaction → Except Error α → Prop) (f : α → β) :
    List Transaction → Except Error β → Prop
  | unopened (code : Errno) :
    WithDevice device path Body f [.openDevice path (.error code)]
      (.error (.unavailable .deviceOpen code))
  | undone {log : List Transaction} {e : Error} :
    Body log (.error e) →
    WithDevice device path Body f (.openDevice path (.ok ()) :: log ++ [.close device .device])
      (.error e)
  | kept {log : List Transaction} {a : α} :
    Body log (.ok a) →
    WithDevice device path Body f (.openDevice path (.ok ()) :: log) (.ok (f a))

/-- What an answer holds, if it is a success. -/
def heldBy {γ : Type} (held : α → List γ) : Except Error α → List γ
  | .ok a => held a
  | .error _ => []

theorem mem_toList_toOption {result : Except Error α} {a : α} :
    a ∈ result.toOption.toList ↔ result = .ok a := by
  cases result <;> simp [Except.toOption, eq_comm]

theorem heldBy_singleton {γ : Type} (f : α → γ) (result : Except Error α) :
    heldBy (fun a => [f a]) result = result.toOption.toList.map f := by
  cases result <;> rfl

variable {Body Other : List Transaction → Except Error α → Prop} {log : List Transaction}

theorem WithSocket.mono {socket : Descriptor} {stage : Stage} {result : Except Error α}
    (h : WithSocket socket stage Body log result)
    (hbody : ∀ log result, Body log result → Other log result) :
    WithSocket socket stage Other log result := by
  cases h with
  | unopened code => exact .unopened code
  | opened hlog => exact .opened (hbody _ _ hlog)

theorem WithDevice.mono {device : Descriptor} {path : String} {f : α → β} {result : Except Error β}
    (h : WithDevice device path Body f log result)
    (hbody : ∀ log result, Body log result → Other log result) :
    WithDevice device path Other f log result := by
  cases h with
  | unopened code => exact .unopened code
  | undone hlog => exact .undone (hbody _ _ hlog)
  | kept hlog => exact .kept (hbody _ _ hlog)

/-- Of a socket nothing is left. -/
theorem WithSocket.opens {stage : Stage} {held : α → List (Descriptor × DescriptorKind)}
    {result : Except Error α} (h : WithSocket t.next stage Body log result) (hbounded : t.Bounded)
    (hbody : ∀ log result, Body log result → (t.add .control).Opens log (heldBy held result)) :
    t.Opens log (heldBy held result) := by
  cases h with
  | unopened code => exact .nothing rfl
  | opened hlog => exact (hbody _ _ hlog).close_next hbounded rfl

/-- Of a device it is left what the answer holds. -/
theorem WithDevice.opens {path : String} {f : α → β}
    {held : β → List (Descriptor × DescriptorKind)} {result : Except Error β}
    (h : WithDevice t.next path Body f log result) (hbounded : t.Bounded)
    (hbody : ∀ log result, Body log result → (t.add .device).afterAll log = t.add .device)
    (hheld : ∀ a, held (f a) = [(t.next, .device)]) : t.Opens log (heldBy held result) := by
  cases h with
  | unopened code => exact .nothing rfl
  | undone hlog =>
    exact (DescriptorTable.Opens.nothing (hbody _ _ hlog)).close_next hbounded rfl
  | kept hlog =>
    rw [heldBy, hheld]
    constructor
    · exact congrArg DescriptorTable.opened (hbody _ _ hlog)
    · exact List.forall_mem_singleton.2 (Nat.le_refl _)

end Transaction

open Transaction (WithSocket WithDevice)

namespace Machine

/-- Opens a socket, carries an action out, and closes the socket. -/
def withSocket (kernel : Kernel κ) (stage : Stage)
    (body : Descriptor → Action (Machine κ) (Except Error α)) :
    Action (Machine κ) (Except Error α) := do
  match ← openSocket kernel with
  | .error code => return .error (.unavailable stage code)
  | .ok socket =>
    let result ← body socket
    close kernel socket
    return result

/-- Opens a device and carries an action out. If that goes well, `finish` has the answer; if not,
the device is closed. -/
def withDevice (kernel : Kernel κ) (path : String)
    (body : Descriptor → Action (Machine κ) (Except Error α))
    (finish : Descriptor → α → Action (Machine κ) (Except Error β)) :
    Action (Machine κ) (Except Error β) := do
  match ← openDevice kernel path with
  | .error code => return .error (.unavailable .deviceOpen code)
  | .ok device =>
    match ← body device with
    | .error e =>
      close kernel device
      return .error e
    | .ok a => finish device a

theorem traces_withDevice {Body : List Transaction → Except Error α → Prop}
    {body : Descriptor → Action (Machine κ) (Except Error α)}
    {finish : Descriptor → α → Action (Machine κ) (Except Error β)} {f : α → β} {path : String}
    (hbody : Traces kernel (t.add .device) (body t.next) Body)
    (hquiet : ∀ log result, Body log result → (t.add .device).afterAll log = t.add .device)
    (hfinish : ∀ a, Traces kernel (t.add .device) (finish t.next a) fun log result =>
      log = [] ∧ result = .ok (f a)) :
    Traces kernel t (withDevice kernel path body finish) (WithDevice t.next path Body f) := by
  refine .bind (traces_openDevice path) ?_
  rintro _ _ ⟨answer, rfl, rfl⟩
  cases answer with
  | error code => exact .pure (.unopened code)
  | ok _ =>
    refine .bind hbody ?_
    intro log result hlog
    have htable : (t.afterAll [.openDevice path (.ok ())]).afterAll log = t.add .device :=
      hquiet log result hlog
    rw [htable]
    cases result with
    | error e =>
      refine .bind (traces_close (t.kindOf?_add_next .device)) ?_
      rintro _ _ rfl
      exact .pure (.undone hlog)
    | ok a =>
      refine (hfinish a).mono ?_
      rintro _ _ ⟨rfl, rfl⟩
      rw [List.append_nil]
      exact .kept hlog

end Machine

end Tunnel
