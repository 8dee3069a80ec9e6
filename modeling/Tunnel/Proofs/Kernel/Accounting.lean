import Tunnel.Proofs.Kernel.Tracing
import Tunnel.Proofs.Notices

/-!
# What actions do and state

An action is traced by its transactions, and its notices are told apart from them. Where a notice
tells of a transaction, the two have to be followed together.

## Main definitions

* `Machine.Accounts` — what an action does and states, at a table

## Main results

* `Machine.Traces.accounts` — an action whose notices follow from its answer
* `Machine.Accounts.bind` — two steps, one after the other
* `Machine.accounts_withSocket`, `Machine.traces_withSocket` — a socket that is open for as long as
  an action lasts
-/

namespace Tunnel.Machine

variable {κ α β : Type} {kernel : Kernel κ} {t : DescriptorTable}

open Transaction (WithSocket)

/-- On every machine with this table, the action does what `P` says, of its transactions, its
notices and its answer. -/
def Accounts (kernel : Kernel κ) (t : DescriptorTable) (x : Action (Machine κ) α)
    (P : List Transaction → List Notice → α → Prop) : Prop :=
  ∀ m : Machine κ, m.table = t →
    ∃ log, Did kernel m log (x.run m).world ∧ P log (x.run m).notices (x.run m).answer

theorem Traces.accounts {x : Action (Machine κ) α} {P : List Transaction → α → Prop}
    {Q : List Notice → α → Prop} (hx : Traces kernel t x P) (hstates : x.States Q) :
    Accounts kernel t x fun log notices a => P log a ∧ Q notices a := by
  intro m hm
  obtain ⟨log, hdid, hP⟩ := hx m hm
  exact ⟨log, hdid, hP, hstates m⟩

theorem Traces.silent {x : Action (Machine κ) α} {P : List Transaction → α → Prop}
    (hx : Traces kernel t x P) (hsilent : x.Silent) :
    Accounts kernel t x fun log notices a => P log a ∧ notices = [] :=
  hx.accounts hsilent

namespace Accounts

variable {x : Action (Machine κ) α} {P Q : List Transaction → List Notice → α → Prop}

protected theorem pure {a : α} (h : P [] [] a) : Accounts kernel t (pure a) P :=
  fun m _ => ⟨[], .nothing kernel m, h⟩

/-- **Sequencing.** The second step meets the table that the first one left, and its notices come
behind those of the first. -/
protected theorem bind {f : α → Action (Machine κ) β}
    {R : List Transaction → List Notice → β → Prop} (hx : Accounts kernel t x P)
    (hf : ∀ log notices a, P log notices a →
      Accounts kernel (t.afterAll log) (f a) fun later told b =>
        R (log ++ later) (notices ++ told) b) :
    Accounts kernel t (x >>= f) R := by
  intro m hm
  obtain ⟨log, hdid, hP⟩ := hx m hm
  obtain ⟨later, hlater, hR⟩ := hf log _ _ hP (x.run m).world (by rw [hdid.table, hm])
  exact ⟨log ++ later, hdid.append hlater, hR⟩

theorem tell_bind {notice : Notice} {f : Unit → Action (Machine κ) α}
    (h : Accounts kernel t (f ()) fun log notices => P log (notice :: notices)) :
    Accounts kernel t (Action.tell notice >>= f) P := by
  refine .bind (P := fun log notices _ => log = [] ∧ notices = [notice]) ?_ ?_
  · exact fun m _ => ⟨[], .nothing kernel m, rfl, rfl⟩
  · rintro _ _ _ ⟨rfl, rfl⟩
    exact h

theorem mono (hx : Accounts kernel t x P)
    (h : ∀ log notices a, P log notices a → Q log notices a) : Accounts kernel t x Q := by
  intro m hm
  obtain ⟨log, hdid, hP⟩ := hx m hm
  exact ⟨log, hdid, h _ _ _ hP⟩

/-- A system call states nothing. -/
theorem of_state {step : Machine κ → α × Machine κ} {P : List Transaction → α → Prop}
    (h : Traces kernel t (Action.state step) P) :
    Accounts kernel t (Action.state step) fun log notices a => P log a ∧ notices = [] :=
  h.silent (Action.silent_state step)

end Accounts

/-! ### Sockets -/

/-- An action between the opening and the closing of a socket, for whatever is said of all three. -/
theorem accounts_withSocket {Body Made : List Transaction → List Notice → Except Error α → Prop}
    {body : Descriptor → Action (Machine κ) (Except Error α)} {stage : Stage}
    (hbody : Accounts kernel (t.add .control) (body t.next) fun log notices result =>
      ((t.add .control).afterAll log).kindOf? t.next = some .control ∧ Body log notices result)
    (hunopened : ∀ code, Made [.openSocket (.error code)] [] (.error (.unavailable stage code)))
    (hopened : ∀ log notices result, Body log notices result →
      Made (.openSocket (.ok ()) :: log ++ [.close t.next .control]) notices result) :
    Accounts kernel t (withSocket kernel stage body) Made := by
  refine .bind (.of_state traces_openSocket) ?_
  rintro _ _ _ ⟨⟨answer, rfl, rfl⟩, rfl⟩
  cases answer with
  | error code => exact .pure (hunopened code)
  | ok _ =>
    refine .bind hbody ?_
    rintro log notices result ⟨hstill, hlog⟩
    refine .bind (.of_state (traces_close hstill)) ?_
    rintro _ _ _ ⟨rfl, rfl⟩
    refine .pure ?_
    simp only [List.append_nil, List.nil_append]
    exact hopened log notices result hlog

theorem traces_withSocket {Body : List Transaction → Except Error α → Prop}
    {body : Descriptor → Action (Machine κ) (Except Error α)} {stage : Stage}
    (hbody : Traces kernel (t.add .control) (body t.next) Body)
    (hstill : ∀ log result, Body log result →
      ((t.add .control).afterAll log).kindOf? t.next = some .control) :
    Traces kernel t (withSocket kernel stage body) (WithSocket t.next stage Body) := by
  have hstillBody : Accounts kernel (t.add .control) (body t.next) fun log _ result =>
      ((t.add .control).afterAll log).kindOf? t.next = some .control ∧ Body log result := by
    intro m hm
    obtain ⟨log, hdid, hlog⟩ := hbody m hm
    exact ⟨log, hdid, hstill _ _ hlog, hlog⟩
  have hall : Accounts kernel t (withSocket kernel stage body) fun log _ result =>
      WithSocket t.next stage Body log result :=
    accounts_withSocket hstillBody .unopened fun _ _ _ => .opened
  exact hall

end Tunnel.Machine
