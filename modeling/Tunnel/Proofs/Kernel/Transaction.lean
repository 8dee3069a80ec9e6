import Mathlib.Data.List.Perm.Basic
import Mathlib.Data.List.Range
import Tunnel.Kernel.Machine

/-!
# Transactions with the kernel

A transaction is a system call with the whole of its answer. What a machine has done since some
earlier moment is a list of them: it leads the kernel from its state then to its state now, and
stands behind the calls on record and the descriptors that are open. Closing comes with a law: only
an open descriptor is closed, and so every descriptor that was ever given out has been closed once,
or is still open.

## Main definitions

* `Transaction` — a system call with its answer
* `DescriptorTable` — the open descriptors and the number of the next one
* `DescriptorTable.closing` — the closing of a descriptor, if it is open
* `DescriptorTable.Along` — something holds of each transaction, at the table it meets
* `DescriptorTable.Balanced` — what was given out was closed, or is open
* `Kernel.Trace` — transactions that lead a kernel from one state to another
* `Machine.Did` — what a machine has done

## Main results

* `DescriptorTable.Balanced.after`, `DescriptorTable.Balanced.afterAll` — a transaction keeps the
  balance, and so does a run of them
* `Machine.Did.append` — one thing done after another
-/

namespace Tunnel

/-- A system call with its answer. -/
inductive Transaction
  | lookUp (name : String) (found : Bool)
  | openSocket (answer : Except Errno Unit)
  | openDevice (path : String) (answer : Except Errno Unit)
  | control (descriptor : Descriptor) (kind : DescriptorKind) (request : ControlRequest)
    (answer : Except Errno InterfaceRecord)
  | close (descriptor : Descriptor) (kind : DescriptorKind)

namespace Transaction

/-- The call as it is recorded. -/
def call : Transaction → SystemCall
  | lookUp name found => .interfaceExists name found
  | openSocket answer => .openSocket (failureOf answer)
  | openDevice path answer => .openDevice path (failureOf answer)
  | control descriptor kind request answer =>
    .control descriptor kind request (failureOf answer)
  | close descriptor kind => .close descriptor kind

/-- The descriptor that the call closes. -/
def closed? : Transaction → Option Descriptor
  | close descriptor _ => some descriptor
  | _ => none

/-- The descriptors that were closed, in order. -/
def closed (log : List Transaction) : List Descriptor := log.filterMap closed?

@[simp] theorem closed_append (log later : List Transaction) :
    closed (log ++ later) = closed log ++ closed later := List.filterMap_append

end Transaction

open Transaction (closed)

/-! ### Tables of descriptors -/

/-- The open descriptors, the latest first, and the number of the next one. -/
structure DescriptorTable where
  opened : List (Descriptor × DescriptorKind)
  next : Descriptor
deriving DecidableEq, Repr

namespace DescriptorTable

/-- The table with nothing open and nothing given out. -/
def empty : DescriptorTable := ⟨[], 0⟩

/-- The table with one more open descriptor. -/
def add (t : DescriptorTable) (kind : DescriptorKind) : DescriptorTable :=
  ⟨(t.next, kind) :: t.opened, t.next + 1⟩

/-- The table without a descriptor. -/
def erase (t : DescriptorTable) (descriptor : Descriptor) : DescriptorTable :=
  { t with opened := t.opened.filter fun entry => entry.1 != descriptor }

/-- What a descriptor is open on, if it is open. -/
def kindOf? (t : DescriptorTable) (descriptor : Descriptor) : Option DescriptorKind :=
  t.opened.lookup descriptor

/-- The devices among the open descriptors. -/
def devices (t : DescriptorTable) : List Descriptor :=
  (t.opened.filter fun entry => entry.2 == .device).map Prod.fst

/-- The table after a transaction. -/
def after (t : DescriptorTable) : Transaction → DescriptorTable
  | .openSocket (.ok ()) => t.add .control
  | .openDevice _ (.ok ()) => t.add .device
  | .close descriptor _ => t.erase descriptor
  | _ => t

/-- The table after transactions. -/
def afterAll (t : DescriptorTable) (log : List Transaction) : DescriptorTable :=
  log.foldl after t

@[simp] theorem afterAll_append (t : DescriptorTable) (log later : List Transaction) :
    t.afterAll (log ++ later) = (t.afterAll log).afterAll later := List.foldl_append

/-- The closing of a descriptor, if it is open. -/
def closing (t : DescriptorTable) (descriptor : Descriptor) : List Transaction :=
  (t.kindOf? descriptor).toList.map (.close descriptor)

section Closing

variable {t : DescriptorTable} {descriptor : Descriptor}

theorem closing_eq {kind : DescriptorKind} (h : t.kindOf? descriptor = some kind) :
    t.closing descriptor = [.close descriptor kind] := by
  rw [closing, h]
  rfl

theorem closing_eq_nil (h : t.kindOf? descriptor = none) : t.closing descriptor = [] := by
  rw [closing, h]
  rfl

/-- After it, the descriptor is not open. -/
theorem afterAll_closing (t : DescriptorTable) (descriptor : Descriptor) :
    t.afterAll (t.closing descriptor) = t.erase descriptor := by
  cases h : t.kindOf? descriptor with
  | some kind =>
    rw [closing_eq h]
    rfl
  | none =>
    have hne : ∀ entry ∈ t.opened, (entry.1 != descriptor) = true := fun entry hmem => by
      have := List.lookup_eq_none_iff.1 h entry hmem
      simpa [bne, Bool.beq_comm] using this
    rw [closing_eq_nil h, erase, List.filter_eq_self.2 hne]
    rfl

end Closing

/-- `R` holds of each transaction, at the table that it meets. -/
def Along (R : DescriptorTable → Transaction → Prop) :
    DescriptorTable → List Transaction → Prop
  | _, [] => True
  | t, transaction :: later => R t transaction ∧ Along R (t.after transaction) later

theorem along_append {R : DescriptorTable → Transaction → Prop} {t : DescriptorTable}
    {log later : List Transaction} :
    t.Along R (log ++ later) ↔ t.Along R log ∧ (t.afterAll log).Along R later := by
  induction log generalizing t with
  | nil => exact (and_iff_right trivial).symm
  | cons transaction log ih =>
    show R t transaction ∧ (t.after transaction).Along R (log ++ later) ↔
      (R t transaction ∧ (t.after transaction).Along R log) ∧ _
    rw [ih, and_assoc]
    rfl

/-- A control request and a closing need an open descriptor. -/
def Permits (t : DescriptorTable) : Transaction → Prop
  | .control descriptor kind _ _ => t.kindOf? descriptor = some kind
  | .close descriptor kind => t.kindOf? descriptor = some kind
  | _ => True

theorem mem_of_kindOf? {t : DescriptorTable} {descriptor : Descriptor} {kind : DescriptorKind}
    (h : t.kindOf? descriptor = some kind) : descriptor ∈ t.opened.map Prod.fst := by
  obtain ⟨front, rest, hsplit, -⟩ := List.lookup_eq_some_iff.1 h
  rw [hsplit, List.map_append]
  exact List.mem_append_right _ List.mem_cons_self

/-! ### Balance -/

/-- The descriptors that were given out are those that were closed and those that are open. -/
def Balanced (t : DescriptorTable) (log : List Transaction) : Prop :=
  (List.range t.next).Perm (closed log ++ t.opened.map Prod.fst)

namespace Balanced

variable {t : DescriptorTable} {log later : List Transaction}

theorem start : empty.Balanced [] := .refl _

theorem nodup (h : t.Balanced log) : (t.opened.map Prod.fst).Nodup :=
  (List.nodup_append.1 (h.nodup_iff.1 List.nodup_range)).2.1

theorem lt_next (h : t.Balanced log) : ∀ entry ∈ t.opened, entry.1 < t.next := by
  intro entry hmem
  have hopened : entry.1 ∈ t.opened.map Prod.fst := List.mem_map_of_mem hmem
  exact List.mem_range.1 (h.mem_iff.2 (List.mem_append_right _ hopened))

theorem add (h : t.Balanced log) (kind : DescriptorKind) : (t.add kind).Balanced log := by
  have hstep : (List.range (t.next + 1)).Perm
      (t.next :: (closed log ++ t.opened.map Prod.fst)) := by
    rw [List.range_succ]
    exact (List.perm_append_singleton _ _).trans (h.cons _)
  exact hstep.trans List.perm_middle.symm

theorem erase (h : t.Balanced log) {descriptor : Descriptor} {kind : DescriptorKind}
    (hopen : t.kindOf? descriptor = some kind) :
    (t.erase descriptor).Balanced (log ++ [.close descriptor kind]) := by
  have hmem : descriptor ∈ t.opened.map Prod.fst := mem_of_kindOf? hopen
  have hfilter : (t.erase descriptor).opened.map Prod.fst =
      (t.opened.map Prod.fst).erase descriptor := by
    rw [h.nodup.erase_eq_filter, List.filter_map]
    rfl
  have hsplit :
      closed (log ++ [.close descriptor kind]) ++ (t.erase descriptor).opened.map Prod.fst =
        closed log ++ descriptor :: (t.opened.map Prod.fst).erase descriptor := by
    rw [hfilter, Transaction.closed_append, List.append_assoc]
    rfl
  show (List.range t.next).Perm _
  rw [hsplit]
  exact h.trans ((List.perm_cons_erase hmem).append_left _)

theorem concat (h : t.Balanced log) {transaction : Transaction}
    (hnone : transaction.closed? = none) : t.Balanced (log ++ [transaction]) := by
  have hclosed : closed [transaction] = [] := List.filterMap_cons_none hnone
  rw [Balanced, Transaction.closed_append, hclosed, List.append_nil]
  exact h

/-- **A transaction keeps the balance**, if it is permitted. -/
theorem after (h : t.Balanced log) {transaction : Transaction} (hp : t.Permits transaction) :
    (t.after transaction).Balanced (log ++ [transaction]) := by
  cases transaction with
  | lookUp name found => exact h.concat rfl
  | openSocket answer =>
    cases answer with
    | error code => exact h.concat rfl
    | ok _ => exact (h.add .control).concat rfl
  | openDevice path answer =>
    cases answer with
    | error code => exact h.concat rfl
    | ok _ => exact (h.add .device).concat rfl
  | control descriptor kind request answer => exact h.concat rfl
  | close descriptor kind => exact h.erase hp

/-- **So does a run of transactions.** -/
theorem afterAll (h : t.Balanced log) (hp : t.Along Permits later) :
    (t.afterAll later).Balanced (log ++ later) := by
  induction later generalizing t log with
  | nil =>
    rw [List.append_nil]
    exact h
  | cons transaction later ih =>
    rw [List.append_cons]
    exact ih (h.after hp.1) hp.2

end Balanced

end DescriptorTable

/-! ### What a machine does -/

/-- The kernel answers the transaction's call as the transaction says, and goes from one state to
the other. -/
def Kernel.Answers {κ : Type} (kernel : Kernel κ) (state after : κ) : Transaction → Prop
  | .lookUp name found => kernel.interfaceExists name state = (found, after)
  | .openSocket answer => kernel.openSocket state = (answer, after)
  | .openDevice path answer => kernel.openDevice path state = (answer, after)
  | .control descriptor _ request answer =>
    kernel.control descriptor request state = (answer, after)
  | .close descriptor _ => kernel.closed descriptor state = after

/-- The transactions lead the kernel from one state to the other. -/
inductive Kernel.Trace {κ : Type} (kernel : Kernel κ) : κ → List Transaction → κ → Prop
  | nil (state : κ) : Kernel.Trace kernel state [] state
  | cons {state middle last : κ} {transaction : Transaction} {later : List Transaction} :
    kernel.Answers state middle transaction → Kernel.Trace kernel middle later last →
    Kernel.Trace kernel state (transaction :: later) last

theorem Kernel.Trace.append {κ : Type} {kernel : Kernel κ} {state middle last : κ}
    {log later : List Transaction} (h : kernel.Trace state log middle)
    (hlater : kernel.Trace middle later last) : kernel.Trace state (log ++ later) last := by
  induction h with
  | nil _ => exact hlater
  | cons hanswers _ ih => exact .cons hanswers (ih hlater)

namespace Machine

variable {κ : Type}

/-- The descriptors of a machine. -/
def table (m : Machine κ) : DescriptorTable := ⟨m.opened, m.next⟩

/-- From one moment to the other the machine has done these transactions: they lead its kernel
there, they are the calls that have come on record, they account for its descriptors, and each of
them was permitted. -/
structure Did (kernel : Kernel κ) (m : Machine κ) (log : List Transaction) (last : Machine κ) :
    Prop where
  trace : kernel.Trace m.kernel log last.kernel
  calls : last.calls = m.calls ++ log.map Transaction.call
  table : last.table = m.table.afterAll log
  permitted : m.table.Along DescriptorTable.Permits log

namespace Did

variable {kernel : Kernel κ} {m middle last : Machine κ} {log later : List Transaction}

theorem nothing (kernel : Kernel κ) (m : Machine κ) : Did kernel m [] m where
  trace := .nil _
  calls := (List.append_nil _).symm
  table := rfl
  permitted := trivial

theorem once {transaction : Transaction}
    (hanswers : kernel.Answers m.kernel last.kernel transaction)
    (hcalls : last.calls = m.calls ++ [transaction.call])
    (htable : last.table = m.table.after transaction) (hpermitted : m.table.Permits transaction) :
    Did kernel m [transaction] last where
  trace := .cons hanswers (.nil _)
  calls := hcalls
  table := htable
  permitted := ⟨hpermitted, trivial⟩

theorem append (h : Did kernel m log middle) (hlater : Did kernel middle later last) :
    Did kernel m (log ++ later) last where
  trace := h.trace.append hlater.trace
  calls := by rw [hlater.calls, h.calls, List.map_append, List.append_assoc]
  table := by rw [hlater.table, h.table, DescriptorTable.afterAll_append]
  permitted := DescriptorTable.along_append.2 ⟨h.permitted, h.table ▸ hlater.permitted⟩

end Did

end Machine

end Tunnel
