import Tunnel.Proofs.Interface.Requested
import Tunnel.Proofs.Kernel.Stating
import Tunnel.Session

/-!
# Which failures are fatal

A failure is fatal unless it is one of taking an interface away. Both kinds of failure arise from
the same calls: a socket is opened to make an interface and to take one away, and where an interface
outlives its device, one whose setup failed is taken away while it is made. Still the two are kept
apart. Every failure to make an interface is fatal, for that of a cleanup is stated and not
answered; every failure to take one away is not, and so neither is any failure to close a session.

## Main definitions

* `Transaction.lapses`, `Notice.lapses` — the interfaces that could not be taken away, by the calls
  and by the notices
* `Platform.SortsFailures` — how the failures of a platform are sorted

## Main results

* `Plan.Run.isFatal` — a plan that takes nothing away fails fatally
* `Platform.accounts_create_lapses` — a cleanup that fails is stated
* `Platform.sortsFailures` — on either platform, whatever the kernel answers
-/

namespace Tunnel

variable {κ : Type} {kernel : Kernel κ} {t : DescriptorTable} {log : List Transaction}
variable {platform : Platform} {requested : Option String}

open Transaction (attempted)

/-! ### Fatal failures -/

theorem ControlKind.stage_eq_destroy_iff {kind : ControlKind} :
    kind.stage = .destroy ↔ kind = .destroy := by
  cases kind <;> decide

/-- The failure of a call is fatal, unless the call was to take an interface away. -/
theorem Transaction.isFatal_of_error? {transaction : Transaction} {e : Error}
    (h : transaction.error? = some e)
    (hkind : ∀ descriptor kind request answer,
      transaction = .control descriptor kind request answer → request.kind ≠ .destroy) :
    e.isFatal = true := by
  match transaction with
  | .lookUp _ true | .openSocket (.error _) | .openDevice _ (.error _) =>
    obtain rfl := Option.some.inj h
    rfl
  | .control descriptor kind request (.error code) =>
    obtain rfl := Option.some.inj h
    have hstage : request.kind.stage ≠ .destroy := fun hstage =>
      hkind descriptor kind request _ rfl (ControlKind.stage_eq_destroy_iff.1 hstage)
    show (some request.kind.stage != some .destroy) = true
    exact bne_iff_ne.2 fun heq => hstage (Option.some.inj heq)
  | .lookUp _ false | .openSocket (.ok _) | .openDevice _ (.ok _) | .control _ _ _ (.ok _)
  | .close _ _ => cases h

/-- **A plan that takes nothing away fails fatally.** -/
theorem Plan.Run.isFatal {α : Type} {plan : Plan α} {e : Error} (h : plan.Run log (.error e))
    (hplan : plan.Asks fun request => request.kind ≠ .destroy) : e.isFatal = true := by
  obtain ⟨front, last, hlog, hlast, -⟩ := h.first_failure
  refine Transaction.isFatal_of_error? hlast ?_
  rintro descriptor kind request answer rfl
  have hmem : .control descriptor kind request answer ∈ log := by
    rw [hlog]
    exact List.mem_append_right front List.mem_cons_self
  exact h.asked hplan hmem

namespace Platform

/-- No platform takes anything away by its plan. -/
theorem asks_plan_keeping (platform : Platform) (socket : Descriptor)
    (requested : Option String) :
    (platform.plan socket requested).Asks fun request => request.kind ≠ .destroy := by
  cases platform with
  | linux =>
    have hon : (CloneDevice.planOn socket (socket + 1) requested).Asks fun request =>
        request.kind ≠ .destroy :=
      ⟨nofun, fun _ => Plan.isSettings_bringUp.asks.mono fun _ h => h.2⟩
    cases requested <;> exact hon.map _
  | freebsd =>
    exact ⟨nofun, fun _ => (DeviceNode.isSettings_planOn.asks.mono fun _ h => h.2).map _⟩

/-- **Every failure to make an interface is fatal.** -/
theorem isFatal_create (m : Machine κ) {e : Error}
    (h : (((platform.allocator kernel).create requested).run m).answer = .error e) :
    e.isFatal = true := by
  obtain ⟨log, -, ⟨-, name, hinvalid⟩ | ⟨_, _, _, hrun, _⟩⟩ :=
    traces_create_refused_or_undertaken requested m rfl
  · -- what is no name fails before the first call
    obtain rfl := Except.error.inj (h.symm.trans hinvalid)
    rfl
  · rw [h] at hrun
    exact hrun.isFatal (asks_plan_keeping platform m.table.next requested)

end Platform

/-! ### Cleanups that fail -/

/-- The failure of the call, if it was to take an interface away. -/
def Transaction.lapse? : Transaction → Option Error
  | control _ _ (.onInterface .destroy _) (.error code) => some (.refused .destroy code)
  | _ => none

/-- The failures of the calls to take an interface away, in order. -/
def Transaction.lapses (log : List Transaction) : List Error := log.filterMap lapse?

/-- The failure of a cleanup, if the notice tells of one. -/
def Notice.lapse? : Notice → Option Error
  | cleanupFailed _ cause => some cause
  | _ => none

/-- The failures of cleanups that the notices tell of, in order. -/
def Notice.lapses (notices : List Notice) : List Error := notices.filterMap lapse?

namespace Transaction

@[simp] theorem lapses_append (log later : List Transaction) :
    lapses (log ++ later) = lapses log ++ lapses later := List.filterMap_append

/-- Where nothing was to be taken away, nothing has failed to be. -/
theorem lapses_eq_nil (h : attempted log = []) : lapses log = [] := by
  refine List.filterMap_eq_nil_iff.2 fun transaction hmem => ?_
  have hnone := List.filterMap_eq_nil_iff.1 h transaction hmem
  unfold lapse?
  split
  · cases hnone
  · rfl

theorem stage_of_mem_lapses {e : Error} (h : e ∈ lapses log) : e.stage = some .destroy := by
  obtain ⟨transaction, -, hlapse⟩ := List.mem_filterMap.1 h
  unfold lapse? at hlapse
  split at hlapse
  · obtain rfl := Option.some.inj hlapse
    rfl
  · cases hlapse

end Transaction

open Transaction (lapses)

namespace CloneDevice

theorem lapses_of_stated {α : Type} {nameOf : α → String} {notices : List Notice}
    {result : Except Error α} (h : Stated nameOf notices result) : Notice.lapses notices = [] := by
  cases h <;> rfl

theorem accounts_create_lapses (requested : Option String) :
    Machine.Accounts kernel t (create kernel requested) fun log notices _ =>
      Notice.lapses notices = lapses log := by
  refine ((traces_create requested).accounts (states_create kernel requested)).mono ?_
  rintro log notices result ⟨hmaking, hstated⟩
  rw [lapses_of_stated hstated, Transaction.lapses_eq_nil hmaking.attempted_eq_nil]

end CloneDevice

namespace DeviceNode

theorem lapses_cleanup (socket : Descriptor) (name : String)
    (reply : Except Errno InterfaceRecord) :
    Notice.lapses (cleanupNotices name reply) =
      lapses [.control socket .control (destruction name) reply] := by
  cases reply <;> rfl

theorem accounts_create_lapses (requested : Option String) :
    Machine.Accounts kernel t (create kernel requested) fun log notices _ =>
      Notice.lapses notices = lapses log := by
  rw [create_eq]
  cases checkRequested requested with
  | error e => exact .pure rfl
  | ok checked =>
    have hmade : Machine.Accounts kernel (t.add .control) (createWith kernel t.next checked)
        fun log notices _ => ((t.add .control).afterAll log).kindOf? t.next = some .control ∧
          Notice.lapses notices = lapses log := by
      refine accounts_createWith ?_ ?_ ?_
      · exact fun code => rfl
      · intro record log device h
        exact (Transaction.lapses_eq_nil (made_configuring h.configuring).2).symm
      · intro record log e reply h
        have hquiet := Transaction.lapses_eq_nil (made_configuring h.configuring).2
        show Notice.lapses (cleanupNotices record.name.text reply) = lapses (log ++ _)
        rw [Transaction.lapses_append, hquiet, List.nil_append, lapses_cleanup t.next]
    refine Machine.accounts_withSocket hmade (fun _ => rfl) ?_
    intro log notices _ h
    show _ = lapses (log ++ _)
    rw [Transaction.lapses_append, h]
    exact (List.append_nil _).symm

end DeviceNode

/-! ### Taking away -/

namespace Platform

/-- **A cleanup that fails is stated**, and nothing else is stated as one. -/
theorem accounts_create_lapses (platform : Platform) (requested : Option String) :
    Machine.Accounts kernel t ((platform.allocator kernel).create requested)
      fun log notices _ => Notice.lapses notices = lapses log := by
  cases platform with
  | linux => exact CloneDevice.accounts_create_lapses requested
  | freebsd => exact DeviceNode.accounts_create_lapses requested

/-- **Every failure to take an interface away is harmless.** -/
theorem isFatal_destroy (m : Machine κ) {interface : Interface} {e : Error}
    (h : (((platform.allocator kernel).destroy interface).run m).answer = .error e) :
    e.isFatal = false ∧ e.stage = some .destroy := by
  obtain ⟨log, -, htakes⟩ := traces_destroy_closing platform interface m rfl
  rw [h] at htakes
  obtain ⟨code, ⟨rfl, -⟩ | ⟨rfl, -⟩⟩ := htakes.cause <;> exact ⟨rfl, rfl⟩

/-- What a session's end answers is what taking its interface away answers. -/
theorem isFatal_close (m : Machine κ) {session : Session} {e : Error}
    (h : ((session.close (platform.allocator kernel)).run m).answer = .error e) :
    e.isFatal = false := by
  obtain ⟨name, held, installer⟩ := session
  cases held with
  | none => cases h
  | some interface => exact (isFatal_destroy m h).1

/-! ### The two kinds of failure -/

/-- How the failures of a platform are sorted. -/
structure SortsFailures (platform : Platform) (kernel : Kernel κ) (m : Machine κ) : Prop where
  /-- Every failure to make an interface is fatal. -/
  create_fatal : ∀ requested e,
    (((platform.allocator kernel).create requested).run m).answer = .error e →
    e.isFatal = true ∧ e.stage ≠ some .destroy
  /-- If an interface that was made could not be taken away again, this is stated, each time, and
  is never the answer. -/
  create_stated : ∀ requested, ∃ log,
    Machine.Did kernel m log (((platform.allocator kernel).create requested).run m).world ∧
    Notice.lapses (((platform.allocator kernel).create requested).run m).notices = lapses log ∧
    ∀ e ∈ lapses log,
      (((platform.allocator kernel).create requested).run m).answer ≠ .error e
  /-- Every failure to take an interface away is harmless. -/
  destroy_harmless : ∀ interface e,
    (((platform.allocator kernel).destroy interface).run m).answer = .error e →
    e.isFatal = false ∧ e.stage = some .destroy
  /-- An interface that goes with its device never fails to go. -/
  destroy_linux : platform = .linux → ∀ interface,
    (((platform.allocator kernel).destroy interface).run m).answer = .ok ()
  /-- The device is closed first; then there is one request at most, and none without a socket; and
  the failure is that of the socket or of the request. -/
  destroy_course : ∀ interface, ∃ log,
    Machine.Did kernel m log (((platform.allocator kernel).destroy interface).run m).world ∧
    (∀ kind, m.kindOf? interface.descriptor = some kind →
      log.head? = some (.close interface.descriptor kind)) ∧
    (attempted log).length ≤ 1 ∧
    (∀ code, .openSocket (.error code) ∈ log → attempted log = []) ∧
    ∀ e, (((platform.allocator kernel).destroy interface).run m).answer = .error e →
      ∃ code, e = .unavailable .destroy code ∧ .openSocket (.error code) ∈ log ∨
        e = .refused .destroy code ∧
          .control m.next .control (DeviceNode.destruction interface.name) (.error code) ∈ log
  /-- No session ends with a fatal failure. -/
  close_harmless : ∀ (session : Session) e,
    ((session.close (platform.allocator kernel)).run m).answer = .error e → e.isFatal = false

/-- **Failures are sorted** by whether an interface was to be made or taken away, on either
platform, from any machine and whatever the kernel answers. -/
theorem sortsFailures (platform : Platform) (kernel : Kernel κ) (m : Machine κ) :
    platform.SortsFailures kernel m where
  create_fatal requested e h := by
    have hfatal := isFatal_create m h
    refine ⟨hfatal, fun hstage => ?_⟩
    rw [Error.isFatal_eq_false_iff.2 hstage] at hfatal
    cases hfatal
  create_stated requested := by
    obtain ⟨log, hdid, hstated⟩ := accounts_create_lapses platform requested m rfl
    refine ⟨log, hdid, hstated, fun e hmem hanswer => ?_⟩
    have hharmless := Error.isFatal_eq_false_iff.2 (Transaction.stage_of_mem_lapses hmem)
    rw [isFatal_create m hanswer] at hharmless
    cases hharmless
  destroy_harmless interface e h := isFatal_destroy m h
  destroy_linux hlinux interface := by
    subst hlinux
    rfl
  destroy_course interface := by
    obtain ⟨log, hdid, htakes⟩ :=
      traces_destroy_closing platform interface m rfl
    obtain ⟨hle, hnone⟩ := htakes.attempted_le
    refine ⟨log, hdid, fun kind hopen => htakes.closes_first hopen, hle, hnone, fun e hanswer => ?_⟩
    rw [hanswer] at htakes
    exact htakes.cause
  close_harmless session e h := isFatal_close m h

end Platform

end Tunnel
