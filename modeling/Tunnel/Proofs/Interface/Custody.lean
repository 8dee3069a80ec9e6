import Mathlib.Data.List.Nodup
import Tunnel.Proofs.Kernel.Platforms

/-!
# The custody of interfaces

A caller has an allocator make interfaces and take them away, in any order, each as often as it
likes. Whatever the kernel answers, nothing is open after a call but the devices of the interfaces
that the caller has, and every descriptor that was ever given out has been closed once or is one of
these. Where an interface outlives its device, the names that were made are those that were given up
and those of the interfaces that the caller has, other than the interfaces that could not be given
up for want of a socket.

## Main definitions

* `Allocator.Call`, `Allocator.Reply`, `Allocator.follow` — what a caller does, and what comes back
* `Allocator.Orderly` — the law of a call
* `Allocator.Course` — a run, call by call
* `Allocator.Custody` — the invariant of a run

## Main results

* `Allocator.Custody.traces_perform` — a call keeps the law, wherever the invariant holds
* `Allocator.Custody.call` — and keeps the invariant
* `Allocator.follow_custody` — every run from nothing on
-/

namespace Tunnel

open Transaction (closed made attempted heldBy_singleton mem_toList_toOption AttemptsWith)

variable {κ : Type} {kernel : Kernel κ} {t : DescriptorTable} {log : List Transaction}
  {platform : Platform}

/-! ### Runs of calls -/

namespace Allocator

/-- What a caller does. The interfaces that it has are named by their places. -/
inductive Call
  | create (requested : Option String)
  | destroy (place : Nat)

/-- What comes back. -/
inductive Reply
  | created (result : Except Error Interface)
  | destroyed (interface : Interface) (answer : Except Error Unit)
  /-- There is no interface in that place. -/
  | absent

/-- Carries a call out. -/
def perform {σ : Type} (allocator : Allocator σ) (live : List Interface) :
    Call → Action σ (Reply × List Interface)
  | .create requested => do
    let result ← allocator.create requested
    return (.created result, result.toOption.toList ++ live)
  | .destroy place =>
    match live[place]? with
    | none => return (.absent, live)
    | some interface => do
      let answer ← allocator.destroy interface
      return (.destroyed interface answer, live.eraseIdx place)

/-- Carries calls out, one after the other. -/
def follow {σ : Type} (allocator : Allocator σ) : List Interface → List Call →
    Action σ (List Reply × List Interface)
  | live, [] => return ([], live)
  | live, call :: later => do
    let (reply, live) ← allocator.perform live call
    let (replies, live) ← allocator.follow live later
    return (reply :: replies, live)

/-- Which reply a call has, and what the caller has after it. -/
inductive Answered (live : List Interface) : Call → Reply → List Interface → Prop
  | created {requested : Option String} (result : Except Error Interface) :
    Answered live (.create requested) (.created result) (result.toOption.toList ++ live)
  | destroyed {place : Nat} {interface : Interface} (answer : Except Error Unit) :
    live[place]? = some interface →
    Answered live (.destroy place) (.destroyed interface answer) (live.eraseIdx place)
  | absent {place : Nat} :
    live[place]? = none → Answered live (.destroy place) .absent live

namespace Reply

/-- The interface that the caller is given. -/
def given : Reply → List Interface
  | created result => result.toOption.toList
  | _ => []

/-- The interface that the caller has no longer. -/
def taken : Reply → List Interface
  | destroyed interface _ => [interface]
  | _ => []

/-- The interface that was taken and could not be given up, since no socket could be opened. -/
def lost : Reply → List Interface
  | destroyed interface (.error (.unavailable .destroy _)) => [interface]
  | _ => []

end Reply

/-- What the caller has changes by what it is given and what is taken. -/
theorem Answered.exchanged {live after : List Interface} {call : Call} {reply : Reply}
    (h : Answered live call reply after) :
    (reply.given ++ live).Perm (reply.taken ++ after) := by
  cases h with
  | created result => exact .refl _
  | destroyed answer hat =>
    obtain ⟨hplace, rfl⟩ := List.getElem?_eq_some_iff.1 hat
    exact (List.getElem_cons_eraseIdx_perm hplace).symm
  | absent _ => exact .refl _

/-- **The law of a call**, at the table of descriptors that the call meets. -/
structure Orderly (platform : Platform) (t : DescriptorTable) (log : List Transaction)
    (reply : Reply) (after : List Interface) : Prop where
  /-- Nothing is left open but the devices of the interfaces that the caller has. -/
  opened_eq : (t.afterAll log).opened = after.map Interface.entry
  /-- The interface that is given has the name that the kernel has written back. -/
  named : platform = .freebsd → ∀ interface ∈ reply.given, interface.IsNamed
  /-- What was made is given to the caller or given up again; and what is taken from the caller is
  given up, unless it is lost. -/
  matched : platform = .freebsd →
    made log ++ reply.taken.map Interface.stem =
      attempted log ++ (reply.given ++ reply.lost).map Interface.stem
  /-- Nothing is given up where nothing was made and nothing taken. -/
  untouched : platform = .freebsd → made log = [] → reply.taken = [] → attempted log = []
  /-- An interface is lost only for want of a socket. -/
  unopened : platform = .freebsd → reply.lost ≠ [] → ∃ code, .openSocket (.error code) ∈ log
  /-- By the time that an interface is given up, its device is closed: the devices that are open
  are those of the interfaces that the caller has after the call. -/
  device_first : t.Along (AttemptsWith (after.map Interface.descriptor)) log
  /-- A failure behind the making of an interface closes the descriptor that it was made on. -/
  closed_after : platform = .linux → ∀ e descriptor kind request record,
    reply = .created (.error e) →
    .control descriptor kind (.onInterface .create request) (.ok record) ∈ log →
    [.control descriptor kind (.onInterface .create request) (.ok record),
      .close descriptor kind].Sublist log

/-- A run of calls, each of which keeps the law at the table that the calls before it left. -/
inductive Course (platform : Platform) : DescriptorTable → List Interface → List Call →
    List Transaction → List Reply × List Interface → Prop
  | done (t : DescriptorTable) (live : List Interface) : Course platform t live [] [] ([], live)
  | call {t : DescriptorTable} {live after last : List Interface} {call : Call}
    {later : List Call} {log rest : List Transaction} {reply : Reply} {replies : List Reply} :
    Answered live call reply after → Orderly platform t log reply after →
    Course platform (t.afterAll log) after later rest (replies, last) →
    Course platform t live (call :: later) (log ++ rest) (reply :: replies, last)

/-! ### The invariant -/

section Live

variable {live : List Interface} {interface : Interface}

theorem kindOf?_of_mem (hopened : t.opened = live.map Interface.entry) (hmem : interface ∈ live) :
    t.kindOf? interface.descriptor = some .device := by
  rw [DescriptorTable.kindOf?, hopened]
  clear hopened
  induction live with
  | nil => cases hmem
  | cons other later ih =>
    rw [List.map_cons, Interface.entry, List.lookup_cons]
    by_cases heq : interface.descriptor = other.descriptor
    · rw [beq_iff_eq.2 heq]
    · rw [beq_false_of_ne heq]
      obtain rfl | hlater := List.mem_cons.1 hmem
      · exact absurd rfl heq
      · exact ih hlater

theorem devices_eq (hopened : t.opened = live.map Interface.entry) :
    t.devices = live.map Interface.descriptor := by
  have hall : ∀ entry ∈ live.map Interface.entry, (entry.2 == DescriptorKind.device) = true := by
    intro entry hmem
    obtain ⟨interface, -, rfl⟩ := List.mem_map.1 hmem
    rfl
  rw [DescriptorTable.devices, hopened, List.filter_eq_self.2 hall, List.map_map]
  rfl

/-- Interfaces have a descriptor each, so that the one in a place goes with its descriptor. -/
theorem eraseIdx_eq_filter (hnodup : (live.map Interface.descriptor).Nodup) {place : Nat}
    (hat : live[place]? = some interface) :
    live.eraseIdx place = live.filter fun other => other.descriptor != interface.descriptor := by
  obtain ⟨hplace, rfl⟩ := List.getElem?_eq_some_iff.1 hat
  have hlive : live.Nodup := hnodup.of_map
  rw [← hlive.erase_getElem _ hplace, hlive.erase_eq_filter]
  refine List.filter_congr fun other hmem => ?_
  rw [Bool.eq_iff_iff, bne_iff_ne, bne_iff_ne, not_iff_not]
  constructor
  · exact congrArg Interface.descriptor
  · intro heq
    exact List.inj_on_of_nodup_map hnodup hmem (List.getElem_mem hplace) heq

end Live

/-- The invariant of a run: what is open, what was closed, and what became of the names. -/
structure Custody (platform : Platform) (t : DescriptorTable) (log : List Transaction)
    (replies : List Reply) (live : List Interface) : Prop where
  balanced : t.Balanced log
  opened_eq : t.opened = live.map Interface.entry
  named : platform = .freebsd → ∀ interface ∈ live, interface.IsNamed
  matched : platform = .freebsd →
    (made log).Perm
      (attempted log ++ (live ++ replies.flatMap Reply.lost).map Interface.stem)

namespace Custody

variable {replies : List Reply} {live : List Interface}

theorem start (platform : Platform) : Custody platform .empty [] [] [] where
  balanced := .start
  opened_eq := rfl
  named := fun _ _ hmem => absurd hmem List.not_mem_nil
  matched := fun _ => .refl _

theorem nodup (h : Custody platform t log replies live) :
    (live.map Interface.descriptor).Nodup := by
  have hnodup := h.balanced.nodup
  rw [h.opened_eq, List.map_map] at hnodup
  exact hnodup

/-- The table without the device of an interface is that of the others. -/
theorem opened_erase (h : Custody platform t log replies live) {place : Nat}
    {interface : Interface} (hat : live[place]? = some interface) :
    (t.erase interface.descriptor).opened = (live.eraseIdx place).map Interface.entry := by
  rw [eraseIdx_eq_filter h.nodup hat, DescriptorTable.erase, h.opened_eq, List.filter_map]
  rfl

/-- What was made is given, and nothing else is left of the call. -/
theorem orderly_created (h : Custody platform t log replies live) {entries : List Transaction}
    {result : Except Error Interface} (hmade : platform.Made t entries result) :
    Orderly platform t entries (.created result) (result.toOption.toList ++ live) where
  opened_eq := by
    rw [hmade.opens.opened_eq, h.opened_eq, heldBy_singleton, List.map_append]
  named := by
    intro hplatform interface hmem
    exact hmade.named hplatform interface (mem_toList_toOption.1 hmem)
  matched := by
    intro hplatform
    rw [hmade.matched hplatform, heldBy_singleton]
    simp [Reply.given, Reply.taken, Reply.lost]
  untouched := by
    intro hplatform hnone _
    have hmatched := hmade.matched hplatform
    rw [hnone] at hmatched
    exact (List.append_eq_nil_iff.1 hmatched.symm).1
  unopened := fun _ hlost => absurd rfl hlost
  device_first := by
    cases hresult : result with
    | error e =>
      have hdevices := hmade.device_first
      rw [devices_eq h.opened_eq] at hdevices
      exact hdevices
    | ok interface => exact .of_attempted_eq_nil (hmade.kept interface hresult)
  closed_after := by
    intro hplatform e descriptor kind request record hreply hmem
    cases hreply
    exact hmade.closed_after hplatform e descriptor kind request record rfl hmem

/-- What was taken is given up, or it is lost for want of a socket. -/
theorem given_up_or_lost (h : Custody platform t log replies live) {entries : List Transaction}
    {place : Nat} {interface : Interface} {answer : Except Error Unit}
    (hat : live[place]? = some interface) (hended : platform.Ended t interface entries answer)
    (hplatform : platform = .freebsd) : made entries = [] ∧
      (attempted entries = [interface.stem] ∧ Reply.lost (.destroyed interface answer) = [] ∨
        attempted entries = [] ∧ Reply.lost (.destroyed interface answer) = [interface] ∧
          ∃ code, .openSocket (.error code) ∈ entries) := by
  have hnamed := h.named hplatform interface (List.mem_of_getElem? hat)
  obtain ⟨hmade, ⟨hattempted, hother⟩ | ⟨hattempted, code, rfl, hmem⟩⟩ :=
    hended.matched hplatform hnamed
  · refine ⟨hmade, .inl ⟨hattempted, ?_⟩⟩
    rw [Reply.lost]
    intro _ code heq
    cases heq
    exact hother code rfl
  · exact ⟨hmade, .inr ⟨hattempted, rfl, code, hmem⟩⟩

/-- What was taken is accounted for, and nothing is left of it either. -/
theorem orderly_destroyed (h : Custody platform t log replies live) {entries : List Transaction}
    {place : Nat} {interface : Interface} {answer : Except Error Unit}
    (hat : live[place]? = some interface) (hended : platform.Ended t interface entries answer) :
    Orderly platform t entries (.destroyed interface answer) (live.eraseIdx place) where
  opened_eq := by rw [hended.opened_eq, h.opened_erase hat]
  named := fun _ _ hmem => absurd hmem List.not_mem_nil
  matched := by
    intro hplatform
    obtain ⟨hmade, ⟨hattempted, hlost⟩ | ⟨hattempted, hlost, -⟩⟩ :=
      h.given_up_or_lost hat hended hplatform
    · rw [hmade, hattempted, hlost]
      rfl
    · rw [hmade, hattempted, hlost]
      rfl
  untouched := fun _ _ htaken => nomatch htaken
  unopened := by
    intro hplatform hlost
    obtain ⟨-, ⟨-, hnone⟩ | ⟨-, -, hsocket⟩⟩ := h.given_up_or_lost hat hended hplatform
    · exact absurd hnone hlost
    · exact hsocket
  device_first := by
    have hdevices := hended.device_first
    rwa [devices_eq (h.opened_erase hat)] at hdevices
  closed_after := fun _ _ _ _ _ _ hreply => nomatch hreply

/-- Where there is nothing to take, nothing is done. -/
theorem orderly_absent (h : Custody platform t log replies live) :
    Orderly platform t [] .absent live where
  opened_eq := h.opened_eq
  named := fun _ _ hmem => absurd hmem List.not_mem_nil
  matched := fun _ => rfl
  untouched := fun _ _ _ => rfl
  unopened := fun _ hlost => absurd rfl hlost
  device_first := trivial
  closed_after := fun _ _ _ _ _ _ hreply => nomatch hreply

/-- **A call keeps the law**, wherever the invariant holds. -/
theorem traces_perform (h : Custody platform t log replies live) (hnames : kernel.WritesNames)
    (call : Call) :
    Machine.Traces kernel t ((platform.allocator kernel).perform live call)
      fun entries outcome => Answered live call outcome.1 outcome.2 ∧
        Orderly platform t entries outcome.1 outcome.2 := by
  have hbounded : t.Bounded := h.balanced.lt_next
  cases call with
  | create requested =>
    refine .bind (platform.traces_create hbounded hnames requested) ?_
    intro entries result hmade
    refine .pure ?_
    rw [List.append_nil]
    exact ⟨.created result, h.orderly_created hmade⟩
  | destroy place =>
    rw [perform]
    cases hat : live[place]? with
    | none => exact .pure ⟨.absent hat, h.orderly_absent⟩
    | some interface =>
      have hopen := kindOf?_of_mem h.opened_eq (List.mem_of_getElem? hat)
      refine .bind (platform.traces_destroy hbounded hopen) ?_
      intro entries answer hended
      refine .pure ?_
      rw [List.append_nil]
      exact ⟨.destroyed answer hat, h.orderly_destroyed hat hended⟩

/-- **A call keeps the invariant.** -/
theorem call (h : Custody platform t log replies live) {entries : List Transaction} {call : Call}
    {reply : Reply} {after : List Interface} (hanswered : Answered live call reply after)
    (horderly : Orderly platform t entries reply after)
    (hpermitted : t.Along DescriptorTable.Permits entries) :
    Custody platform (t.afterAll entries) (log ++ entries) (replies ++ [reply]) after where
  balanced := h.balanced.afterAll hpermitted
  opened_eq := horderly.opened_eq
  named := by
    intro hplatform interface hmem
    have hbefore := hanswered.exchanged.mem_iff.2 (List.mem_append_right _ hmem)
    obtain hgiven | hlive := List.mem_append.1 hbefore
    · exact horderly.named hplatform interface hgiven
    · exact h.named hplatform interface hlive
  matched := by
    intro hplatform
    rw [List.perm_iff_count]
    intro name
    have hpast := (h.matched hplatform).count_eq name
    have hcall := congrArg (List.count name) (horderly.matched hplatform)
    have hlive := (hanswered.exchanged.map Interface.stem).count_eq name
    rw [List.flatMap_append, List.flatMap_singleton]
    simp only [Transaction.made_append, Transaction.attempted_append, List.map_append,
      List.count_append] at hpast hcall hlive ⊢
    omega

end Custody

/-! ### Runs -/

/-- **A run keeps the invariant.** -/
theorem Course.custody {live : List Interface} {calls : List Call} {entries : List Transaction}
    {outcome : List Reply × List Interface}
    (hcourse : Course platform t live calls entries outcome) {past : List Reply}
    (h : Custody platform t log past live)
    (hpermitted : t.Along DescriptorTable.Permits entries) :
    Custody platform (t.afterAll entries) (log ++ entries) (past ++ outcome.1) outcome.2 := by
  induction hcourse generalizing log past with
  | done t live =>
    rw [List.append_nil, List.append_nil]
    exact h
  | call hanswered horderly _ ih =>
    obtain ⟨hfirst, hlater⟩ := DescriptorTable.along_append.1 hpermitted
    rw [DescriptorTable.afterAll_append, ← List.append_assoc, List.append_cons]
    exact ih (h.call hanswered horderly hfirst) hlater

theorem traces_follow (hnames : kernel.WritesNames) {past : List Reply} {live : List Interface}
    (h : Custody platform t log past live) (calls : List Call) :
    Machine.Traces kernel t ((platform.allocator kernel).follow live calls)
      (Course platform t live calls) := by
  induction calls generalizing t log past live with
  | nil => exact .pure (.done t live)
  | cons call later ih =>
    refine .bind (h.traces_perform hnames call).permitted ?_
    rintro entries ⟨reply, after⟩ ⟨⟨hanswered, horderly⟩, hpermitted⟩
    refine .bind (ih (h.call hanswered horderly hpermitted)) ?_
    rintro rest ⟨replies, last⟩ hcourse
    refine .pure ?_
    rw [List.append_nil]
    exact .call hanswered horderly hcourse

/-- **The custody of interfaces.** Whatever a kernel that writes proper names back answers, and
whatever the caller does, in any order: each call keeps its law; what is open after the calls are
the devices of the interfaces that the caller has; every descriptor that was given out was closed
once or is one of these; and where an interface outlives its device, the names that were made are,
one for one, those that were given up, those of the interfaces that the caller has, and those of
the interfaces that were lost for want of a socket. -/
theorem follow_custody (platform : Platform) {kernel : Kernel κ} (hnames : kernel.WritesNames)
    (calls : List Call) (state : κ) :
    ∃ log replies live notices last,
      ((platform.allocator kernel).follow [] calls).run (.start state) =
        ⟨(replies, live), notices, last⟩ ∧
      Machine.Did kernel (.start state) log last ∧
      Course platform .empty [] calls log (replies, live) ∧
      last.opened = live.map Interface.entry ∧
      (List.range last.next).Perm (closed log ++ live.map Interface.descriptor) ∧
      (platform = .freebsd →
        (made log).Perm
          (attempted log ++ (live ++ replies.flatMap Reply.lost).map Interface.stem)) := by
  obtain ⟨log, hdid, hcourse⟩ := traces_follow hnames (.start platform) calls (.start state) rfl
  have hcustody := hcourse.custody (.start platform) hdid.permitted
  have htable : DescriptorTable.empty.afterAll log = Machine.table _ := hdid.table.symm
  rw [htable] at hcustody
  have hbalanced := hcustody.balanced
  have hopened := hcustody.opened_eq
  rw [DescriptorTable.Balanced, hopened, List.map_map] at hbalanced
  exact ⟨log, _, _, _, _, rfl, hdid, hcourse, hopened, hbalanced, hcustody.matched⟩

end Allocator

namespace Kernel

/-- What comes next in a script of failures, and the rest of it. Behind its end all goes well. -/
def nextOf {α : Type} (answer : α) : List (Option Errno) → Except Errno α × List (Option Errno)
  | [] => (.ok answer, [])
  | none :: later => (.ok answer, later)
  | some code :: later => (.error code, later)

/-- A kernel that opens and controls by a script, and gives each interface the same name. -/
def followingScript (name : NameField) : Kernel (List (Option Errno)) where
  interfaceExists _ script := (false, script)
  openSocket := nextOf ()
  openDevice _ := nextOf ()
  control _ _ := nextOf ⟨name, 0, .replicate 22 0⟩
  closed _ script := script

theorem writesNames_followingScript {name : NameField} (h : name.IsTerminated) :
    (followingScript name).WritesNames := by
  intro descriptor request script record hanswer
  cases script with
  | nil => cases hanswer; exact h
  | cons failure later =>
    cases failure with
    | none => cases hanswer; exact h
    | some code => cases hanswer

end Kernel

/-- The device of the first interface cannot be opened; the second interface is made, and there is
no socket to give it up by. -/
theorem Allocator.follow_custody_scripted :
    let kernel := Kernel.followingScript (.ofName "tun0")
    let calls : List Call := [.create none, .create (some "tun0"), .destroy 0]
    let script := [none, none, some 2, none, none, none, none, none, none, none, none, some 24]
    kernel.WritesNames ∧ ∃ log replies live notices last,
      ((Platform.freebsd.allocator kernel).follow [] calls).run (.start script) =
        ⟨(replies, live), notices, last⟩ ∧
      Machine.Did kernel (.start script) log last ∧
      Course .freebsd .empty [] calls log (replies, live) ∧
      last.opened = live.map Interface.entry ∧
      (List.range last.next).Perm (closed log ++ live.map Interface.descriptor) ∧
      (Platform.freebsd = .freebsd →
        (made log).Perm
          (attempted log ++ (live ++ replies.flatMap Reply.lost).map Interface.stem)) := by
  have hnames : (Kernel.followingScript (.ofName "tun0")).WritesNames :=
    Kernel.writesNames_followingScript ⟨by decide, by decide +kernel⟩
  exact ⟨hnames, follow_custody .freebsd hnames _ _⟩

end Tunnel
