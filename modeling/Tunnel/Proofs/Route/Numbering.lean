import Tunnel.Proofs.Route.Addition

/-!
# The numbers of route messages

An installer gives each message that it submits the next number, and no number to what it does not
submit. Along any run of calls the numbers follow one another from 1 on, wrapping around after
2 ^ 32 of them.

## Main definitions

* `RouteInstaller.Call`, `RouteInstaller.follow` — calls, and a run of them
* `RouteInstaller.Course` — a run, call by call
* `RouteInstaller.Numbered` — messages with consecutive numbers

## Main results

* `RouteInstaller.Addition.numbered` — one call keeps the count
* `RouteInstaller.Course.numbered` — and so does a run
* `RouteInstaller.follow_fresh` — what a run is, from an installer that has given out no number
-/

namespace Tunnel.RouteInstaller

open Exchange (submitted)

variable {σ : Type} {backend : RouteBackend σ}

/-! ### Runs of calls -/

/-- A call on an installer: with the name of an interface, or with one at hand. -/
inductive Call
  | add (interface : String) (destination : RoutePrefix)
  | addVia (interface : Interface) (destination : RoutePrefix)

namespace Call

/-- The name of the interface. -/
def interface : Call → String
  | add interface _ => interface
  | addVia interface _ => interface.name

def destination : Call → RoutePrefix
  | add _ destination => destination
  | addVia _ destination => destination

/-- Carries the call out. -/
def perform (backend : RouteBackend σ) (installer : RouteInstaller) : Call → Action σ Attempt
  | add interface destination => installer.add backend interface destination
  | addVia interface destination => installer.addVia backend interface destination

theorem perform_eq (backend : RouteBackend σ) (installer : RouteInstaller) (call : Call) :
    call.perform backend installer = installer.add backend call.interface call.destination := by
  cases call <;> rfl

end Call

/-- Carries calls out, one after the other, on one installer. -/
def follow (backend : RouteBackend σ) : RouteInstaller → List Call →
    Action σ (List (Except Error Unit) × RouteInstaller)
  | installer, [] => pure ([], installer)
  | installer, call :: later => do
    let (result, installer) ← call.perform backend installer
    let (results, installer) ← follow backend installer later
    return (result :: results, installer)

/-- A run of calls, each of which takes one of the four courses and leaves its installer to the
next. -/
inductive Course : RouteInstaller → List Call → List Exchange →
    List (Except Error Unit) × RouteInstaller → Prop
  | done (installer : RouteInstaller) : Course installer [] [] ([], installer)
  | call {installer after last : RouteInstaller} {call : Call} {later : List Call}
    {entries rest : List Exchange} {result : Except Error Unit}
    {results : List (Except Error Unit)} :
    Addition installer call.interface call.destination entries (result, after) →
    Course after later rest (results, last) →
    Course installer (call :: later) (entries ++ rest) (result :: results, last)

theorem writes_follow (installer : RouteInstaller) (calls : List Call) :
    (follow backend.journaled installer calls).Writes (Course installer calls) := by
  induction calls generalizing installer with
  | nil => exact .pure (.done installer)
  | cons call later ih =>
    rw [follow, Call.perform_eq]
    refine .bind writes_add ?_
    rintro entries ⟨result, after⟩ haddition
    refine .bind (ih after) ?_
    rintro rest ⟨results, last⟩ hcourse
    refine .pure ?_
    rw [List.append_nil]
    exact .call haddition hcourse

theorem erases_follow (backend : RouteBackend σ) (installer : RouteInstaller) (calls : List Call) :
    Action.Erases Journaled.world (follow backend.journaled installer calls)
      (follow backend installer calls) := by
  induction calls generalizing installer with
  | nil => exact .pure _
  | cons call later ih =>
    rw [follow, follow, Call.perform_eq, Call.perform_eq]
    refine .bind (erases_add backend.erases_journaled _ _ _) ?_
    rintro ⟨result, after⟩
    exact .bind (ih after) fun _ => .pure _

/-! ### Numbers -/

/-- The messages carry consecutive numbers, the first of them `first`, modulo 2 ^ 32. -/
def Numbered (first : Nat) (messages : List Bytes) : Prop :=
  ∀ k message, messages[k]? = some message →
    message.word32At? 20 = some (UInt32.ofNat (first + k))

namespace Numbered

variable {first : Nat} {messages later : List Bytes}

theorem nil : Numbered first [] := fun _ _ h => by simp at h

theorem singleton {message : Bytes} (h : message.word32At? 20 = some (UInt32.ofNat first)) :
    Numbered first [message] := by
  intro k other hk
  cases k with
  | zero =>
    obtain rfl := Option.some.inj hk
    exact h
  | succ k => simp at hk

theorem append (h : Numbered first messages) (hlater : Numbered (first + messages.length) later) :
    Numbered first (messages ++ later) := by
  intro k message hk
  by_cases hlt : k < messages.length
  · rw [List.getElem?_append_left hlt] at hk
    exact h k message hk
  · have hle := Nat.le_of_not_lt hlt
    rw [List.getElem?_append_right hle] at hk
    have := hlater _ message hk
    rwa [Nat.add_assoc, Nat.add_sub_cancel' hle] at this

/-- Of any 2 ^ 32 consecutive messages, no two carry one number. -/
theorem ne_of_lt (h : Numbered first messages) {j k : Nat} {earlier message : Bytes}
    (hearlier : messages[j]? = some earlier) (hmessage : messages[k]? = some message)
    (hlt : j < k) (hwindow : k - j < 2 ^ 32) : earlier.word32At? 20 ≠ message.word32At? 20 := by
  rw [h j earlier hearlier, h k message hmessage]
  intro heq
  have hmod := congrArg UInt32.toNat (Option.some.inj heq)
  rw [UInt32.toNat_ofNat', UInt32.toNat_ofNat'] at hmod
  omega

end Numbered

/-- One call keeps the count: what it submits carries the next number, and the installer has given
out as many as were submitted. -/
theorem Addition.numbered {installer : RouteInstaller} {interface : String}
    {destination : RoutePrefix} {entries : List Exchange} {attempt : Attempt}
    (h : Addition installer interface destination entries attempt) {given : Nat}
    (hgiven : installer.lastSequence = UInt32.ofNat given) :
    Numbered (given + 1) (submitted entries) ∧
      attempt.2.lastSequence = UInt32.ofNat (given + (submitted entries).length) := by
  cases h with
  | unsupported => exact ⟨.nil, hgiven⟩
  | unresolved e => exact ⟨.nil, hgiven⟩
  | unroutable gateway e _ _ => exact ⟨.nil, hgiven⟩
  | sent gateway message octets answer _ hadd hencode =>
    have hnext : installer.next.lastSequence = UInt32.ofNat (given + 1) := by
      rw [next, hgiven, UInt32.ofNat_add]
      rfl
    refine ⟨.singleton ?_, hnext⟩
    rw [RouteMessage.eq_octets_of_encode hadd hencode, RouteMessage.sequence_octets, hnext]

/-- **The numbers of a run.** They go on from whatever number was last given out. -/
theorem Course.numbered {installer : RouteInstaller} {calls : List Call} {journal : List Exchange}
    {outcome : List (Except Error Unit) × RouteInstaller}
    (h : Course installer calls journal outcome) {given : Nat}
    (hgiven : installer.lastSequence = UInt32.ofNat given) :
    Numbered (given + 1) (submitted journal) ∧
      outcome.2.lastSequence = UInt32.ofNat (given + (submitted journal).length) := by
  induction h generalizing given with
  | done installer => exact ⟨.nil, hgiven⟩
  | @call _ _ _ _ _ entries rest _ _ haddition _ ih =>
    obtain ⟨hentries, hafter⟩ := haddition.numbered hgiven
    obtain ⟨hrest, hlast⟩ := ih hafter
    rw [Exchange.submitted_append, List.length_append, ← Nat.add_assoc]
    refine ⟨hentries.append ?_, hlast⟩
    rwa [Nat.add_right_comm]

/-- **Runs of an installer.** From one that has given out no number, with any backend: each call
takes one of the four courses; the messages submitted carry the numbers from 1 on, the installer is
left with the number of the last, and no number comes twice within 2 ^ 32 messages. A call submits
nothing exactly when there is no support, the look-up fails or the prefix is empty, and then the
installer is left as it was; and it succeeds exactly when the whole message was taken. -/
theorem follow_fresh (backend : RouteBackend σ) (calls : List Call) (world : σ) :
    ∃ journal,
      (follow backend.journaled fresh calls).run (.ofWorld world) =
        ⟨((follow backend fresh calls).run world).answer,
          ((follow backend fresh calls).run world).notices,
          ⟨((follow backend fresh calls).run world).world, journal⟩⟩ ∧
      Course fresh calls journal ((follow backend fresh calls).run world).answer ∧
      Numbered 1 (submitted journal) ∧
      ((follow backend fresh calls).run world).answer.2.lastSequence =
        UInt32.ofNat (submitted journal).length ∧
      (∀ j k earlier message, (submitted journal)[j]? = some earlier →
        (submitted journal)[k]? = some message → j < k → k - j < 2 ^ 32 →
        earlier.word32At? 20 ≠ message.word32At? 20) ∧
      ∀ installer interface destination entries attempt,
        Addition installer interface destination entries attempt →
        (submitted entries).length ≤ 1 ∧
        (submitted entries = [] ↔ entries = [.support false] ∨
          (∃ e, .linkAddress interface (.error e) ∈ entries) ∨ destination.length = 0) ∧
        (attempt.2 = installer ↔ submitted entries = []) ∧
        (attempt.1 = .ok () ↔ ∃ octets, .submit octets (.ok octets.length) ∈ entries) := by
  obtain ⟨journal, hrun, hcourse⟩ :=
    Journaled.run_ofWorld (erases_follow backend fresh calls) (writes_follow fresh calls) world
  obtain ⟨hnumbered, hlast⟩ := hcourse.numbered (show fresh.lastSequence = UInt32.ofNat 0 from rfl)
  rw [Nat.zero_add] at hnumbered hlast
  refine ⟨journal, hrun, hcourse, hnumbered, hlast, ?_, ?_⟩
  · intro j k earlier message hearlier hmessage hlt hwindow
    exact hnumbered.ne_of_lt hearlier hmessage hlt hwindow
  · intro installer interface destination entries attempt haddition
    obtain ⟨hnil, hsame⟩ := haddition.submitted_eq_nil_iff
    exact ⟨haddition.length_submitted_le, hnil, hsame, haddition.ok_iff⟩

end Tunnel.RouteInstaller
