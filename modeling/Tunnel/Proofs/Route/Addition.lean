import Tunnel.Proofs.Journal
import Tunnel.Proofs.Route.Request

/-!
# Adding one route

What one call on an installer does is a choice among four courses, told apart by the answers that it
gets: no support, no link-layer address, no request, or one submission. Only the last gives out a
number.

## Main definitions

* `RouteInstaller.verdict` — what an answer to a submission comes to
* `RouteInstaller.Addition` — the four courses of a call

## Main results

* `RouteInstaller.writes_add` — a call takes one of the four courses
* `RouteInstaller.Addition.submitted_eq_nil_iff` — and submits nothing in three of them
* `RouteInstaller.Addition.ok_iff` — it succeeds exactly when the whole message was taken
-/

namespace Tunnel.RouteInstaller

open Exchange (submitted)

variable {σ : Type} {backend : RouteBackend σ}

/-- What the answer to a submission of `length` octets comes to. -/
def verdict (length : Nat) : Except Error Nat → Except Error Unit
  | .error e => .error e
  | .ok written =>
    if written = length then .ok () else .error (.transactionIncomplete written length)

/-- What a call exchanges with the backend, and what it comes to. -/
inductive Addition (installer : RouteInstaller) (interface : String) (destination : RoutePrefix) :
    List Exchange → Attempt → Prop
  | unsupported :
    Addition installer interface destination [.support false]
      (.error (.notSupported "route installation"), installer)
  | unresolved (e : Error) :
    Addition installer interface destination [.support true, .linkAddress interface (.error e)]
      (.error e, installer)
  | unroutable (gateway : LinkAddress) (e : Error) :
    destination.length = 0 → RouteMessage.add destination gateway = .error e →
    Addition installer interface destination [.support true, .linkAddress interface (.ok gateway)]
      (.error e, installer)
  | sent (gateway : LinkAddress) (message : RouteMessage) (octets : Bytes)
      (answer : Except Error Nat) :
    0 < destination.length → RouteMessage.add destination gateway = .ok message →
    message.encode installer.next.lastSequence = .ok octets →
    Addition installer interface destination
      [.support true, .linkAddress interface (.ok gateway), .submit octets answer]
      (verdict octets.length answer, installer.next)

/-! ### One call -/

section Call

variable {installer : RouteInstaller} {interface : String} {destination : RoutePrefix}

theorem writes_submit {message : RouteMessage} {octets : Bytes}
    (h : message.encode installer.next.lastSequence = .ok octets) :
    (installer.submit backend.journaled interface destination message).Writes
      fun entries attempt => ∃ answer, entries = [.submit octets answer] ∧
        attempt = (verdict octets.length answer, installer.next) := by
  simp only [submit, h]
  refine .tell_bind ?_
  refine .bind (Journaled.writes_noting _ _) ?_
  rintro _ answer rfl
  cases answer with
  | error e => exact .pure ⟨_, rfl, rfl⟩
  | ok written =>
    by_cases hwhole : written = octets.length
    · simp only [if_pos hwhole]
      refine .tell_bind ?_
      exact .pure ⟨.ok written, rfl, by rw [verdict, if_pos hwhole]⟩
    · simp only [if_neg hwhole]
      exact .pure ⟨.ok written, rfl, by rw [verdict, if_neg hwhole]⟩

/-- **A call takes one of the four courses.** Which one, the answers tell. -/
theorem writes_add : (installer.add backend.journaled interface destination).Writes
    (Addition installer interface destination) := by
  refine .bind (Journaled.writes_noting _ _) ?_
  rintro _ supported rfl
  cases supported with
  | false => exact .pure .unsupported
  | true =>
    refine .bind (Journaled.writes_noting _ _) ?_
    rintro _ answer rfl
    cases answer with
    | error e => exact .pure (.unresolved e)
    | ok gateway =>
      dsimp only
      rcases Nat.eq_zero_or_pos destination.length with hzero | hpos
      · rw [RouteMessage.add_eq_error hzero]
        exact .pure (.unroutable gateway _ hzero (RouteMessage.add_eq_error hzero))
      · have hadd : RouteMessage.add destination gateway = .ok _ := RouteMessage.add_eq_ok hpos
        have hencode := (RouteMessage.walkable_request destination gateway).encode_eq
          installer.next.lastSequence
        rw [hadd]
        refine (writes_submit hencode).mono ?_
        rintro _ _ ⟨answer, rfl, rfl⟩
        exact .sent gateway _ _ answer hpos hadd hencode

theorem next_ne (installer : RouteInstaller) : installer.next ≠ installer := by
  intro h
  have hone : installer.lastSequence + 1 = installer.lastSequence := congrArg lastSequence h
  exact absurd (UInt32.add_eq_left.1 hone) (by decide)

namespace Addition

variable {entries : List Exchange} {attempt : Attempt}

/-- **Three courses submit nothing**, and they alone leave the installer as it was. -/
theorem submitted_eq_nil_iff (h : Addition installer interface destination entries attempt) :
    (submitted entries = [] ↔ entries = [.support false] ∨
      (∃ e, .linkAddress interface (.error e) ∈ entries) ∨ destination.length = 0) ∧
    (attempt.2 = installer ↔ submitted entries = []) := by
  cases h with
  | unsupported => exact ⟨iff_of_true rfl (.inl rfl), iff_of_true rfl rfl⟩
  | unresolved e => exact ⟨iff_of_true rfl (.inr (.inl ⟨e, by simp⟩)), iff_of_true rfl rfl⟩
  | unroutable gateway e hzero _ => exact ⟨iff_of_true rfl (.inr (.inr hzero)), iff_of_true rfl rfl⟩
  | sent gateway message octets answer hpos hadd hencode =>
    have hsome : submitted [.support true, .linkAddress interface (.ok gateway),
        .submit octets answer] ≠ [] := List.cons_ne_nil _ _
    refine ⟨iff_of_false hsome ?_, iff_of_false (next_ne installer) hsome⟩
    rintro (hlist | ⟨e, hmem⟩ | hzero)
    · cases hlist
    · simp at hmem
    · omega

theorem length_submitted_le (h : Addition installer interface destination entries attempt) :
    (submitted entries).length ≤ 1 := by
  cases h with
  | unsupported => exact Nat.zero_le 1
  | unresolved e => exact Nat.zero_le 1
  | unroutable gateway e _ _ => exact Nat.zero_le 1
  | sent gateway message octets answer _ _ _ => exact Nat.le_refl 1

/-- **A call succeeds** exactly when the whole message was taken. -/
theorem ok_iff (h : Addition installer interface destination entries attempt) :
    attempt.1 = .ok () ↔ ∃ octets, .submit octets (.ok octets.length) ∈ entries := by
  cases h with
  | unsupported => simp
  | unresolved e => simp
  | unroutable gateway e _ _ => simp
  | sent gateway message octets answer hpos hadd hencode =>
    cases answer with
    | error e => simp [verdict]
    | ok written =>
      by_cases hwhole : written = octets.length
      · exact iff_of_true (if_pos hwhole) ⟨octets, by simp [hwhole]⟩
      · refine iff_of_false (by simp [verdict, hwhole]) ?_
        rintro ⟨taken, hmem⟩
        have hlast : Exchange.submit taken (.ok taken.length) = .submit octets (.ok written) := by
          simpa only [List.mem_cons, reduceCtorEq, false_or, List.not_mem_nil, or_false] using hmem
        cases hlast
        exact hwhole rfl

end Addition

end Call

end Tunnel.RouteInstaller
