import Tunnel.Proofs.Session.Opening
import Tunnel.Scripted.Slot

/-!
# The life of sessions

A caller opens sessions, passes frames through them, closes them, drops them and opens new ones in
their place, in any order and with any number of them live at a time. Whatever the services answer,
each live session holds its interface, and the interfaces that were made are those that were
destroyed and those that are held: as collections, so that none is destroyed twice and none is
forgotten.

## Main definitions

* `Session.Move`, `Session.Reply` — what a caller does, and what comes back
* `Session.perform`, `Session.follow` — one move on the live sessions, and a run of moves
* `Session.Moved`, `Session.Life` — what a move exchanges and answers, and a run, move by move
* `Session.Balanced` — the invariant of a run

## Main results

* `Session.writes_perform` — a move does what `Moved` says, on sessions that hold their interfaces
* `Session.Balanced.move` — and keeps the invariant
* `Session.follow_balanced` — every run from no session on
-/

namespace Tunnel.Session

open Exchange (created destroyed)

variable {σ : Type}

/-! ### Moves -/

/-- What a caller does with sessions. Those that are live are named by their places. -/
inductive Move (σ : Type)
  /-- Opens a session. -/
  | opening (installer : RouteInstaller) (config : Config)
  /-- Does something with the interface of a session, such as reading or writing frames. -/
  | carry (place : Nat) (work : Interface → Action σ Unit)
  | close (place : Nat)
  | drop (place : Nat)
  /-- Drops the session in a place, if there is one, and opens another. -/
  | replace (place : Nat) (config : Config)

/-- The place of the session that the move needs. -/
def Move.place? : Move σ → Option Nat
  | carry place _ => some place
  | close place => some place
  | drop place => some place
  | opening .. => none
  | replace .. => none

/-- What comes back from a move. -/
inductive Reply
  | opened (result : Except Error Session)
  | carried (interface : Except Error Interface)
  | closed (answer : Except Error Unit)
  | dropped
  /-- There is no session in that place. -/
  | absent

/-- The live sessions after an opening. -/
def push (result : Except Error Session) (live : List Session) : List Session :=
  result.toOption.toList ++ live

/-- Carries a move out. -/
def perform (allocator : Allocator σ) (backend : RouteBackend σ) (live : List Session) :
    Move σ → Action σ (Reply × List Session)
  | .opening installer config => do
    let result ← openWith allocator backend installer config
    return (.opened result, push result live)
  | .carry place work =>
    match live[place]? with
    | none => return (.absent, live)
    | some session =>
      match session.interface with
      | .error e => return (.carried (.error e), live)
      | .ok interface => do
        work interface
        return (.carried (.ok interface), live)
  | .close place =>
    match live[place]? with
    | none => return (.absent, live)
    | some session => do
      let answer ← session.close allocator
      return (.closed answer, live.eraseIdx place)
  | .drop place =>
    match live[place]? with
    | none => return (.absent, live)
    | some session => do
      session.drop allocator
      return (.dropped, live.eraseIdx place)
  | .replace place config => do
    let result ← Scripted.Slot.openSession allocator backend config live[place]?
    return (.opened result, push result (live.eraseIdx place))

/-- Carries moves out, one after the other. -/
def follow (allocator : Allocator σ) (backend : RouteBackend σ) : List Session → List (Move σ) →
    Action σ (List Reply × List Session)
  | live, [] => return ([], live)
  | live, move :: later => do
    let (reply, live) ← perform allocator backend live move
    let (replies, live) ← follow allocator backend live later
    return (reply :: replies, live)

/-- The same move in a world with a journal. What is done with an interface is not noted. -/
def Move.journaled : Move σ → Move (Journaled σ)
  | opening installer config => opening installer config
  | carry place work => carry place fun interface => Journaled.lift (work interface)
  | close place => close place
  | drop place => drop place
  | replace place config => replace place config

/-! ### What a move does -/

/-- What a move exchanges and answers, and which sessions are live after it. -/
inductive Moved (live : List Session) :
    Move σ → List Exchange → Reply × List Session → Prop
  | opened {installer : RouteInstaller} {config : Config} {entries : List Exchange}
    {result : Except Error Session} :
    Opening installer config entries result →
    Moved live (.opening installer config) entries (.opened result, push result live)
  | carried {place : Nat} {work : Interface → Action σ Unit} {session : Session}
    {interface : Interface} :
    live[place]? = some session → session.Holds interface →
    Moved live (.carry place work) [] (.carried (.ok interface), live)
  | closed {place : Nat} {session : Session} {interface : Interface}
    (answer : Except Error Unit) :
    live[place]? = some session → session.Holds interface →
    Moved live (.close place) [.destroy interface answer] (.closed answer, live.eraseIdx place)
  | dropped {place : Nat} {session : Session} {interface : Interface}
    (answer : Except Error Unit) :
    live[place]? = some session → session.Holds interface →
    Moved live (.drop place) [.destroy interface answer] (.dropped, live.eraseIdx place)
  | replaced {place : Nat} {config : Config} {session : Session} {interface : Interface}
    {entries : List Exchange} {result : Except Error Session} (answer : Except Error Unit) :
    live[place]? = some session → session.Holds interface →
    Opening .fresh config entries result →
    Moved live (.replace place config) (.destroy interface answer :: entries)
      (.opened result, push result (live.eraseIdx place))
  | filled {place : Nat} {config : Config} {entries : List Exchange}
    {result : Except Error Session} :
    live[place]? = none → Opening .fresh config entries result →
    Moved live (.replace place config) entries (.opened result, push result live)
  | absent {move : Move σ} {place : Nat} :
    move.place? = some place → live[place]? = none → Moved live move [] (.absent, live)

/-- A run of moves. -/
inductive Life : List Session → List (Move σ) → List Exchange →
    List Reply × List Session → Prop
  | done (live : List Session) : Life live [] [] ([], live)
  | move {live after last : List Session} {move : Move σ} {later : List (Move σ)}
    {entries rest : List Exchange} {reply : Reply} {replies : List Reply} :
    Moved live move entries (reply, after) → Life after later rest (replies, last) →
    Life live (move :: later) (entries ++ rest) (reply :: replies, last)

/-- Every one of the sessions holds its interface. -/
def AllHold (live : List Session) : Prop :=
  ∀ session ∈ live, ∃ interface, session.Holds interface

section Step

variable {allocator : Allocator σ} {backend : RouteBackend σ} {live : List Session}

theorem AllHold.at (h : AllHold live) {place : Nat} {session : Session}
    (hat : live[place]? = some session) : ∃ interface, session.Holds interface :=
  h session (List.mem_of_getElem? hat)

/-- A new session in the place of another one: that one ends first. -/
theorem writes_openSession_some {session : Session} {interface : Interface}
    (h : session.held = some interface) (config : Config) :
    (Scripted.Slot.openSession allocator.journaled backend.journaled config (some session)).Writes
      fun entries result => ∃ answer rest, entries = .destroy interface answer :: rest ∧
        Opening .fresh config rest result := by
  refine .bind (P := fun entries _ => ∃ answer, entries = [.destroy interface answer]) ?_ ?_
  · refine .bind (writes_drop h) ?_
    rintro _ _ ⟨answer, rfl⟩
    exact .pure ⟨answer, rfl⟩
  · rintro _ _ ⟨answer, rfl⟩
    refine (writes_openWith .fresh config).mono ?_
    intro rest result hopening
    exact ⟨answer, rest, rfl, hopening⟩

theorem writes_openSession_none (config : Config) :
    (Scripted.Slot.openSession allocator.journaled backend.journaled config none).Writes
      (Opening .fresh config) := by
  refine .bind (P := fun entries _ => entries = []) (.pure rfl) ?_
  rintro _ _ rfl
  exact writes_openWith .fresh config

/-- A new session in a place, whether or not there is one already. -/
theorem writes_replace (h : AllHold live) (place : Nat) (config : Config) :
    (perform allocator.journaled backend.journaled live (.replace place config)).Writes
      (Moved live (.replace place config : Move σ)) := by
  rw [perform]
  cases hat : live[place]? with
  | none =>
    refine .bind (writes_openSession_none config) ?_
    intro entries result hopening
    refine .pure ?_
    rw [List.append_nil, List.eraseIdx_of_length_le (List.getElem?_eq_none_iff.1 hat)]
    exact .filled hat hopening
  | some session =>
    obtain ⟨interface, hholds⟩ := h.at hat
    refine .bind (writes_openSession_some hholds.1 config) ?_
    rintro _ result ⟨answer, rest, rfl, hopening⟩
    refine .pure ?_
    rw [List.append_nil]
    exact .replaced answer hat hholds hopening

/-- **A move** on sessions that hold their interfaces does what `Moved` says. -/
theorem writes_perform (h : AllHold live) (move : Move σ) :
    (perform allocator.journaled backend.journaled live move.journaled).Writes
      (Moved live move) := by
  cases move with
  | opening installer config =>
    refine .bind (writes_openWith installer config) ?_
    intro entries result hopening
    refine .pure ?_
    rw [List.append_nil]
    exact .opened hopening
  | carry place work =>
    rw [Move.journaled, perform]
    cases hat : live[place]? with
    | none => exact .pure (.absent rfl hat)
    | some session =>
      obtain ⟨interface, hholds⟩ := h.at hat
      simp only [hholds.interface_eq]
      refine .bind (Journaled.writes_lift _) ?_
      rintro _ _ rfl
      exact .pure (.carried hat hholds)
  | close place =>
    rw [Move.journaled, perform]
    cases hat : live[place]? with
    | none => exact .pure (.absent rfl hat)
    | some session =>
      obtain ⟨interface, hholds⟩ := h.at hat
      refine .bind (writes_close hholds.1) ?_
      rintro _ answer rfl
      exact .pure (.closed answer hat hholds)
  | drop place =>
    rw [Move.journaled, perform]
    cases hat : live[place]? with
    | none => exact .pure (.absent rfl hat)
    | some session =>
      obtain ⟨interface, hholds⟩ := h.at hat
      refine .bind (writes_drop hholds.1) ?_
      rintro _ _ ⟨answer, rfl⟩
      exact .pure (.dropped answer hat hholds)
  | replace place config => exact writes_replace h place config

theorem erases_openSession (slot : Scripted.Slot) (config : Config) :
    Action.Erases Journaled.world
      (slot.openSession allocator.journaled backend.journaled config)
      (slot.openSession allocator backend config) := by
  refine .bind ?_ fun _ =>
    erases_openWith allocator.erases_journaled backend.erases_journaled .fresh config
  cases slot with
  | none => exact .pure _
  | some session =>
    exact .bind (erases_drop allocator.erases_journaled session) fun _ => .pure _

theorem erases_perform (allocator : Allocator σ) (backend : RouteBackend σ) (live : List Session)
    (move : Move σ) :
    Action.Erases Journaled.world
      (perform allocator.journaled backend.journaled live move.journaled)
      (perform allocator backend live move) := by
  have ha := allocator.erases_journaled
  have hb := backend.erases_journaled
  cases move with
  | opening installer config =>
    exact .bind (erases_openWith ha hb installer config) fun _ => .pure _
  | carry place work =>
    rw [Move.journaled, perform, perform]
    cases live[place]? with
    | none => exact .pure _
    | some session =>
      dsimp only
      cases session.interface with
      | error e => exact .pure _
      | ok interface => exact .bind (Journaled.erases_lift _) fun _ => .pure _
  | close place =>
    rw [Move.journaled, perform, perform]
    cases live[place]? with
    | none => exact .pure _
    | some session => exact .bind (erases_close ha session) fun _ => .pure _
  | drop place =>
    rw [Move.journaled, perform, perform]
    cases live[place]? with
    | none => exact .pure _
    | some session => exact .bind (erases_drop ha session) fun _ => .pure _
  | replace place config =>
    exact .bind (erases_openSession live[place]? config) fun _ => .pure _

end Step

/-! ### The invariant -/

/-- Every live session holds its interface; and what was made is what was destroyed and what the
live sessions hold. -/
structure Balanced (journal : List Exchange) (live : List Session) : Prop where
  allHold : AllHold live
  balance : (created journal).Perm (destroyed journal ++ live.filterMap held)

section Invariant

variable {journal entries : List Exchange} {live after : List Session} {reply : Reply}

theorem AllHold.erase (h : AllHold live) (place : Nat) : AllHold (live.eraseIdx place) :=
  fun session hmem => h session (List.mem_of_mem_eraseIdx hmem)

theorem AllHold.push (h : AllHold live) {installer : RouteInstaller} {config : Config}
    {result : Except Error Session} (hopening : Opening installer config entries result) :
    AllHold (push result live) := by
  cases result with
  | error e => exact h
  | ok session =>
    show AllHold (session :: live)
    exact List.forall_mem_cons.2 ⟨hopening.holds, h⟩

/-- The interfaces of the live sessions are those of the one that goes and of those that stay. -/
theorem filterMap_held_perm {place : Nat} {session : Session} {interface : Interface}
    (hat : live[place]? = some session) (hholds : session.Holds interface) :
    (live.filterMap held).Perm (interface :: (live.eraseIdx place).filterMap held) := by
  obtain ⟨hplace, rfl⟩ := List.getElem?_eq_some_iff.1 hat
  have hperm := (List.getElem_cons_eraseIdx_perm hplace).symm.filterMap held
  rwa [List.filterMap_cons_some hholds.1] at hperm

namespace Balanced

theorem start : Balanced [] [] := ⟨fun _ h => absurd h List.not_mem_nil, .refl _⟩

/-- What has ended has been destroyed. -/
theorem destroy (h : Balanced journal live) {place : Nat} {session : Session}
    {interface : Interface} (answer : Except Error Unit) (hat : live[place]? = some session)
    (hholds : session.Holds interface) :
    Balanced (journal ++ [.destroy interface answer]) (live.eraseIdx place) where
  allHold := h.allHold.erase place
  balance := by
    have hlive := filterMap_held_perm hat hholds
    have hsplit : destroyed journal ++ interface :: (live.eraseIdx place).filterMap held =
        destroyed journal ++ [interface] ++ (live.eraseIdx place).filterMap held := by simp
    rw [Exchange.created_append, Exchange.destroyed_append]
    show (created journal ++ []).Perm
      (destroyed journal ++ [interface] ++ (live.eraseIdx place).filterMap held)
    rw [List.append_nil, ← hsplit]
    exact h.balance.trans (hlive.append_left _)

/-- What was opened holds what was made for it. -/
theorem opening (h : Balanced journal live) {installer : RouteInstaller} {config : Config}
    {result : Except Error Session} (hopening : Opening installer config entries result) :
    Balanced (journal ++ entries) (push result live) where
  allHold := h.allHold.push hopening
  balance := by
    rw [List.perm_iff_count]
    intro interface
    have hold := h.balance.count_eq interface
    have hnew := hopening.balance.count_eq interface
    rw [Exchange.created_append, Exchange.destroyed_append, Session.push, List.filterMap_append]
    simp only [List.count_append] at hold hnew ⊢
    omega

/-- **A move keeps the invariant.** -/
theorem move {move : Move σ} (h : Balanced journal live)
    (hmoved : Moved live move entries (reply, after)) : Balanced (journal ++ entries) after := by
  cases hmoved with
  | opened hopening => exact h.opening hopening
  | carried _ _ =>
    rw [List.append_nil]
    exact h
  | closed answer hat hholds => exact h.destroy answer hat hholds
  | dropped answer hat hholds => exact h.destroy answer hat hholds
  | replaced answer hat hholds hopening =>
    rw [List.append_cons]
    exact (h.destroy answer hat hholds).opening hopening
  | filled _ hopening => exact h.opening hopening
  | absent _ _ =>
    rw [List.append_nil]
    exact h

theorem life {moves : List (Move σ)} {outcome : List Reply × List Session}
    (h : Balanced journal live) (hlife : Life live moves entries outcome) :
    Balanced (journal ++ entries) outcome.2 := by
  induction hlife generalizing journal with
  | done live =>
    rw [List.append_nil]
    exact h
  | move hmoved _ ih =>
    rw [← List.append_assoc]
    exact ih (h.move hmoved)

end Balanced

end Invariant

/-! ### Runs -/

section Run

variable (allocator : Allocator σ) (backend : RouteBackend σ)

/-- A run, from wherever the invariant holds. -/
theorem writes_follow {journal : List Exchange} {live : List Session} (h : Balanced journal live)
    (moves : List (Move σ)) :
    (follow allocator.journaled backend.journaled live (moves.map Move.journaled)).Writes
      (Life live moves) := by
  induction moves generalizing journal live with
  | nil => exact .pure (.done live)
  | cons move later ih =>
    refine .bind (writes_perform h.allHold move) ?_
    rintro entries ⟨reply, after⟩ hmoved
    refine .bind (ih (h.move hmoved)) ?_
    rintro rest ⟨replies, last⟩ hlife
    refine .pure ?_
    rw [List.append_nil]
    exact .move hmoved hlife

theorem erases_follow (live : List Session) (moves : List (Move σ)) :
    Action.Erases Journaled.world
      (follow allocator.journaled backend.journaled live (moves.map Move.journaled))
      (follow allocator backend live moves) := by
  induction moves generalizing live with
  | nil => exact .pure _
  | cons move later ih =>
    refine .bind (erases_perform allocator backend live move) ?_
    rintro ⟨reply, after⟩
    exact .bind (ih after) fun _ => .pure _

/-- **The life of sessions.** Whatever the allocator and the backend answer, and whatever the caller
does: each move does what `Moved` says; every live session shows its interface, which has the name
of the session; and the interfaces that were made are, one for one, those that were destroyed and
those that the live sessions hold. -/
theorem follow_balanced (moves : List (Move σ)) (world : σ) :
    ∃ journal,
      (follow allocator.journaled backend.journaled [] (moves.map Move.journaled)).run
          (.ofWorld world) =
        ⟨((follow allocator backend [] moves).run world).answer,
          ((follow allocator backend [] moves).run world).notices,
          ⟨((follow allocator backend [] moves).run world).world, journal⟩⟩ ∧
      Life [] moves journal ((follow allocator backend [] moves).run world).answer ∧
      (∀ session ∈ ((follow allocator backend [] moves).run world).answer.2,
        ∃ interface, session.interface = .ok interface ∧ interface.name = session.name) ∧
      (created journal).Perm (destroyed journal ++
        ((follow allocator backend [] moves).run world).answer.2.filterMap held) := by
  obtain ⟨journal, hrun, hlife⟩ := Journaled.run_ofWorld (erases_follow allocator backend [] moves)
    (writes_follow allocator backend .start moves) world
  have hbalanced : Balanced journal _ := Balanced.start.life hlife
  refine ⟨journal, hrun, hlife, ?_, hbalanced.balance⟩
  intro session hmem
  obtain ⟨interface, hholds⟩ := hbalanced.allHold session hmem
  exact ⟨interface, hholds.interface_eq, hholds.2.symm⟩

end Run

end Tunnel.Session
