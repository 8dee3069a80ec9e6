import Tunnel.Proofs.Erasure

/-!
# Journals

What passes between the library and the services it is given: each call on an allocator or a routing
backend, with its answer. A journaled world is any world together with the exchanges so far, so that
a statement about calls and their answers is a statement about a list.

An action *writes* entries: it adds them to the journal of whatever world it runs in. What it may
write, with which answer, is stated as a relation between the two, and such statements follow the
steps of the action.

## Main definitions

* `Exchange` — a call with its answer
* `Journaled` — a world with the exchanges so far
* `Allocator.journaled`, `RouteBackend.journaled` — the same services, with a journal
* `Journaled.after` — the same world, with exchanges from before
* `Action.Writes` — what an action adds to the journal, related to its answer
* `Exchange.created`, `Exchange.destroyed`, `Exchange.submitted`, `Exchange.accepted` — what a
  journal tells of

## Main results

* `Allocator.erases_journaled`, `RouteBackend.erases_journaled` — a journal changes no answer
* `Action.Writes.bind` — what two steps write, one after the other
* `Journaled.run_ofWorld` — a run with a journal is the plain run, with what it writes
-/

namespace Tunnel

variable {σ α β : Type}

/-- A call on an allocator or a routing backend, with its answer. -/
inductive Exchange
  | create (requested : Option String) (answer : Except Error Interface)
  | destroy (interface : Interface) (answer : Except Error Unit)
  | support (answer : Bool)
  | linkAddress (interface : String) (answer : Except Error LinkAddress)
  | submit (message : Bytes) (answer : Except Error Nat)

/-- A world with the exchanges so far, the first exchange first. -/
structure Journaled (σ : Type) where
  world : σ
  journal : List Exchange

/-- What an action adds to the journal, and what it answers, are related by `P`, in whatever world
it runs. -/
def Action.Writes (x : Action (Journaled σ) α) (P : List Exchange → α → Prop) : Prop :=
  ∀ s, ∃ entries, (x.run s).world.journal = s.journal ++ entries ∧ P entries (x.run s).answer

namespace Action.Writes

protected theorem pure {a : α} {P : List Exchange → α → Prop} (h : P [] a) :
    Writes (σ := σ) (pure a) P :=
  fun s => ⟨[], (List.append_nil s.journal).symm, h⟩

protected theorem tell {notice : Notice} {P : List Exchange → Unit → Prop} (h : P [] ()) :
    Writes (σ := σ) (tell notice) P :=
  fun s => ⟨[], (List.append_nil s.journal).symm, h⟩

/-- **Sequencing.** The second step starts where the first one left the journal. -/
protected theorem bind {x : Action (Journaled σ) α} {f : α → Action (Journaled σ) β}
    {P : List Exchange → α → Prop} {Q : List Exchange → β → Prop} (hx : Writes x P)
    (hf : ∀ entries a, P entries a → Writes (f a) fun later b => Q (entries ++ later) b) :
    Writes (x >>= f) Q := by
  intro s
  obtain ⟨entries, hs, hP⟩ := hx s
  obtain ⟨later, hl, hQ⟩ := hf entries _ hP (x.run s).world
  refine ⟨entries ++ later, ?_, hQ⟩
  rw [run_bind, ← List.append_assoc, ← hs]
  exact hl

/-- A notice on the way writes nothing. -/
theorem tell_bind {notice : Notice} {f : Unit → Action (Journaled σ) α}
    {P : List Exchange → α → Prop} (h : Writes (f ()) P) : Writes (tell notice >>= f) P := by
  refine .bind (P := fun entries _ => entries = []) (.tell rfl) ?_
  rintro _ _ rfl
  exact h

theorem mono {x : Action (Journaled σ) α} {P Q : List Exchange → α → Prop} (hx : Writes x P)
    (h : ∀ entries a, P entries a → Q entries a) : Writes x Q := by
  intro s
  obtain ⟨entries, hs, hP⟩ := hx s
  exact ⟨entries, hs, h _ _ hP⟩

end Action.Writes

namespace Journaled

/-- A world with an empty journal. -/
def ofWorld (world : σ) : Journaled σ := ⟨world, []⟩

/-- Carries a call out and notes it with its answer. -/
def noting (exchange : α → Exchange) (x : Action σ α) : Action (Journaled σ) α := fun s =>
  let outcome := x s.world
  ⟨outcome.answer, outcome.notices, ⟨outcome.world, s.journal ++ [exchange outcome.answer]⟩⟩

/-- Carries an action out of which the journal takes no note. -/
def lift (x : Action σ α) : Action (Journaled σ) α := fun s =>
  let outcome := x s.world
  ⟨outcome.answer, outcome.notices, ⟨outcome.world, s.journal⟩⟩

theorem erases_noting (exchange : α → Exchange) (x : Action σ α) :
    Action.Erases Journaled.world (noting exchange x) x := fun _ => rfl

theorem erases_lift (x : Action σ α) : Action.Erases Journaled.world (lift x) x := fun _ => rfl

theorem writes_noting (exchange : α → Exchange) (x : Action σ α) :
    Action.Writes (noting exchange x) fun entries a => entries = [exchange a] :=
  fun _ => ⟨_, rfl, rfl⟩

/-- An action that erases to `y` does what `y` does, and leaves some journal. -/
theorem exists_run_ofWorld {x : Action (Journaled σ) α} {y : Action σ α}
    (hx : Action.Erases Journaled.world x y) (world : σ) :
    ∃ journal, x.run (ofWorld world) =
      ⟨(y.run world).answer, (y.run world).notices, ⟨(y.run world).world, journal⟩⟩ := by
  have herased : (x.run (ofWorld world)).onWorld Journaled.world = y.run world := hx _
  exact ⟨(x.run (ofWorld world)).world.journal, by rw [← herased]; rfl⟩

/-- An action that erases to `y` does what `y` does, and leaves what it writes as the journal. -/
theorem run_ofWorld {x : Action (Journaled σ) α} {y : Action σ α} {P : List Exchange → α → Prop}
    (hx : Action.Erases Journaled.world x y) (hw : x.Writes P) (world : σ) :
    ∃ journal, x.run (ofWorld world) =
        ⟨(y.run world).answer, (y.run world).notices, ⟨(y.run world).world, journal⟩⟩ ∧
      P journal (y.run world).answer := by
  obtain ⟨journal, hjournal, hP⟩ := hw (ofWorld world)
  obtain ⟨written, hrun⟩ := exists_run_ofWorld hx world
  rw [hrun] at hjournal hP
  obtain rfl : written = journal := hjournal
  exact ⟨written, hrun, hP⟩

theorem writes_lift (x : Action σ α) : Action.Writes (lift x) fun entries _ => entries = [] :=
  fun s => ⟨[], (List.append_nil s.journal).symm, rfl⟩

end Journaled

/-- The allocator with a journal. -/
def Allocator.journaled (allocator : Allocator σ) : Allocator (Journaled σ) where
  create requested := Journaled.noting (.create requested) (allocator.create requested)
  destroy interface := Journaled.noting (.destroy interface) (allocator.destroy interface)

/-- The backend with a journal. -/
def RouteBackend.journaled (backend : RouteBackend σ) : RouteBackend (Journaled σ) where
  linkAddress interface :=
    Journaled.noting (.linkAddress interface) (backend.linkAddress interface)
  isSupported := Journaled.noting .support backend.isSupported
  submit message := Journaled.noting (.submit message) (backend.submit message)

theorem Allocator.run_create_journaled {allocator : Allocator σ} {requested : Option String}
    (s : Journaled σ) {outcome : Outcome σ (Except Error Interface)}
    (h : (allocator.create requested).run s.world = outcome) :
    (allocator.journaled.create requested).run s = ⟨outcome.answer, outcome.notices,
      ⟨outcome.world, s.journal ++ [.create requested outcome.answer]⟩⟩ := by
  subst h
  rfl

theorem Allocator.run_destroy_journaled {allocator : Allocator σ} {interface : Interface}
    (s : Journaled σ) {outcome : Outcome σ (Except Error Unit)}
    (h : (allocator.destroy interface).run s.world = outcome) :
    (allocator.journaled.destroy interface).run s = ⟨outcome.answer, outcome.notices,
      ⟨outcome.world, s.journal ++ [.destroy interface outcome.answer]⟩⟩ := by
  subst h
  rfl

theorem Allocator.erases_journaled (allocator : Allocator σ) :
    allocator.journaled.Erases Journaled.world allocator where
  create _ := Journaled.erases_noting _ _
  destroy _ := Journaled.erases_noting _ _

theorem RouteBackend.erases_journaled (backend : RouteBackend σ) :
    backend.journaled.Erases Journaled.world backend where
  linkAddress _ := Journaled.erases_noting _ _
  isSupported := Journaled.erases_noting _ _
  submit _ := Journaled.erases_noting _ _

/-! ### Exchanges from before -/

/-- The same world, with exchanges from before those that its journal holds. -/
def Journaled.after (earlier : List Exchange) (s : Journaled σ) : Journaled σ :=
  ⟨s.world, earlier ++ s.journal⟩

theorem Journaled.erases_after_noting (earlier : List Exchange) (exchange : α → Exchange)
    (x : Action σ α) :
    Action.Erases (Journaled.after earlier) (noting exchange x) (noting exchange x) := by
  intro s
  simp [Outcome.onWorld, Action.run, noting, after]

/-- An action to which it is of no consequence what the journal holds from before adds to it what it
leaves in an empty one. -/
theorem Journaled.run_after {x : Action (Journaled σ) α} {earlier : List Exchange}
    (hx : Action.Erases (Journaled.after earlier) x x) {world next : σ} {answer : α}
    {notices : List Notice} {journal : List Exchange}
    (h : x.run (ofWorld world) = ⟨answer, notices, ⟨next, journal⟩⟩) :
    x.run ⟨world, earlier⟩ = ⟨answer, notices, ⟨next, earlier ++ journal⟩⟩ := by
  have hrun := hx (ofWorld world)
  rw [h, after, ofWorld, List.append_nil] at hrun
  exact hrun.symm

/-- What the journal holds from before is of no consequence to the backend. -/
theorem RouteBackend.erases_after (earlier : List Exchange) (backend : RouteBackend σ) :
    backend.journaled.Erases (Journaled.after earlier) backend.journaled where
  linkAddress _ := Journaled.erases_after_noting _ _ _
  isSupported := Journaled.erases_after_noting _ _ _
  submit _ := Journaled.erases_after_noting _ _ _

/-! ### What a journal tells of -/

namespace Exchange

/-- The interface that the call has made, if it has made one. -/
def created? : Exchange → Option Interface
  | create _ (.ok interface) => some interface
  | _ => none

/-- The interface that the call was to take away, whatever came of it. -/
def destroyed? : Exchange → Option Interface
  | destroy interface _ => some interface
  | _ => none

/-- The message that the call submitted, whatever came of it. -/
def submitted? : Exchange → Option Bytes
  | submit message _ => some message
  | _ => none

/-- The message that the call got accepted, in full or in part. -/
def accepted? : Exchange → Option Bytes
  | submit message (.ok _) => some message
  | _ => none

/-- The interfaces that were made, in order. -/
def created (journal : List Exchange) : List Interface := journal.filterMap created?

/-- The interfaces of the calls to take one away, in order. -/
def destroyed (journal : List Exchange) : List Interface := journal.filterMap destroyed?

/-- The messages that were submitted, in order. -/
def submitted (journal : List Exchange) : List Bytes := journal.filterMap submitted?

/-- The messages that were accepted, in order. -/
def accepted (journal : List Exchange) : List Bytes := journal.filterMap accepted?

@[simp] theorem created_append (journal later : List Exchange) :
    created (journal ++ later) = created journal ++ created later := List.filterMap_append

@[simp] theorem destroyed_append (journal later : List Exchange) :
    destroyed (journal ++ later) = destroyed journal ++ destroyed later := List.filterMap_append

@[simp] theorem submitted_append (journal later : List Exchange) :
    submitted (journal ++ later) = submitted journal ++ submitted later := List.filterMap_append

@[simp] theorem accepted_append (journal later : List Exchange) :
    accepted (journal ++ later) = accepted journal ++ accepted later := List.filterMap_append

end Exchange

end Tunnel
