import Tunnel.Proofs.Route.Numbering
import Tunnel.Proofs.Route.Sweep

/-!
# What opening a session amounts to

Opening a session goes along all routes of the configuration, in one loop that passes over the
routes whose family is not enabled and has three ways out. It amounts to sweeping the enabled routes
into the interface: the same is exchanged with the backend, and the answer is that of the sweep,
where missing support counts as success and any other failure has the interface destroyed.

## Main definitions

* `Session.walk`, `Session.settle` — the loop, and what is made of its outcome
* `Session.failure?` — the outcomes of a sweep that count as failures
* `Session.Stops`, `Session.Weaves` — how far the loop goes, and what it states on the way
* `Session.Refines` — an opening amounts to a sweep

## Main results

* `Session.openWith_eq` — opening a session is a walk and a settlement
* `Session.run_walk` — a walk does what a sweep of the enabled routes does
* `Session.openWith_congr` — of the families it matters only which there are
* `Session.openWith_refines` — opening a session amounts to a sweep
-/

namespace Tunnel.Session

open RouteInstaller (Attempt addAll)

variable {σ τ : Type} {allocator : Allocator σ} {backend : RouteBackend σ} {config : Config}
  {interface : Interface}

/-! ### The loop and its settlement -/

/-- Goes along the routes: adds each whose family is enabled, up to the first that is not added, and
says of each other that it is passed over. -/
def walk (backend : RouteBackend σ) (config : Config) (interface : String) :
    RouteInstaller → List RoutePrefix → Action σ Attempt
  | installer, [] => return (.ok (), installer)
  | installer, route :: later =>
    if config.familyEnabled route.family then do
      let (result, installer) ← installer.add backend interface route
      match result with
      | .ok () => walk backend config interface installer later
      | .error e => return (.error e, installer)
    else do
      Action.tell (.skippingRoute route.toText route.family)
      walk backend config interface installer later

/-- What is made of the outcome: a session, unless a route failed for another reason than that
routes are not supported. -/
def conclude (allocator : Allocator σ) (interface : Interface) :
    Attempt → Action σ (Except Error Session)
  | (.ok (), after) => return .ok ⟨interface.name, some interface, after⟩
  | (.error (.notSupported what), after) => do
    Action.tell (.notInstalling what)
    return .ok ⟨interface.name, some interface, after⟩
  | (.error e, after) => do
    let session ← (⟨interface.name, some interface, after⟩ : Session).teardown allocator
    session.drop allocator
    return .error e

theorem installRoutes_eq (routes : List RoutePrefix) (installer : RouteInstaller) :
    installRoutes allocator backend config routes ⟨interface.name, some interface, installer⟩ =
      walk backend config interface.name installer routes >>= conclude allocator interface := by
  induction routes generalizing installer with
  | nil => rfl
  | cons route later ih =>
    rw [installRoutes, walk]
    by_cases h : config.familyEnabled route.family = true
    · simp only [if_pos h, bind_assoc]
      refine congrArg _ (funext ?_)
      rintro ⟨result, after⟩
      cases result with
      | ok _ => exact ih after
      | error e =>
        simp only [pure_bind]
        cases e <;> rfl
    · simp only [if_neg h, bind_assoc, ih]

/-- The same, and then the session is said to be open. -/
def settle (allocator : Allocator σ) (interface : Interface) (attempt : Attempt) :
    Action σ (Except Error Session) := do
  match ← conclude allocator interface attempt with
  | .error e => return .error e
  | .ok session =>
    Action.tell (.sessionOpen session.name)
    return .ok session

/-- **Opening a session is a walk and a settlement.** -/
theorem openWith_eq (installer : RouteInstaller) (config : Config) :
    openWith allocator backend installer config = (do
      match ← allocator.create config.interface with
      | .error e => return .error e
      | .ok interface =>
        walk backend config interface.name installer config.routes >>=
          settle allocator interface) := by
  rw [openWith]
  refine congrArg _ (funext fun answer => ?_)
  cases answer with
  | error e => rfl
  | ok interface =>
    simp only [installRoutes_eq, bind_assoc]
    rfl

/-- The failure that an outcome counts as; missing support is none. -/
def failure? : Except Error Unit → Option Error
  | .ok () => none
  | .error (.notSupported _) => none
  | .error e => some e

theorem failure?_eq_none_iff {result : Except Error Unit} :
    failure? result = none ↔ result = .ok () ∨ ∃ what, result = .error (.notSupported what) := by
  cases result with
  | ok _ => simp [failure?]
  | error e => cases e <;> simp [failure?]

/-- An outcome that is no failure is settled without the services. -/
theorem run_settle_kept {attempt : Attempt} (h : failure? attempt.1 = none) (world : σ) :
    ((settle allocator interface attempt).run world).answer =
        .ok ⟨interface.name, some interface, attempt.2⟩ ∧
      ((settle allocator interface attempt).run world).world = world := by
  obtain ⟨result, after⟩ := attempt
  rcases failure?_eq_none_iff.1 h with rfl | ⟨what, rfl⟩ <;> exact ⟨rfl, rfl⟩

theorem conclude_failure {attempt : Attempt} {e : Error} (h : failure? attempt.1 = some e) :
    conclude allocator interface attempt = (do
      let session ← (⟨interface.name, some interface, attempt.2⟩ : Session).teardown allocator
      session.drop allocator
      return .error e) := by
  obtain ⟨result, after⟩ := attempt
  cases result with
  | ok _ => cases h
  | error failure =>
    cases failure
    case notSupported => cases h
    all_goals
      cases h
      rfl

/-- A failure is settled by one destruction, whatever comes of that. -/
theorem run_settle_undone {attempt : Attempt} {e : Error} (h : failure? attempt.1 = some e)
    (world : σ) :
    ((settle allocator interface attempt).run world).answer = .error e ∧
      ((settle allocator interface attempt).run world).world =
        ((allocator.destroy interface).run world).world := by
  rw [settle, conclude_failure h]
  cases hanswer : ((allocator.destroy interface).run world).answer <;>
    simp [teardown, drop, released, hanswer]

theorem answer_settle (attempt : Attempt) (world : σ) :
    ((settle allocator interface attempt).run world).answer =
      match failure? attempt.1 with
      | none => .ok ⟨interface.name, some interface, attempt.2⟩
      | some e => .error e := by
  cases hfail : failure? attempt.1 with
  | none => exact (run_settle_kept hfail world).1
  | some e => exact (run_settle_undone hfail world).1

theorem journal_settle (attempt : Attempt) (s : Journaled σ) :
    ((settle allocator.journaled interface attempt).run s).world.journal =
      s.journal ++ (failure? attempt.1).toList.map fun _ =>
        .destroy interface ((allocator.destroy interface).run s.world).answer := by
  cases hfail : failure? attempt.1 with
  | none =>
    rw [(run_settle_kept hfail s).2]
    simp
  | some e =>
    rw [(run_settle_undone hfail s).2]
    rfl

/-! ### How far the loop goes -/

/-- How far a walk goes, and what comes of the routes that it adds: all is visited and added, or the
last route visited is the first that is not added. -/
inductive Stops (config : Config) : (visited unvisited : List RoutePrefix) →
    List (Except Error Unit) → Except Error Unit → Prop
  | through {visited : List RoutePrefix} {results : List (Except Error Unit)}
    (hadded : ∀ result ∈ results, result = .ok ()) : Stops config visited [] results (.ok ())
  | short {earlier unvisited : List RoutePrefix} {route : RoutePrefix}
    {results : List (Except Error Unit)} {e : Error}
    (henabled : config.familyEnabled route.family = true)
    (hadded : ∀ result ∈ results, result = .ok ()) :
    Stops config (earlier ++ [route]) unvisited (results ++ [.error e]) (.error e)

/-- What is stated on the way: the statements of the calls, with one more for each route that is
passed over. -/
inductive Weaves (config : Config) : (visited : List RoutePrefix) → (stated woven : List Notice) →
    Prop
  | done : Weaves config [] [] []
  | added {route : RoutePrefix} {later : List RoutePrefix} {first stated woven : List Notice}
    (henabled : config.familyEnabled route.family = true) :
    Weaves config later stated woven →
    Weaves config (route :: later) (first ++ stated) (first ++ woven)
  | skipped {route : RoutePrefix} {later : List RoutePrefix} {stated woven : List Notice}
    (hdisabled : config.familyEnabled route.family = false) :
    Weaves config later stated woven →
    Weaves config (route :: later) stated (.skippingRoute route.toText route.family :: woven)

namespace Stops

variable {visited unvisited : List RoutePrefix} {results : List (Except Error Unit)}
  {result : Except Error Unit}

theorem skipped (route : RoutePrefix) (h : Stops config visited unvisited results result) :
    Stops config (route :: visited) unvisited results result := by
  cases h with
  | through hadded => exact .through hadded
  | @short earlier unvisited last results e henabled hadded =>
    have h : Stops config ((route :: earlier) ++ [last]) unvisited (results ++ [.error e])
      (.error e) := .short henabled hadded
    exact h

theorem added (route : RoutePrefix) (h : Stops config visited unvisited results result) :
    Stops config (route :: visited) unvisited (.ok () :: results) result := by
  have hcons {results : List (Except Error Unit)} (hadded : ∀ r ∈ results, r = .ok ()) :
      ∀ r ∈ (.ok () : Except Error Unit) :: results, r = .ok () :=
    List.forall_mem_cons.2 ⟨rfl, hadded⟩
  cases h with
  | through hadded => exact .through (hcons hadded)
  | @short earlier unvisited last results e henabled hadded =>
    have h : Stops config ((route :: earlier) ++ [last]) unvisited
      ((.ok () :: results) ++ [.error e]) (.error e) := .short henabled (hcons hadded)
    exact h

end Stops

/-- The calls that add the enabled ones of some routes. -/
def calls (config : Config) (interface : String) (routes : List RoutePrefix) :
    List RouteInstaller.Call :=
  (routes.filter fun route => config.familyEnabled route.family).map (.add interface)

theorem calls_cons_enabled {route : RoutePrefix} {later : List RoutePrefix} {interface : String}
    (h : config.familyEnabled route.family = true) :
    calls config interface (route :: later) =
      .add interface route :: calls config interface later := by
  simp [calls, h]

theorem calls_cons_disabled {route : RoutePrefix} {later : List RoutePrefix} {interface : String}
    (h : ¬config.familyEnabled route.family = true) :
    calls config interface (route :: later) = calls config interface later := by
  simp [calls, h]

/-- **A walk does what a sweep of the enabled routes does**, and states one thing more for each
route that it passes over. Each enabled route that it visits has a call of its own. -/
theorem run_walk (backend : RouteBackend σ) (config : Config) (interface : String)
    (installer : RouteInstaller) (routes : List RoutePrefix) (world : σ) :
    ∃ visited unvisited results woven,
      routes = visited ++ unvisited ∧
      let swept := (addAll backend interface installer
        (routes.filter fun route => config.familyEnabled route.family)).run world
      Stops config visited unvisited results swept.answer.1 ∧
      Weaves config visited swept.notices woven ∧
      (RouteInstaller.follow backend installer (calls config interface visited)).run world =
        ⟨(results, swept.answer.2), swept.notices, swept.world⟩ ∧
      (walk backend config interface installer routes).run world =
        ⟨swept.answer, woven, swept.world⟩ := by
  induction routes generalizing installer world with
  | nil => exact ⟨[], [], [], [], rfl, .through (by simp), .done, rfl, rfl⟩
  | cons route later ih =>
    rw [walk, List.filter_cons]
    by_cases henabled : config.familyEnabled route.family = true
    · simp only [if_pos henabled]
      rw [addAll]
      simp only [Action.run_bind]
      generalize hadd : (installer.add backend interface route).run world = first
      obtain ⟨⟨result, after⟩, stated, next⟩ := first
      cases result with
      | ok _ =>
        obtain ⟨visited, unvisited, results, woven, hlater, hstops, hweaves, hfollow, hwalk⟩ :=
          ih after next
        refine ⟨route :: visited, unvisited, .ok () :: results, stated ++ woven, ?_, ?_, ?_, ?_, ?_⟩
        · rw [hlater, List.cons_append]
        · exact hstops.added route
        · exact .added henabled hweaves
        · rw [calls_cons_enabled henabled, RouteInstaller.follow]
          simp [RouteInstaller.Call.perform, hadd, hfollow]
        · simp only [hwalk]
      | error e =>
        have hstops : Stops config ([] ++ [route]) later ([] ++ [.error e]) (.error e) :=
          .short henabled (by simp)
        have hweaves : Weaves config [route] (stated ++ []) (stated ++ []) :=
          .added henabled .done
        refine ⟨[route], later, [.error e], stated, rfl, hstops, ?_, ?_, ?_⟩
        · simpa using hweaves
        · rw [calls_cons_enabled henabled, RouteInstaller.follow]
          simp [RouteInstaller.Call.perform, calls, RouteInstaller.follow, hadd]
        · simp
    · simp only [if_neg henabled]
      obtain ⟨visited, unvisited, results, woven, hlater, hstops, hweaves, hfollow, hwalk⟩ :=
        ih installer world
      refine ⟨route :: visited, unvisited, results,
        .skippingRoute route.toText route.family :: woven, ?_, hstops.skipped route, ?_, ?_, ?_⟩
      · rw [hlater, List.cons_append]
      · exact .skipped (by simpa using henabled) hweaves
      · rw [calls_cons_disabled henabled]
        exact hfollow
      · simp [hwalk]

theorem erases_walk {beside : RouteBackend τ} {plain : RouteBackend σ} {forget : τ → σ}
    (hb : beside.Erases forget plain) (config : Config) (interface : String)
    (installer : RouteInstaller) (routes : List RoutePrefix) :
    Action.Erases forget (walk beside config interface installer routes)
      (walk plain config interface installer routes) := by
  induction routes generalizing installer with
  | nil => exact .pure _
  | cons route later ih =>
    rw [walk, walk]
    by_cases h : config.familyEnabled route.family = true
    · rw [if_pos h, if_pos h]
      refine .bind (RouteInstaller.erases_add hb _ _ _) ?_
      rintro ⟨result, after⟩
      cases result with
      | ok _ => exact ih after
      | error e => exact .pure _
    · rw [if_neg h, if_neg h]
      exact .bind (.tell _) fun _ => ih installer

/-! ### Families -/

theorem installRoutes_congr {config other : Config}
    (h : ∀ family, other.familyEnabled family = config.familyEnabled family)
    (routes : List RoutePrefix) (session : Session) :
    installRoutes allocator backend other routes session =
      installRoutes allocator backend config routes session := by
  induction routes generalizing session with
  | nil => rfl
  | cons route later ih => simp only [installRoutes, h, ih]

/-- **Of the families it matters only which there are**, not in which order or how often. -/
theorem openWith_congr {families : List AddressFamily}
    (h : ∀ family, family ∈ families ↔ family ∈ config.families) (installer : RouteInstaller) :
    openWith allocator backend installer { config with families := families } =
      openWith allocator backend installer config := by
  have henabled : ∀ family, Config.familyEnabled { config with families := families } family =
      config.familyEnabled family := by
    intro family
    rw [Bool.eq_iff_iff]
    simpa [Config.familyEnabled] using h family
  simp only [openWith, installRoutes_congr henabled]

/-! ### Opening -/

/-- Opening a session whose interface is made amounts to a sweep of the enabled routes into that
interface; `entries` is what the sweep exchanges with the backend. -/
structure Refines (allocator : Allocator σ) (backend : RouteBackend σ) (installer : RouteInstaller)
    (config : Config) (world : σ) (interface : Interface) (swept : Outcome σ Attempt)
    (entries : List Exchange) : Prop where
  /-- Before the sweep the interface is made; after a sweep that fails it is destroyed, once.
  Nothing else is exchanged, and the journal in which this stands changes nothing. -/
  exchanges :
    let opened := (openWith allocator backend installer config).run world
    (openWith allocator.journaled backend.journaled installer config).run (.ofWorld world) =
      ⟨opened.answer, opened.notices, ⟨opened.world,
        .create config.interface (.ok interface) :: entries ++
          (failure? swept.answer.1).toList.map fun _ =>
            .destroy interface ((allocator.destroy interface).run swept.world).answer⟩⟩
  /-- A sweep that does not fail leaves a session with the numbers that it gave out. A failure of
  the sweep is the answer. -/
  answer : ((openWith allocator backend installer config).run world).answer =
    match failure? swept.answer.1 with
    | none => .ok ⟨interface.name, some interface, swept.answer.2⟩
    | some e => .error e
  /-- A sweep does not fail if it adds all routes, or stops because routes are not supported. -/
  opens : (∃ session, ((openWith allocator backend installer config).run world).answer =
    .ok session) ↔ swept.answer.1 = .ok () ∨ ∃ what, swept.answer.1 = .error (.notSupported what)
  /-- Each enabled route up to the stopping point is added by a call of its own. Each other route up
  to there is stated to be passed over, and has no other effect. -/
  visits : ∃ visited unvisited results woven,
    config.routes = visited ++ unvisited ∧
    Stops config visited unvisited results swept.answer.1 ∧
    (RouteInstaller.follow backend.journaled installer (calls config interface.name visited)).run
        (.ofWorld ((allocator.create config.interface).run world).world) =
      ⟨(results, swept.answer.2), swept.notices, ⟨swept.world, entries⟩⟩ ∧
    Weaves config visited swept.notices woven ∧
    ((openWith allocator backend installer config).run world).notices =
      ((allocator.create config.interface).run world).notices ++ (woven ++
        ((settle allocator interface swept.answer).run swept.world).notices)
  /-- Of the families it matters only which there are. -/
  families : ∀ families, (∀ family, family ∈ families ↔ family ∈ config.families) →
    openWith allocator backend installer { config with families := families } =
      openWith allocator backend installer config

theorem run_openWith {installer : RouteInstaller} {world next : σ} {stated : List Notice}
    (hmade : (allocator.create config.interface).run world = ⟨.ok interface, stated, next⟩)
    {walked : Outcome σ Attempt}
    (hwalk : (walk backend config interface.name installer config.routes).run next = walked) :
    (openWith allocator backend installer config).run world =
      ⟨((settle allocator interface walked.answer).run walked.world).answer,
        stated ++ (walked.notices ++
          ((settle allocator interface walked.answer).run walked.world).notices),
        ((settle allocator interface walked.answer).run walked.world).world⟩ := by
  simp only [openWith_eq, Action.run_bind, hmade, hwalk]

/-- **An opening amounts to the sweep**, once the interface is made. -/
theorem refines_made {installer : RouteInstaller} {world next : σ} {stated : List Notice}
    {swept : Outcome σ Attempt} {entries : List Exchange}
    (hcreated : (allocator.create config.interface).run world = ⟨.ok interface, stated, next⟩)
    (hentries : (addAll backend.journaled interface.name installer config.enabledRoutes).run
      (.ofWorld next) = ⟨swept.answer, swept.notices, ⟨swept.world, entries⟩⟩) :
    Refines allocator backend installer config world interface swept entries := by
  obtain ⟨visited, unvisited, results, woven, hroutes, hstops, hweaves, hfollow, hwalk⟩ :=
    run_walk backend.journaled config interface.name installer config.routes (.ofWorld next)
  rw [← Config.enabledRoutes, hentries] at hstops hweaves hfollow hwalk
  have hplain : (walk backend config interface.name installer config.routes).run next =
      ⟨swept.answer, woven, swept.world⟩ := by
    have herased := erases_walk backend.erases_journaled config interface.name installer
      config.routes (.ofWorld next)
    rw [hwalk] at herased
    exact herased.symm
  -- with a journal the walk starts behind the exchange that made the interface
  have hafter : (walk backend.journaled config interface.name installer config.routes).run
      ⟨next, [.create config.interface (.ok interface)]⟩ = ⟨swept.answer, woven,
        ⟨swept.world, [.create config.interface (.ok interface)] ++ entries⟩⟩ :=
    Journaled.run_after (erases_walk (backend.erases_after _) config interface.name installer
      config.routes) hwalk
  have hopened := run_openWith hcreated hplain
  have hbeside := run_openWith
    (Allocator.run_create_journaled (.ofWorld world) hcreated) hafter
  exact {
    exchanges := by
      obtain ⟨journal, hjournal⟩ := Journaled.exists_run_ofWorld
        (erases_openWith allocator.erases_journaled backend.erases_journaled installer config) world
      have hlast := congrArg (fun outcome => outcome.world.journal) (hjournal.symm.trans hbeside)
      simp only [journal_settle] at hlast
      rw [hjournal, hlast]
      rfl
    answer := by
      rw [hopened]
      exact answer_settle swept.answer swept.world
    opens := by
      rw [hopened, ← failure?_eq_none_iff]
      simp only [answer_settle]
      cases failure? swept.answer.1 <;> simp
    visits := by
      refine ⟨visited, unvisited, results, woven, hroutes, hstops, ?_, hweaves, ?_⟩
      · rw [hcreated]
        exact hfollow
      · rw [hopened, hcreated]
    families := fun families h => openWith_congr h installer }

/-- **Opening a session amounts to a sweep.** If no interface can be made, that is the answer and
all that is exchanged. If one is made, the sweep of the enabled routes into it, from the world in
which it was made, tells what else is exchanged, what is answered and what is stated. -/
theorem openWith_refines (allocator : Allocator σ) (backend : RouteBackend σ)
    (installer : RouteInstaller) (config : Config) (world : σ) :
    let created := (allocator.create config.interface).run world
    match created.answer with
    | .error e =>
      (openWith allocator.journaled backend.journaled installer config).run (.ofWorld world) =
        ⟨.error e, created.notices, ⟨created.world, [.create config.interface (.error e)]⟩⟩
    | .ok interface =>
      let swept := (addAll backend interface.name installer config.enabledRoutes).run created.world
      ∃ entries,
        (addAll backend.journaled interface.name installer config.enabledRoutes).run
            (.ofWorld created.world) = ⟨swept.answer, swept.notices, ⟨swept.world, entries⟩⟩ ∧
        Refines allocator backend installer config world interface swept entries := by
  generalize hcreated : (allocator.create config.interface).run world = created
  obtain ⟨answer, stated, next⟩ := created
  cases answer with
  | error e =>
    simp only [openWith_eq, Action.run_bind,
      Allocator.run_create_journaled (.ofWorld world) hcreated]
    simp [Journaled.ofWorld]
  | ok interface =>
    obtain ⟨entries, hentries⟩ := Journaled.exists_run_ofWorld
      (RouteInstaller.erases_addAll backend.erases_journaled interface.name installer
        config.enabledRoutes) next
    exact ⟨entries, hentries, refines_made hcreated hentries⟩

end Tunnel.Session
