import Tunnel.Proofs.Route.Addition

/-!
# Opening and ending one session

What the library exchanges with the services when a session is opened, and when it ends. Opening
makes an interface and adds the enabled routes up to the first failure; if that failure counts, the
interface is destroyed before the opening answers, and the answer is the failure of the route,
whatever came of the destruction. A session that is there holds its interface, and every end of it
destroys that interface and nothing else.

## Main definitions

* `Session.Holds` — a session holds an interface, and has its name
* `Session.Additions` — routes added up to the first failure
* `Session.Routed` — the same, with the interface destroyed if the failure counts
* `Session.Opening` — what opening a session exchanges and answers

## Main results

* `Session.writes_close`, `Session.writes_drop` — the two ends of a session that holds its interface
* `Session.writes_openWith` — opening one
* `Session.Opening.holds` — a session that was opened holds the interface that was made for it
* `Session.Opening.balance` — and if none was opened, what was made was destroyed
-/

namespace Tunnel.Session

open Exchange (created destroyed)
open RouteInstaller (Addition)

variable {σ : Type} {allocator : Allocator σ} {backend : RouteBackend σ}

/-- The session holds the interface, and has its name. -/
def Holds (session : Session) (interface : Interface) : Prop :=
  session.held = some interface ∧ session.name = interface.name

/-! ### The ends of a session -/

section Ends

variable {session : Session} {held : Interface}

theorem Holds.interface_eq (h : session.Holds held) : session.interface = .ok held := by
  rw [interface, h.1]

theorem writes_teardown (h : session.held = some held) :
    (session.teardown allocator.journaled).Writes fun entries after =>
      ∃ answer, entries = [.destroy held answer] ∧ after = session.released := by
  rw [teardown, h]
  refine .bind (Journaled.writes_noting _ _) ?_
  rintro _ answer rfl
  cases answer with
  | error e =>
    refine .tell_bind ?_
    exact .pure ⟨_, rfl, rfl⟩
  | ok _ => exact .pure ⟨_, rfl, rfl⟩

/-- A session that gave its interface up exchanges nothing when it ends. -/
theorem writes_drop_released (session : Session) :
    (session.released.drop allocator.journaled).Writes fun entries _ => entries = [] := by
  intro s
  rw [drop_released]
  exact ⟨[], (List.append_nil s.journal).symm, rfl⟩

theorem writes_drop (h : session.held = some held) :
    (session.drop allocator.journaled).Writes fun entries _ =>
      ∃ answer, entries = [.destroy held answer] := by
  refine .bind (writes_teardown h) ?_
  rintro _ _ ⟨answer, rfl, rfl⟩
  exact .pure ⟨answer, rfl⟩

/-- A session that is given up half-way is torn down, and dropped after that: one destruction. -/
theorem writes_undo (h : session.held = some held) (e : Error) :
    (do
      let session ← session.teardown allocator.journaled
      session.drop allocator.journaled
      return .error e : Action (Journaled σ) (Except Error Session)).Writes fun entries result =>
      ∃ answer, entries = [.destroy held answer] ∧ result = .error e := by
  refine .bind (writes_teardown h) ?_
  rintro _ _ ⟨answer, rfl, rfl⟩
  refine .bind (writes_drop_released session) ?_
  rintro _ _ rfl
  exact .pure ⟨answer, rfl, rfl⟩

/-- **Closing** destroys the interface once, and answers what came of it. -/
theorem writes_close (h : session.held = some held) :
    (session.close allocator.journaled).Writes fun entries answer =>
      entries = [.destroy held answer] := by
  rw [close, h]
  refine .bind (Journaled.writes_noting _ _) ?_
  rintro _ answer rfl
  refine .bind (writes_drop_released session) ?_
  rintro _ _ rfl
  exact .pure rfl

end Ends

/-! ### Routes -/

/-- Routes added one after the other, up to the first that fails. Where routes are not supported
the others are left out, and that is no failure. -/
inductive Additions (interface : String) : List RoutePrefix → RouteInstaller → List Exchange →
    Except Error Unit × RouteInstaller → Prop
  | done (installer : RouteInstaller) : Additions interface [] installer [] (.ok (), installer)
  | installed {route : RoutePrefix} {later : List RoutePrefix} {installer after : RouteInstaller}
    {entries rest : List Exchange} {outcome : Except Error Unit × RouteInstaller} :
    Addition installer interface route entries (.ok (), after) →
    Additions interface later after rest outcome →
    Additions interface (route :: later) installer (entries ++ rest) outcome
  | unsupported {route : RoutePrefix} {later : List RoutePrefix} {installer after : RouteInstaller}
    {entries : List Exchange} {what : String} :
    Addition installer interface route entries (.error (.notSupported what), after) →
    Additions interface (route :: later) installer entries (.ok (), after)
  | failed {route : RoutePrefix} {later : List RoutePrefix} {installer after : RouteInstaller}
    {entries : List Exchange} {e : Error} :
    Addition installer interface route entries (.error e, after) →
    (∀ what, e ≠ .notSupported what) →
    Additions interface (route :: later) installer entries (.error e, after)

/-- Routes added to a session that holds `interface`. If one fails, the interface is destroyed, and
the answer is the failure of the route whatever came of that. -/
inductive Routed (interface : Interface) (routes : List RoutePrefix) (installer : RouteInstaller) :
    List Exchange → Except Error Session → Prop
  | kept {entries : List Exchange} {after : RouteInstaller} :
    Additions interface.name routes installer entries (.ok (), after) →
    Routed interface routes installer entries (.ok ⟨interface.name, some interface, after⟩)
  | undone {entries : List Exchange} {e : Error} {after : RouteInstaller}
    (answer : Except Error Unit) :
    Additions interface.name routes installer entries (.error e, after) →
    Routed interface routes installer (entries ++ [.destroy interface answer]) (.error e)

/-- What opening a session exchanges, and what it answers. -/
inductive Opening (installer : RouteInstaller) (config : Config) :
    List Exchange → Except Error Session → Prop
  | refused (e : Error) :
    Opening installer config [.create config.interface (.error e)] (.error e)
  | made (interface : Interface) {entries : List Exchange} {result : Except Error Session} :
    Routed interface config.enabledRoutes installer entries result →
    Opening installer config (.create config.interface (.ok interface) :: entries) result

/-- Once a route is installed, what follows is as for the other routes alone. -/
theorem Routed.cons {interface : Interface} {route : RoutePrefix} {later : List RoutePrefix}
    {installer after : RouteInstaller} {entries rest : List Exchange}
    {result : Except Error Session}
    (hroute : Addition installer interface.name route entries (.ok (), after))
    (hrest : Routed interface later after rest result) :
    Routed interface (route :: later) installer (entries ++ rest) result := by
  cases hrest with
  | kept hadditions => exact .kept (.installed hroute hadditions)
  | undone answer hadditions =>
    rw [← List.append_assoc]
    exact .undone answer (.installed hroute hadditions)

theorem writes_installRoutes {config : Config} {interface : Interface} (routes : List RoutePrefix)
    (installer : RouteInstaller) :
    (installRoutes allocator.journaled backend.journaled config routes
      ⟨interface.name, some interface, installer⟩).Writes
      (Routed interface (routes.filter fun route => config.familyEnabled route.family)
        installer) := by
  induction routes generalizing installer with
  | nil => exact .pure (.kept (.done installer))
  | cons route later ih =>
    rw [installRoutes, List.filter_cons]
    by_cases henabled : config.familyEnabled route.family = true
    · simp only [if_pos henabled]
      refine .bind RouteInstaller.writes_add ?_
      rintro entries ⟨result, after⟩ haddition
      cases result with
      | ok _ => exact (ih after).mono fun rest result hrest => .cons haddition hrest
      | error e =>
        cases e
        case notSupported what =>
          refine .tell_bind ?_
          refine .pure ?_
          rw [List.append_nil]
          exact .kept (.unsupported haddition)
        all_goals
          refine (writes_undo rfl _).mono ?_
          rintro _ _ ⟨answer, rfl, rfl⟩
          exact .undone answer (.failed haddition fun what => by simp)
    · simp only [if_neg henabled]
      refine .tell_bind ?_
      exact ih installer

/-- **Opening a session.** -/
theorem writes_openWith (installer : RouteInstaller) (config : Config) :
    (openWith allocator.journaled backend.journaled installer config).Writes
      (Opening installer config) := by
  refine .bind (Journaled.writes_noting _ _) ?_
  rintro _ answer rfl
  cases answer with
  | error e => exact .pure (.refused e)
  | ok interface =>
    refine .bind (writes_installRoutes config.routes installer) ?_
    intro entries result hrouted
    cases result with
    | error e =>
      refine .pure ?_
      rw [List.append_nil]
      exact .made interface hrouted
    | ok session =>
      refine .tell_bind ?_
      refine .pure ?_
      rw [List.append_nil]
      exact .made interface hrouted

/-! ### What was made and what was destroyed -/

section Balance

variable {interface : String} {made : Interface} {routes : List RoutePrefix} {config : Config}
  {installer : RouteInstaller} {entries : List Exchange} {result : Except Error Session}

/-- Adding a route makes nothing and destroys nothing. -/
theorem balance_addition {destination : RoutePrefix} {attempt : RouteInstaller.Attempt}
    (h : Addition installer interface destination entries attempt) :
    created entries = [] ∧ destroyed entries = [] := by
  cases h with
  | unsupported => exact ⟨rfl, rfl⟩
  | unresolved e => exact ⟨rfl, rfl⟩
  | unroutable gateway e _ _ => exact ⟨rfl, rfl⟩
  | sent gateway message octets answer _ _ _ => exact ⟨rfl, rfl⟩

theorem Additions.balance {outcome : Except Error Unit × RouteInstaller}
    (h : Additions interface routes installer entries outcome) :
    created entries = [] ∧ destroyed entries = [] := by
  induction h with
  | done installer => exact ⟨rfl, rfl⟩
  | installed hroute _ ih =>
    obtain ⟨hcreated, hdestroyed⟩ := balance_addition hroute
    rw [Exchange.created_append, Exchange.destroyed_append, hcreated, hdestroyed]
    exact ih
  | unsupported hroute => exact balance_addition hroute
  | failed hroute _ => exact balance_addition hroute

theorem Routed.balance (h : Routed made routes installer entries result) :
    created entries = [] ∧
      (made :: created entries).Perm
        (destroyed entries ++ result.toOption.toList.filterMap held) := by
  cases h with
  | kept hadditions =>
    obtain ⟨hcreated, hdestroyed⟩ := hadditions.balance
    rw [hcreated, hdestroyed]
    exact ⟨rfl, .refl _⟩
  | undone answer hadditions =>
    obtain ⟨hcreated, hdestroyed⟩ := hadditions.balance
    rw [Exchange.created_append, Exchange.destroyed_append, hcreated, hdestroyed]
    exact ⟨rfl, .refl _⟩

/-- **What was made** for a session is what it holds; if no session was opened, it was destroyed. -/
theorem Opening.balance (h : Opening installer config entries result) :
    (created entries).Perm (destroyed entries ++ result.toOption.toList.filterMap held) := by
  cases h with
  | refused e => exact .refl _
  | made interface hrouted => exact hrouted.balance.2

/-- A session that was opened holds the interface that was made for it, and has its name. -/
theorem Opening.holds {session : Session} (h : Opening installer config entries (.ok session)) :
    ∃ interface, session.Holds interface := by
  cases h with
  | made interface hrouted =>
    cases hrouted with
    | kept _ => exact ⟨interface, rfl, rfl⟩

end Balance

end Tunnel.Session
