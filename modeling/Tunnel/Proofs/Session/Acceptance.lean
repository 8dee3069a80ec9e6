import Tunnel.Proofs.Route.Numbering
import Tunnel.Proofs.Session.Opening
import Tunnel.Scripted.Host

/-!
# The routes of an opened session

A session that was opened has the first so many of its enabled routes, each of them accepted in full
and in order. It has all of them, unless the next one came to nothing because routes are not
supported. Support may end anywhere: a session that goes on without routes has none only if it ended
at the first.

## Main definitions

* `Session.Installed` — routes that were accepted in full, call by call
* `Session.Reaches` — which routes a session has, and where it stopped
* `Session.AllOrNone` — all routes were accepted in full, or none was accepted

## Main results

* `Session.Reaches.length_accepted` — what was accepted are the routes that the session has
* `Session.openWith_reaches` — an opened session has its first routes; when it has all or none
* `Session.openWith_half_routed` — it may have some and lack others
-/

namespace Tunnel.Session

open Exchange (accepted)
open RouteInstaller (Addition Call Course)

variable {σ : Type} {allocator : Allocator σ} {backend : RouteBackend σ} {config : Config}
  {interface : Interface} {installer after last : RouteInstaller} {entries rest : List Exchange}
  {route : RoutePrefix} {routes installed left : List RoutePrefix}

/-- Routes are added one after the other, and each is accepted in full. -/
def Installed (interface : String) (installer : RouteInstaller) (routes : List RoutePrefix)
    (entries : List Exchange) (after : RouteInstaller) : Prop :=
  Course installer (routes.map (.add interface)) entries (routes.map fun _ => .ok (), after)

/-- The routes that a session has are `installed`, and those that it lacks are `left`. -/
inductive Reaches (interface : Interface) (installer : RouteInstaller) :
    (installed left : List RoutePrefix) → List Exchange → RouteInstaller → Prop
  | all {installed : List RoutePrefix} {entries : List Exchange} {after : RouteInstaller} :
    Installed interface.name installer installed entries after →
    Reaches interface installer installed [] entries after
  /-- The first route that it lacks came to nothing because routes are not supported. -/
  | cut {installed later : List RoutePrefix} {route : RoutePrefix} {entries rest : List Exchange}
    {after last : RouteInstaller} {what : String} :
    Installed interface.name installer installed entries after →
    Addition after interface.name route rest (.error (.notSupported what), last) →
    Reaches interface installer installed (route :: later) (entries ++ rest) last

/-- Each enabled route was accepted in full, or nothing was accepted. -/
def AllOrNone (installer : RouteInstaller) (config : Config) (journal : List Exchange) : Prop :=
  (∃ interface entries after,
    journal = .create config.interface (.ok interface) :: entries ∧
      Installed interface.name installer config.enabledRoutes entries after) ∨
  accepted journal = []

/-! ### One call -/

section Call

variable {attempt : RouteInstaller.Attempt} {name : String}

/-- A call that succeeds has one message accepted. -/
theorem length_accepted_of_ok (h : Addition installer name route entries attempt)
    (hok : attempt.1 = .ok ()) : (accepted entries).length = 1 := by
  cases h with
  | unsupported => cases hok
  | unresolved e => cases hok
  | unroutable gateway e _ _ => cases hok
  | sent gateway message octets answer _ _ _ =>
    cases answer with
    | error e => cases hok
    | ok written => rfl

/-- A call that ends for want of support has none accepted. -/
theorem accepted_of_notSupported {what : String}
    (h : Addition installer name route entries attempt)
    (hend : attempt.1 = .error (.notSupported what)) : accepted entries = [] := by
  cases h with
  | unsupported => rfl
  | unresolved e => rfl
  | unroutable gateway e _ _ => rfl
  | sent gateway message octets answer _ _ _ =>
    cases answer with
    | error e => rfl
    | ok written =>
      simp only [RouteInstaller.verdict] at hend
      split at hend <;> cases hend

end Call

/-! ### Runs of calls -/

namespace Installed

variable {name : String}

theorem nil (installer : RouteInstaller) : Installed name installer [] [] installer :=
  .done installer

theorem cons (hroute : Addition installer name route entries (.ok (), after))
    (hlater : Installed name after routes rest last) :
    Installed name installer (route :: routes) (entries ++ rest) last :=
  .call hroute hlater

/-- As many messages are accepted as routes are installed. -/
theorem length_accepted (h : Installed name installer routes entries after) :
    (accepted entries).length = routes.length := by
  induction routes generalizing installer entries with
  | nil =>
    cases h with
    | done => rfl
  | cons route routes ih =>
    cases h with
    | call hroute hlater =>
      rw [Exchange.accepted_append, List.length_append, length_accepted_of_ok hroute rfl,
        ih hlater, List.length_cons, Nat.add_comm]

end Installed

namespace Reaches

/-- **What was accepted are the routes that the session has.** -/
theorem length_accepted (h : Reaches interface installer installed left entries last) :
    (accepted entries).length = installed.length := by
  cases h with
  | all hinstalled => exact hinstalled.length_accepted
  | cut hinstalled hlast =>
    rw [Exchange.accepted_append, accepted_of_notSupported hlast rfl, List.append_nil]
    exact hinstalled.length_accepted

theorem cons (hroute : Addition installer interface.name route entries (.ok (), after))
    (h : Reaches interface after installed left rest last) :
    Reaches interface installer (route :: installed) left (entries ++ rest) last := by
  cases h with
  | all hinstalled => exact .all (hinstalled.cons hroute)
  | cut hinstalled hlast =>
    rw [← List.append_assoc]
    exact .cut (hinstalled.cons hroute) hlast

/-- The contract is kept exactly if the session has all of its routes or none. -/
theorem allOrNone_iff (h : Reaches interface installer installed left entries last)
    (hroutes : config.enabledRoutes = installed ++ left) :
    AllOrNone installer config (.create config.interface (.ok interface) :: entries) ↔
      installed = [] ∨ left = [] := by
  have hlength := h.length_accepted
  constructor
  · rintro (⟨made, others, after, hjournal, hall⟩ | hnone)
    · cases hjournal
      have hboth := hall.length_accepted
      rw [hlength, hroutes, List.length_append] at hboth
      exact .inr (List.eq_nil_of_length_eq_zero (by omega))
    · have hnone : accepted entries = [] := hnone
      rw [hnone] at hlength
      exact .inl (List.eq_nil_of_length_eq_zero hlength.symm)
  · rintro (rfl | rfl)
    · exact .inr (List.eq_nil_of_length_eq_zero hlength)
    · cases h with
      | all hinstalled =>
        rw [List.append_nil] at hroutes
        exact .inl ⟨interface, entries, last, rfl, hroutes ▸ hinstalled⟩

end Reaches

/-- Routes that were added without a failure were installed up to where support ended. -/
theorem Additions.reaches {outcome : Except Error Unit × RouteInstaller}
    (h : Additions interface.name routes installer entries outcome) (hok : outcome.1 = .ok ()) :
    ∃ installed left, routes = installed ++ left ∧
      Reaches interface installer installed left entries outcome.2 := by
  induction h with
  | done installer => exact ⟨[], [], rfl, .all (.nil installer)⟩
  | @installed route _ _ _ _ _ _ hroute _ ih =>
    obtain ⟨installed, left, hlater, hreaches⟩ := ih hok
    exact ⟨route :: installed, left, congrArg _ hlater, hreaches.cons hroute⟩
  | @unsupported route later installer _ _ _ hroute =>
    exact ⟨[], route :: later, rfl, .cut (.nil installer) hroute⟩
  | failed => cases hok

/-- **The routes of an opened session.** It has the first so many of its enabled routes, and as many
messages were accepted as it has routes. It has all of them, unless the next one came to nothing
because routes are not supported; the routes are all there or none is there exactly if that was the
first, or if there is no such route. -/
theorem openWith_reaches (allocator : Allocator σ) (backend : RouteBackend σ)
    (installer : RouteInstaller) (config : Config) (world : σ) :
    let opened := (openWith allocator backend installer config).run world
    ∃ journal,
      (openWith allocator.journaled backend.journaled installer config).run (.ofWorld world) =
        ⟨opened.answer, opened.notices, ⟨opened.world, journal⟩⟩ ∧
      ∀ session, opened.answer = .ok session →
        ∃ interface entries installed left,
          journal = .create config.interface (.ok interface) :: entries ∧
          config.enabledRoutes = installed ++ left ∧
          Reaches interface installer installed left entries session.installer ∧
          (accepted journal).length = installed.length ∧
          (AllOrNone installer config journal ↔ installed = [] ∨ left = []) := by
  obtain ⟨journal, hrun, hopening⟩ := Journaled.run_ofWorld
    (erases_openWith allocator.erases_journaled backend.erases_journaled installer config)
    (writes_openWith installer config) world
  refine ⟨journal, hrun, ?_⟩
  intro session hsession
  rw [hsession] at hopening
  cases hopening with
  | @made interface entries _ hrouted =>
    cases hrouted with
    | kept hadditions =>
      obtain ⟨installed, left, hroutes, hreaches⟩ := hadditions.reaches rfl
      exact ⟨interface, entries, installed, left, rfl, hroutes, hreaches, hreaches.length_accepted,
        hreaches.allOrNone_iff hroutes⟩

/-- A host whose routing socket takes one message and offers no support after that. -/
def halfSupported : Scripted.Host where
  script := .willing
  routing := {
    links := [("*", .reported [8, LinkAddress.tag, 7, 0, 0, 0, 0, 0])]
    supported := true
    alwaysSupported := false
    submissions := [.full, .failure (.notSupported "routing socket")] }
  devices := []

/-- A configuration with two enabled routes. -/
def twoRoutes : Config where
  interface := none
  families := Config.standardFamilies
  routes := [⟨.v4 ⟨10, 0, 0, 0⟩, 8, by decide⟩, ⟨.v4 ⟨192, 168, 0, 0⟩, 16, by decide⟩]

/-- **A session may have some of its routes and lack others**: here the first of two. -/
theorem openWith_half_routed :
    let opened := (openWith Scripted.Host.allocator.journaled Scripted.Host.backend.journaled .fresh
      twoRoutes).run (.ofWorld halfSupported)
    opened.answer = .ok ⟨"tun0", some ⟨"tun0", 0, .pointToPoint, true⟩, ⟨2⟩⟩ ∧
      (accepted opened.world.journal).length = 1 ∧
      ¬AllOrNone .fresh twoRoutes opened.world.journal := by
  have hanswer : ((openWith Scripted.Host.allocator.journaled Scripted.Host.backend.journaled .fresh
      twoRoutes).run (.ofWorld halfSupported)).answer =
      .ok ⟨"tun0", some ⟨"tun0", 0, .pointToPoint, true⟩, ⟨2⟩⟩ := by decide +kernel
  have hone : (accepted ((openWith Scripted.Host.allocator.journaled
      Scripted.Host.backend.journaled .fresh twoRoutes).run
      (.ofWorld halfSupported)).world.journal).length = 1 := by decide +kernel
  refine ⟨hanswer, hone, ?_⟩
  rintro (⟨interface, entries, after, hjournal, hall⟩ | hnone)
  · rw [hjournal] at hone
    have hone : (accepted entries).length = 1 := hone
    rw [hall.length_accepted] at hone
    exact absurd hone (by decide)
  · rw [hnone] at hone
    cases hone

end Tunnel.Session
