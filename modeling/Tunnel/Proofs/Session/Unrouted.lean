import Tunnel.Proofs.Session.Refinement

/-!
# Sessions where routes are not supported

A backend without support is asked once, for the first route whose family is enabled; with the
answer the loop over the routes ends. So a session is open as soon as its interface is there, no
number is given out, and what is said about the routes is known from the configuration alone: those
before the first enabled one are passed over, and where there is an enabled one, no routes are
installed.

## Main definitions

* `RouteBackend.Lacks` — a backend that offers no support
* `Config.leading` — the routes before the first enabled one
* `Config.routeWarnings` — what is said about the routes

## Main results

* `Session.run_walk_lacking` — the loop over the routes ends at the first that is enabled
* `Session.run_openWith_lacking` — a session is open as soon as its interface is there
* `Session.run_openWith_failed` — and not without it
-/

namespace Tunnel

variable {σ : Type} {allocator : Allocator σ} {backend : RouteBackend σ} {asked : σ → σ}
  {config : Config}

/-! ### Backends without support -/

namespace RouteBackend

/-- The backend offers no support. Being asked for it makes `asked world` of a world. -/
def Lacks (backend : RouteBackend σ) (asked : σ → σ) : Prop :=
  ∀ world, backend.isSupported.run world = ⟨false, [], asked world⟩

theorem lacks_unsupported : (unsupported : RouteBackend σ).Lacks id := fun _ => rfl

/-- With a journal, the question is noted. -/
theorem Lacks.journaled (h : backend.Lacks asked) :
    backend.journaled.Lacks fun s => ⟨asked s.world, s.journal ++ [.support false]⟩ := by
  intro s
  have hrun : backend.journaled.isSupported.run s =
      ⟨(backend.isSupported.run s.world).answer, (backend.isSupported.run s.world).notices,
        ⟨(backend.isSupported.run s.world).world,
          s.journal ++ [.support (backend.isSupported.run s.world).answer]⟩⟩ := rfl
  rw [hrun, h s.world]

end RouteBackend

theorem RouteInstaller.run_add_lacking (h : backend.Lacks asked) (installer : RouteInstaller)
    (interface : String) (route : RoutePrefix) (world : σ) :
    (installer.add backend interface route).run world =
      ⟨(.error (.notSupported "route installation"), installer), [], asked world⟩ := by
  rw [add, Action.run_bind, h world]
  rfl

/-! ### What is said about the routes -/

namespace Config

/-- The routes before the first whose family is enabled. -/
def leading (config : Config) (routes : List RoutePrefix) : List RoutePrefix :=
  routes.takeWhile fun route => !config.familyEnabled route.family

theorem leading_cons_enabled {route : RoutePrefix} {later : List RoutePrefix}
    (h : config.familyEnabled route.family = true) : config.leading (route :: later) = [] := by
  rw [leading, List.takeWhile_cons_of_neg]
  rw [h]
  exact Bool.false_ne_true

theorem leading_cons_disabled {route : RoutePrefix} {later : List RoutePrefix}
    (h : ¬config.familyEnabled route.family = true) :
    config.leading (route :: later) = route :: config.leading later := by
  rw [leading, List.takeWhile_cons_of_pos]
  · rfl
  · rw [Bool.eq_false_of_not_eq_true h]
    rfl

/-- What is said of a route that is passed over. -/
def skipping (route : RoutePrefix) : Notice := .skippingRoute route.toText route.family

/-- What is said about the routes where none can be installed: one thing for each route before the
first enabled one, and one more where there is an enabled one. -/
def routeWarnings (config : Config) : List Notice :=
  (config.leading config.routes).map skipping ++
    if config.enabledRoutes = [] then [] else [.notInstalling "route installation"]

theorem level_of_mem_routeWarnings {notice : Notice} (h : notice ∈ config.routeWarnings) :
    notice.level = .warn := by
  obtain hleading | hlast := List.mem_append.1 h
  · obtain ⟨route, -, rfl⟩ := List.mem_map.1 hleading
    rfl
  · by_cases hnone : config.enabledRoutes = []
    · rw [if_pos hnone] at hlast
      cases hlast
    · rw [if_neg hnone, List.mem_singleton] at hlast
      rw [hlast]
      rfl

end Config

/-! ### Opening a session -/

namespace Session

variable {interface : Interface} {world next : σ} {stated : List Notice}

/-- **The loop over the routes ends at the first that is enabled**, with its number still to be
given out. -/
theorem run_walk_lacking (h : backend.Lacks asked) (config : Config) (interface : String)
    (installer : RouteInstaller) (routes : List RoutePrefix) (world : σ) :
    (walk backend config interface installer routes).run world =
      if routes.filter (fun route => config.familyEnabled route.family) = [] then
        ⟨(.ok (), installer), (config.leading routes).map Config.skipping, world⟩
      else
        ⟨(.error (.notSupported "route installation"), installer),
          (config.leading routes).map Config.skipping, asked world⟩ := by
  induction routes with
  | nil => rfl
  | cons route later ih =>
    rw [walk]
    by_cases henabled : config.familyEnabled route.family = true
    · have hsome :
          (route :: later).filter (fun route => config.familyEnabled route.family) ≠ [] := by
        rw [List.filter_cons, if_pos henabled]
        exact List.cons_ne_nil _ _
      rw [if_pos henabled, if_neg hsome, Config.leading_cons_enabled henabled, Action.run_bind,
        RouteInstaller.run_add_lacking h]
      rfl
    · rw [if_neg henabled, List.filter_cons, if_neg henabled, Config.leading_cons_disabled henabled,
        Action.run_bind, Action.run_tell, ih]
      split <;> rfl

/-- **A session is open as soon as its interface is there**, whatever is configured. It has given no
number out, and the backend was asked for support at most. -/
theorem run_openWith_lacking (h : backend.Lacks asked) (installer : RouteInstaller)
    (hmade : (allocator.create config.interface).run world = ⟨.ok interface, stated, next⟩) :
    (openWith allocator backend installer config).run world =
      ⟨.ok ⟨interface.name, some interface, installer⟩,
        stated ++ (config.routeWarnings ++ [.sessionOpen interface.name]),
        if config.enabledRoutes = [] then next else asked next⟩ := by
  rw [run_openWith hmade (run_walk_lacking h config interface.name installer config.routes next),
    ← Config.enabledRoutes, Config.routeWarnings]
  by_cases hnone : config.enabledRoutes = []
  · simp only [if_pos hnone, List.append_nil]
    rfl
  · simp only [if_neg hnone, List.append_assoc]
    rfl

/-- Without an interface there is no session. -/
theorem run_openWith_failed {e : Error} (installer : RouteInstaller)
    (hfailed : (allocator.create config.interface).run world = ⟨.error e, stated, next⟩) :
    (openWith allocator backend installer config).run world = ⟨.error e, stated, next⟩ := by
  rw [openWith_eq, Action.run_bind, hfailed]
  simp

end Session

end Tunnel
