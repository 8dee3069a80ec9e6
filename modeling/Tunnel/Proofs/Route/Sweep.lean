import Tunnel.Proofs.Journal

/-!
# Routes added in order

An installer adds a list of routes from left to right and stops at the first that it cannot add.
Such a sweep is what opening a session is measured by; it knows of no session, no configuration and
no family.

## Main definitions

* `RouteInstaller.addAll` — routes added up to the first that is not

## Main results

* `RouteInstaller.erases_addAll` — a sweep erases if the backend does
-/

namespace Tunnel.RouteInstaller

variable {σ τ : Type} {forget : τ → σ}

/-- Adds the routes to the named interface from left to right, up to the first that is not added. -/
def addAll (backend : RouteBackend σ) (interface : String) :
    RouteInstaller → List RoutePrefix → Action σ Attempt
  | installer, [] => return (.ok (), installer)
  | installer, route :: later => do
    let (result, installer) ← installer.add backend interface route
    match result with
    | .ok () => addAll backend interface installer later
    | .error e => return (.error e, installer)

theorem erases_addAll {beside : RouteBackend τ} {plain : RouteBackend σ}
    (hb : beside.Erases forget plain) (interface : String) (installer : RouteInstaller)
    (routes : List RoutePrefix) :
    Action.Erases forget (addAll beside interface installer routes)
      (addAll plain interface installer routes) := by
  induction routes generalizing installer with
  | nil => exact .pure _
  | cons route later ih =>
    refine .bind (erases_add hb _ _ _) ?_
    rintro ⟨result, after⟩
    cases result with
    | ok _ => exact ih after
    | error e => exact .pure _

end Tunnel.RouteInstaller
