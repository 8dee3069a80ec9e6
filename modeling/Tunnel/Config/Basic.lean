import Tunnel.Interface.Name
import Tunnel.Route.Destination

/-!
# Configurations

What a session is to set up: the name that its interface is to have, the address families that are
enabled, and the routes into it. A configuration can be read and yet be of no use; validation tells
these apart.

## Main definitions

* `Config` — a configuration
* `Config.standard` — the one that says nothing
* `Config.enabledRoutes` — the routes whose family is enabled
* `Config.validate` — whether a session can be set up by it

## Main results

* `Config.mem_enabledRoutes_iff` — which routes are enabled
* `Config.validate_eq_ok_iff` — which configurations pass
-/

namespace Tunnel

/-- What a session is to set up. -/
structure Config where
  /-- The name that the interface is to have; without one the kernel chooses. -/
  interface : Option String
  families : List AddressFamily
  routes : List RoutePrefix
deriving DecidableEq

namespace Config

/-- The families that are enabled where a configuration does not say. -/
def standardFamilies : List AddressFamily := [.ipv4, .ipv6]

/-- The configuration that says nothing. -/
def standard : Config := ⟨none, standardFamilies, []⟩

/-- Whether routes of this family are to be installed. -/
def familyEnabled (config : Config) (family : AddressFamily) : Bool :=
  config.families.contains family

/-- The routes whose family is enabled, in order. -/
def enabledRoutes (config : Config) : List RoutePrefix :=
  config.routes.filter fun route => config.familyEnabled route.family

/-- Why a configuration is of no use. -/
inductive Invalid
  | badName (name : String)
  | noFamily
  | unroutableFamily
deriving DecidableEq, Repr

/-- Whether a session can be set up by the configuration. The name is looked at first. -/
def validate (config : Config) : Except Invalid Unit :=
  match config.interface.filter fun name => !Interface.isName name with
  | some name => .error (.badName name)
  | none =>
    if config.families = [] then .error .noFamily
    else if config.familyEnabled .unrecognized then .error .unroutableFamily
    else .ok ()

theorem mem_enabledRoutes_iff {config : Config} {route : RoutePrefix} :
    route ∈ config.enabledRoutes ↔ route ∈ config.routes ∧ route.family ∈ config.families := by
  simp [enabledRoutes, familyEnabled]

theorem validate_eq_ok_iff {config : Config} :
    config.validate = .ok () ↔ (∀ name ∈ config.interface, Interface.isName name = true) ∧
      config.families ≠ [] ∧ .unrecognized ∉ config.families := by
  rw [validate]
  split
  · next name h =>
    have ⟨hname, hbad⟩ := Option.filter_eq_some_iff.1 h
    simp only [reduceCtorEq, false_iff]
    intro hvalid
    have := hvalid.1 name hname
    simp_all
  · next h =>
    have hname : ∀ name ∈ config.interface, Interface.isName name = true := by
      simpa [Option.filter_eq_none_iff] using h
    by_cases hnone : config.families = []
    · simp [hnone]
    · by_cases hbad : AddressFamily.unrecognized ∈ config.families
      · simp [familyEnabled, hnone, hbad]
      · simpa [familyEnabled, hnone, hbad] using hname

end Config

end Tunnel
