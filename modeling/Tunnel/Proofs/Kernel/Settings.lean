import Tunnel.Proofs.Kernel.Plan

/-!
# Settings

Control requests that neither make an interface nor take one away. Between the making of an
interface and the moment it is up, both platforms do nothing else with it, and nothing of that
matters to what is open.

## Main definitions

* `Interface.entry` — what an interface holds open
* `Transaction.IsSetting`, `Transaction.Settings` — settings, and nothing but settings
* `Plan.IsSettings` — plans of settings

## Main results

* `Transaction.Settings.afterAll` — settings leave the descriptors as they are
* `Plan.Run.settings` — what is done of a plan of settings are settings
* `Plan.IsSettings.asks` — and so is what it asks for
-/

namespace Tunnel

variable {log : List Transaction}

/-- What an interface holds open. -/
def Interface.entry (interface : Interface) : Descriptor × DescriptorKind :=
  (interface.descriptor, .device)

/-! ### Settings -/

namespace Transaction

/-- A control request that neither makes an interface nor takes one away. -/
def IsSetting : Transaction → Prop
  | control _ _ request _ => request.kind ≠ .create ∧ request.kind ≠ .destroy
  | _ => False

/-- Nothing but settings. -/
def Settings (log : List Transaction) : Prop := ∀ transaction ∈ log, transaction.IsSetting

theorem Settings.nil : Settings [] := fun _ hmem => absurd hmem List.not_mem_nil

theorem Settings.cons {descriptor : Descriptor} {kind : DescriptorKind} {request : ControlRequest}
    (answer : Except Errno InterfaceRecord) (hcreate : request.kind ≠ .create)
    (hdestroy : request.kind ≠ .destroy) (h : Settings log) :
    Settings (.control descriptor kind request answer :: log) :=
  List.forall_mem_cons.2 ⟨⟨hcreate, hdestroy⟩, h⟩

theorem Settings.afterAll (h : Settings log) (t : DescriptorTable) : t.afterAll log = t := by
  induction log with
  | nil => rfl
  | cons transaction later ih =>
    obtain ⟨hfirst, hlater⟩ := List.forall_mem_cons.1 h
    cases transaction with
    | control descriptor kind request answer => exact ih hlater
    | _ => exact hfirst.elim

end Transaction

open Transaction (Settings)

/-! ### Plans of settings -/

namespace Plan

variable {α : Type}

/-- A plan of settings and nothing else. -/
def IsSettings : Plan α → Prop
  | done _ => True
  | control _ _ request next =>
    request.kind ≠ .create ∧ request.kind ≠ .destroy ∧ ∀ record, (next record).IsSettings
  | _ => False

theorem Run.settings {plan : Plan α} {result : Except Error α} (h : plan.Run log result)
    (hplan : plan.IsSettings) : Settings log := by
  induction h with
  | done => exact .nil
  | refused code => exact .cons _ hplan.1 hplan.2.1 .nil
  | granted _ ih => exact .cons _ hplan.1 hplan.2.1 (ih (hplan.2.2 _))
  | _ => exact hplan.elim

/-- A plan of settings asks for settings. -/
theorem IsSettings.asks {plan : Plan α} (h : plan.IsSettings) :
    plan.Asks fun request => request.kind ≠ .create ∧ request.kind ≠ .destroy := by
  induction plan with
  | done => exact trivial
  | control _ _ _ _ ih => exact ⟨⟨h.1, h.2.1⟩, fun record => ih record (h.2.2 record)⟩
  | _ => exact h.elim

theorem isSettings_bringUp {socket : Descriptor} {name : String} {value : α} :
    (bringUp socket name value).IsSettings :=
  ⟨nofun, nofun, fun _ => ⟨nofun, nofun, fun _ => trivial⟩⟩

end Plan

/-- A requested name is taken as it is. -/
theorem checkRequested_eq_ok {requested checked : Option String}
    (h : checkRequested requested = .ok checked) : checked = requested := by
  cases requested with
  | none => exact (Except.ok.inj h).symm
  | some name =>
    rw [checkRequested, Interface.validateName] at h
    by_cases hname : Interface.isName name = true
    · rw [if_pos hname] at h
      exact (Except.ok.inj h).symm
    · rw [if_neg hname] at h
      cases h

end Tunnel
