import Tunnel.Proofs.Kernel.Ledger

/-!
# What either platform does with its kernel

The two platforms have different courses, and they keep the same rules: of what was opened, an
interface that was made holds its device; nothing is given up while its device is open; and what was
made and is not held by the answer is gone, by request or with its device.

## Main definitions

* `Platform.Made` — what the making of an interface comes to
* `Platform.Ended` — what taking it away comes to
* `Platform.TakesAway` — what is done to take it away, from any machine

## Main results

* `Platform.traces_create`, `Platform.traces_destroy` — the platform's allocator does that
* `Platform.traces_destroy_closing` — taking an interface away, whatever its descriptor is open on
-/

namespace Tunnel.Platform

open Transaction (made attempted heldBy AttemptsWith WithSocket)

variable {κ : Type} {kernel : Kernel κ} {t : DescriptorTable}
variable {platform : Platform} {log : List Transaction}

/-- What the making of an interface comes to. -/
structure Made (platform : Platform) (t : DescriptorTable) (log : List Transaction)
    (result : Except Error Interface) : Prop where
  opens : t.Opens log (heldBy (fun interface => [interface.entry]) result)
  device_first : t.Along (AttemptsWith t.devices) log
  kept : ∀ interface, result = .ok interface → attempted log = []
  matched : platform = .freebsd →
    made log = attempted log ++ heldBy (fun interface => [interface.stem]) result
  named : platform = .freebsd → ∀ interface, result = .ok interface → interface.IsNamed
  closed_after : platform = .linux → ∀ e descriptor kind request record, result = .error e →
    .control descriptor kind (.onInterface .create request) (.ok record) ∈ log →
    [.control descriptor kind (.onInterface .create request) (.ok record),
      .close descriptor kind].Sublist log

/-- What taking an interface away comes to. -/
structure Ended (platform : Platform) (t : DescriptorTable) (interface : Interface)
    (log : List Transaction) (answer : Except Error Unit) : Prop where
  opened_eq : (t.afterAll log).opened = (t.erase interface.descriptor).opened
  device_first : t.Along (AttemptsWith (t.erase interface.descriptor).devices) log
  matched : platform = .freebsd → interface.IsNamed → made log = [] ∧
    (attempted log = [interface.stem] ∧ (∀ code, answer ≠ .error (.unavailable .destroy code)) ∨
      attempted log = [] ∧ ∃ code, answer = .error (.unavailable .destroy code) ∧
        .openSocket (.error code) ∈ log)

theorem traces_create (hbounded : t.Bounded) (hnames : kernel.WritesNames) (platform : Platform)
    (requested : Option String) :
    Machine.Traces kernel t ((platform.allocator kernel).create requested) (platform.Made t) := by
  cases platform with
  | linux =>
    refine (CloneDevice.traces_create requested).mono ?_
    intro log result h
    constructor
    · exact h.opens hbounded
    · exact .of_attempted_eq_nil h.attempted_eq_nil
    · exact fun _ _ => h.attempted_eq_nil
    · exact nofun
    · exact nofun
    · rintro - e descriptor kind request record rfl hmem
      exact h.closed_after hmem
  | freebsd =>
    refine ((DeviceNode.traces_create requested).writing hnames).mono ?_
    rintro log result ⟨h, hwrites⟩
    obtain ⟨hmatched, hnamed⟩ := h.matched hwrites
    constructor
    · exact h.opens hbounded
    · exact h.device_first hbounded
    · rintro interface rfl
      exact h.attempted_of_ok
    · exact fun _ => hmatched
    · exact fun _ => hnamed
    · exact nofun

theorem traces_destroy (hbounded : t.Bounded) (platform : Platform) {interface : Interface}
    (hopen : t.kindOf? interface.descriptor = some .device) :
    Machine.Traces kernel t ((platform.allocator kernel).destroy interface)
      (platform.Ended t interface) := by
  cases platform with
  | linux =>
    refine (CloneDevice.traces_destroy hopen).mono ?_
    rintro _ _ ⟨rfl, rfl⟩
    exact ⟨rfl, .of_attempted_eq_nil rfl, nofun⟩
  | freebsd =>
    refine (DeviceNode.traces_destroy hopen).mono ?_
    intro log answer h
    exact ⟨h.opened_afterAll hbounded, h.device_first, fun _ hnamed => h.matched hnamed⟩

/-! ### Taking away, whatever is open -/

/-- What is done to take an interface away. Its descriptor is closed, if it is open; and where the
interface has not gone with it, there is one request, if a socket can be opened for that. -/
def TakesAway (platform : Platform) (t : DescriptorTable) (interface : Interface)
    (log : List Transaction) (answer : Except Error Unit) : Prop :=
  match platform with
  | .linux => log = t.closing interface.descriptor ∧ answer = .ok ()
  | .freebsd => ∃ rest, log = t.closing interface.descriptor ++ rest ∧
    WithSocket t.next .destroy (DeviceNode.Destroying t.next interface.name) rest answer

/-- **Taking an interface away**, whatever its descriptor is open on. -/
theorem traces_destroy_closing (platform : Platform) (interface : Interface) :
    Machine.Traces kernel t ((platform.allocator kernel).destroy interface)
      (platform.TakesAway t interface) := by
  cases platform with
  | linux => exact CloneDevice.traces_destroy_closing interface
  | freebsd => exact DeviceNode.traces_destroy_closing interface

namespace TakesAway

variable {interface : Interface} {answer : Except Error Unit}

/-- Whatever else is done, the device has been closed first. -/
theorem closes_first (h : platform.TakesAway t interface log answer) {kind : DescriptorKind}
    (hopen : t.kindOf? interface.descriptor = some kind) :
    log.head? = some (.close interface.descriptor kind) := by
  cases platform with
  | linux =>
    obtain ⟨rfl, -⟩ := h
    rw [DescriptorTable.closing_eq hopen]
    rfl
  | freebsd =>
    obtain ⟨rest, rfl, -⟩ := h
    rw [DescriptorTable.closing_eq hopen]
    rfl

/-- A failure comes of a socket that could not be opened, or of the one request. -/
theorem cause {e : Error} (h : platform.TakesAway t interface log (.error e)) :
    ∃ code, e = .unavailable .destroy code ∧ .openSocket (.error code) ∈ log ∨
      e = .refused .destroy code ∧
        .control t.next .control (DeviceNode.destruction interface.name) (.error code) ∈ log := by
  cases platform with
  | linux =>
    obtain ⟨-, hanswer⟩ := h
    cases hanswer
  | freebsd =>
    obtain ⟨rest, rfl, hrest⟩ := h
    cases hrest with
    | unopened code =>
      exact ⟨code, .inl ⟨rfl, List.mem_append_right _ List.mem_cons_self⟩⟩
    | opened hlog =>
      obtain ⟨reply, rfl, hanswer⟩ := hlog
      cases reply with
      | ok record => cases hanswer
      | error code =>
        obtain rfl := Except.error.inj hanswer
        refine ⟨code, .inr ⟨rfl, List.mem_append_right _ ?_⟩⟩
        exact List.mem_cons_of_mem _ List.mem_cons_self

/-- There is one request at most, and none without a socket. -/
theorem attempted_le (h : platform.TakesAway t interface log answer) :
    (attempted log).length ≤ 1 ∧
      ∀ code, .openSocket (.error code) ∈ log → attempted log = [] := by
  have hclosing : attempted (t.closing interface.descriptor) = [] := by
    rw [DescriptorTable.closing]
    cases t.kindOf? interface.descriptor <;> rfl
  have hunopened : ∀ code, .openSocket (.error code) ∉ t.closing interface.descriptor := by
    rw [DescriptorTable.closing]
    cases t.kindOf? interface.descriptor <;> simp
  cases platform with
  | linux =>
    obtain ⟨rfl, -⟩ := h
    rw [hclosing]
    exact ⟨Nat.zero_le 1, fun _ _ => rfl⟩
  | freebsd =>
    obtain ⟨rest, rfl, hrest⟩ := h
    rw [Transaction.attempted_append, hclosing, List.nil_append]
    cases hrest with
    | unopened code => exact ⟨Nat.zero_le 1, fun _ _ => rfl⟩
    | opened hlog =>
      obtain ⟨reply, rfl, -⟩ := hlog
      refine ⟨Nat.le_refl 1, fun code hmem => ?_⟩
      rcases List.mem_append.1 hmem with hfront | hrest
      · exact absurd hfront (hunopened code)
      · simp at hrest

end TakesAway

end Tunnel.Platform
