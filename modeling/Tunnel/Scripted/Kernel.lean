import Tunnel.Kernel.DeviceNode

/-!
# A scripted kernel

A kernel with a set of interfaces that behaves as its platform does, except where a rule makes a
call fail. Rules count the calls they are about, so that any call of a run can be made to fail.

## Main definitions

* `Scripted.Rule` — which call is to fail, and how
* `Scripted.Kernel` — the state of the kernel
* `Scripted.Kernel.behaviour` — how it answers
* `Scripted.Kernel.allocator` — the allocator of its platform on it

## Main results

* `Scripted.Kernel.flagsOf_store` — the flags of an interface are those that were last stored
-/

namespace Tunnel.Scripted

/-- A call that is to fail. -/
structure Rule where
  /-- The name of the call. -/
  call : String
  /-- The place of the call among those of its name, from 1; 0 stands for every one. -/
  place : Nat
  code : Errno
  /-- How many calls the rule has counted. -/
  counted : Nat
deriving DecidableEq, Repr

/-- Goes through the rules in order: each rule that is about the call counts it, up to the first by
which the call fails. -/
def applyRules (call : String) : List Rule → Option Errno × List Rule
  | [] => (none, [])
  | rule :: rules =>
    if rule.call = call then
      let rule := { rule with counted := rule.counted + 1 }
      if rule.place = 0 ∨ rule.place = rule.counted then (some rule.code, rule :: rules)
      else
        let (failure, rules) := applyRules call rules
        (failure, rule :: rules)
    else
      let (failure, rules) := applyRules call rules
      (failure, rule :: rules)

/-- The state of a scripted kernel. -/
structure Kernel where
  platform : Platform
  /-- The interfaces with their flags. -/
  interfaces : List (String × UInt16)
  /-- The interfaces that go when a descriptor is closed. -/
  attached : List (Descriptor × String)
  rules : List Rule
  /-- The name that every new interface gets. -/
  assigned : Option String
  /-- The flags of a new interface. -/
  newFlags : UInt16
deriving DecidableEq, Repr

namespace Kernel

/-- A kernel of a platform without interfaces and rules. -/
def ofPlatform (platform : Platform) : Kernel := ⟨platform, [], [], [], none, 0⟩

/-- The flags of an interface. -/
def flagsOf? (kernel : Kernel) (name : String) : Option UInt16 := kernel.interfaces.lookup name

/-- The kernel with an interface that has these flags. -/
def store (kernel : Kernel) (name : String) (flags : UInt16) : Kernel :=
  { kernel with
    interfaces := kernel.interfaces.filter (fun entry => entry.1 != name) ++ [(name, flags)] }

/-- The kernel without an interface. -/
def remove (kernel : Kernel) (name : String) : Kernel :=
  { kernel with interfaces := kernel.interfaces.filter fun entry => entry.1 != name }

/-- The interface that a record names. -/
def named? (kernel : Kernel) (field : NameField) : Option String :=
  let octets := field.octets.takeWhile (· != 0)
  (kernel.interfaces.map Prod.fst).find? fun name => Bytes.ofText name == octets

/-- The error number for a name that no interface has. -/
def unknownName : Platform → Errno
  | .linux => Errno.noDevice
  | .freebsd => Errno.noAddress

/-- The first of the numbered names that is free, counting up from `n`. One of any `tries` names
more than there are interfaces is free. -/
def freeName (kernel : Kernel) : (tries n : Nat) → String
  | 0, n => "tun" ++ toString n
  | tries + 1, n =>
    let name := "tun" ++ toString n
    if (kernel.flagsOf? name).isSome then kernel.freeName tries (n + 1) else name

/-- Whether a request leaves the name to the kernel. -/
def leavesName (platform : Platform) (requested : Bytes) : Bool :=
  requested.isEmpty || (platform == .freebsd && requested == Bytes.ofText DeviceNode.clonedName)

/-- The name of a new interface. A requested name that is taken is a failure. -/
def chooseName (kernel : Kernel) (field : NameField) : Except Errno String :=
  if leavesName kernel.platform (field.octets.takeWhile (· != 0)) then
    .ok (kernel.assigned.getD (kernel.freeName kernel.interfaces.length 0))
  else if (kernel.named? field).isSome then .error Errno.alreadyExists
  else .ok (kernel.assigned.getD field.text)

/-- Makes an interface. Where interfaces live as long as their device is open, it goes with it. -/
def create (descriptor : Descriptor) (record : InterfaceRecord) (kernel : Kernel) :
    Except Errno InterfaceRecord × Kernel :=
  match kernel.chooseName record.name with
  | .error code => (.error code, kernel)
  | .ok name =>
    let made := kernel.store name kernel.newFlags
    let kept := if kernel.platform = .linux then
        { made with attached := (descriptor, name) :: made.attached }
      else made
    (.ok { record with name := NameField.fill (Bytes.ofText name) }, kept)

/-- Answers a request about an interface that has to be there. -/
def onNamed (kernel : Kernel) (record : InterfaceRecord)
    (answer : String → InterfaceRecord × Kernel) : Except Errno InterfaceRecord × Kernel :=
  match kernel.named? record.name with
  | none => (.error (unknownName kernel.platform), kernel)
  | some name =>
    let (after, kernel) := answer name
    (.ok after, kernel)

/-- Answers a control request that no rule makes fail. -/
def comply (descriptor : Descriptor) (request : ControlRequest) (kernel : Kernel) :
    Except Errno InterfaceRecord × Kernel :=
  match request with
  | .onDevice _ _ => (.ok (.ofName "" 0), kernel)
  | .onInterface .create record => kernel.create descriptor record
  | .onInterface .getFlags record => kernel.onNamed record fun name =>
    ({ record with flags := (kernel.flagsOf? name).getD 0 }, kernel)
  | .onInterface .setFlags record => kernel.onNamed record fun name =>
    (record, kernel.store name record.flags)
  | .onInterface .destroy record => kernel.onNamed record fun name => (record, kernel.remove name)
  | .onInterface _ record => (.ok record, kernel)

/-- Applies the rules for a call, and then answers it unless a rule makes it fail. -/
def guarded {α : Type} (call : String) (answer : Kernel → Except Errno α × Kernel)
    (kernel : Kernel) : Except Errno α × Kernel :=
  let (failure, rules) := applyRules call kernel.rules
  let counted := { kernel with rules := rules }
  match failure with
  | some code => (.error code, counted)
  | none => answer counted

/-- Opens a device: the clone device, or the device of an interface that is there. -/
def openPath (path : String) (kernel : Kernel) : Except Errno Unit × Kernel :=
  if path = CloneDevice.path ∨ kernel.interfaces.any (fun entry => DeviceNode.path entry.1 = path)
  then (.ok (), kernel)
  else (.error Errno.noEntry, kernel)

/-- The kernel after a descriptor was closed. -/
def release (descriptor : Descriptor) (kernel : Kernel) : Kernel :=
  match kernel.attached.lookup descriptor with
  | none => kernel
  | some name =>
    { kernel.remove name with
      attached := kernel.attached.filter fun entry => entry.1 != descriptor }

/-- How the kernel answers system calls. -/
def behaviour : Tunnel.Kernel Kernel where
  interfaceExists name kernel := ((kernel.flagsOf? name).isSome, kernel)
  openSocket := guarded "socket" fun kernel => (.ok (), kernel)
  openDevice path := guarded "open" (openPath path)
  control descriptor request kernel :=
    guarded (kernel.platform.requestName request.kind) (comply descriptor request) kernel
  closed := release

/-- The allocator of a platform on the kernel. -/
def allocator (platform : Platform) : Allocator (Machine Kernel) := platform.allocator behaviour

theorem flagsOf_store (kernel : Kernel) (name : String) (flags : UInt16) :
    (kernel.store name flags).flagsOf? name = some flags := by
  simp only [flagsOf?, store]
  induction kernel.interfaces with
  | nil => simp
  | cons entry later ih =>
    obtain ⟨other, old⟩ := entry
    by_cases h : other = name
    · simpa [h] using ih
    · have hne : (name == other) = false := by
        simpa using fun h' => h h'.symm
      simpa [h, List.lookup_cons, hne] using ih

end Kernel

end Tunnel.Scripted
