import Tunnel.Session

/-!
# A caller with one session

Nothing in the library keeps a session for its caller: whoever opened one closes or drops it. The
caller of a scripted run has room for one session, and may be told at any time to open another. It
then drops the one it has before it opens the other, and is left with none if that fails.

## Main definitions

* `Scripted.Slot` — the caller's room for one session
* `Scripted.Slot.clear` — dropping the session that is there
* `Scripted.Slot.openSession` — opening another one after that
-/

namespace Tunnel.Scripted

/-- A caller's room for one session. -/
abbrev Slot := Option Session

namespace Slot

variable {σ : Type}

/-- Drops the session that is there, and answers whether there was one. -/
def clear (allocator : Allocator σ) (slot : Slot) : Action σ Bool := do
  match slot with
  | none => return false
  | some session =>
    session.drop allocator
    return true

/-- Opens a session after dropping the one that is there. -/
def openSession (allocator : Allocator σ) (backend : RouteBackend σ) (config : Config)
    (slot : Slot) : Action σ (Except Error Session) := do
  let _ ← slot.clear allocator
  Session.openWith allocator backend .fresh config

end Slot

end Tunnel.Scripted
