import Tunnel.Action

/-!
# Interfaces and their allocators

An allocator makes tunnel interfaces and takes them away again. How it does so is its own affair:
here it is a pair of actions on some world.

## Main definitions

* `Interface` — an interface that was made
* `Allocator` — what makes and destroys interfaces in a world
* `Allocator.unsupported` — an allocator for a platform without tunnel interfaces
-/

namespace Tunnel

/-- How an interface frames its link. -/
inductive LinkMode
  | pointToPoint
  | broadcast
deriving DecidableEq, Repr

/-- The number of an open descriptor. -/
abbrev Descriptor := Nat

/-- An interface that was made, with the descriptor through which its frames pass. -/
structure Interface where
  /-- The name that it was given, which need not be the one that was asked for. -/
  name : String
  descriptor : Descriptor
  mode : LinkMode
  up : Bool
deriving DecidableEq, Repr

/-- What makes and destroys interfaces in a world. -/
structure Allocator (σ : Type) where
  /-- Makes an interface of the requested name, or of a name that the world chooses. -/
  create : Option String → Action σ (Except Error Interface)
  /-- Takes an interface away, whatever the answer. -/
  destroy : Interface → Action σ (Except Error Unit)

namespace Allocator

/-- An allocator for a platform without tunnel interfaces. -/
def unsupported {σ : Type} : Allocator σ where
  create _ := pure (.error (.notSupported "tun interface creation"))
  destroy _ := pure (.ok ())

/-- The same allocator on a part of a larger world. -/
def onPart {σ τ : Type} (get : τ → σ) (set : σ → τ → τ) (allocator : Allocator σ) :
    Allocator τ where
  create requested := (allocator.create requested).onPart get set
  destroy interface := (allocator.destroy interface).onPart get set

end Allocator

end Tunnel
