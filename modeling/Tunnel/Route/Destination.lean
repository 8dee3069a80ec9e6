import Tunnel.Address.Parser
import Tunnel.Address.Printer
import Tunnel.Error
import Tunnel.Text.Blank

/-!
# Route prefixes

A route's destination is an address with the number of leading bits that count. It is written
`address/length`; a bare address stands for itself alone. The bits past the length are kept as they
were given.

## Main definitions

* `RoutePrefix` — an address and a length within its width
* `RoutePrefix.ofLength`, `RoutePrefix.host` — from an address with a length, or alone
* `RoutePrefix.Fault` — why a text is no route prefix
* `RoutePrefix.parse` — reading one
* `RoutePrefix.render` — writing one

## Main results

* `RoutePrefix.isHost_iff` — a prefix is a single address exactly when it is as long as its
  address is wide
* `RoutePrefix.ofLength_address_length` — every prefix comes from its own address and length
-/

namespace Tunnel

/-- A destination: an address with the number of its leading bits that count. -/
structure RoutePrefix where
  address : Address
  length : Nat
  /-- No more bits count than there are. -/
  length_le : length ≤ address.width
deriving DecidableEq

namespace RoutePrefix

/-- Why a text or a pair of address and length is no route prefix. -/
inductive Fault
  /-- What stands before the slash is no address. -/
  | badAddress (text : List Char)
  /-- What stands after the slash is no number of one octet. -/
  | badLength (text : List Char)
  /-- The address is not that wide. -/
  | tooLong (address : Address) (length : Nat)
deriving DecidableEq

/-- The wording of a fault. -/
def Fault.text : Fault → String
  | badAddress text => String.ofList text ++ ": bad address"
  | badLength text => String.ofList text ++ ": bad prefix length"
  | tooLong address length =>
    String.ofList (address.render ++ '/' :: Text.decimalDigits length) ++
      ": prefix length exceeds " ++ toString address.width

/-- A fault as a failure of the library. -/
def Fault.error (fault : Fault) : Error := .invalidPrefix fault.text

/-- The prefix of a single address. -/
def host (address : Address) : RoutePrefix := ⟨address, address.width, Nat.le_refl _⟩

/-- The prefix of `length` bits, unless the address is narrower. -/
def ofLength (address : Address) (length : Nat) : Except Fault RoutePrefix :=
  if h : length ≤ address.width then .ok ⟨address, length, h⟩ else .error (.tooLong address length)

/-- Whether the prefix covers one address only. -/
def isHost (p : RoutePrefix) : Bool := p.length == p.address.width

/-- The family of the address. -/
def family (p : RoutePrefix) : AddressFamily := p.address.family

/-- The octets of the address, in network order; no bit is masked. -/
def octets (p : RoutePrefix) : Bytes := p.address.octets

/-! ### Text -/

/-- The text `address/length`. -/
def render (p : RoutePrefix) : List Char :=
  p.address.render ++ '/' :: Text.decimalDigits p.length

/-- The text as a string. -/
def toText (p : RoutePrefix) : String := String.ofList p.render

/-- A length: decimal digits, after one plus sign if need be, for a number of one octet. -/
def parseLength? (s : List Char) : Option Nat :=
  let digits := match s with
    | '+' :: rest => rest
    | _ => s
  if digits = [] ∨ digits.any (fun c => !Text.isDigitOf 10 c) then none
  else if 255 < Text.numeral 10 digits then none
  else some (Text.numeral 10 digits)

/-- The text before the first slash, and the text after it if there is a slash. -/
def splitAtSlash (s : List Char) : List Char × Option (List Char) :=
  match s.dropWhile (· != '/') with
  | [] => (s, none)
  | _ :: rest => (s.takeWhile (· != '/'), some rest)

/-- Reads a prefix that fills the text. -/
def parseTrimmed (s : List Char) : Except Fault RoutePrefix :=
  let (front, lengthText) := splitAtSlash s
  match Address.parse? front with
  | none => .error (.badAddress s)
  | some address =>
    match lengthText with
    | none => .ok (host address)
    | some l =>
      match parseLength? l with
      | none => .error (.badLength s)
      | some length => ofLength address length

/-- Reads a prefix; blanks around it do not count. -/
def parse (s : List Char) : Except Fault RoutePrefix := parseTrimmed (Text.trim s)

/-- Reads a prefix from a string. -/
def ofText (s : String) : Except Error RoutePrefix :=
  (parse s.toList).mapError Fault.error

theorem isHost_iff {p : RoutePrefix} : p.isHost = true ↔ p = host p.address := by
  obtain ⟨address, length, _⟩ := p
  simp [isHost, host]

@[simp] theorem ofLength_address_length (p : RoutePrefix) :
    ofLength p.address p.length = .ok p := by
  simp [ofLength, p.length_le]

theorem length_le_octet (p : RoutePrefix) : p.length ≤ 128 :=
  Nat.le_trans p.length_le p.address.width_le

end RoutePrefix

end Tunnel
