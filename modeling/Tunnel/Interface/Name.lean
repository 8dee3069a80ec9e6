import Tunnel.Error
import Tunnel.Text.Utf8

/-!
# Interface names

A name has 1 to 15 octets, all of them printable ASCII other than the space and the slash. The
kernel takes and gives names in a field of 16 octets, in which a zero octet ends the name.

## Main definitions

* `Interface.isName` — whether a text is a name
* `Interface.validateName` — a text that has to be one
* `NameField` — the field of 16 octets
* `NameField.write` — a name written over the field
* `NameField.text` — the name in the field

## Main results

* `Interface.validateName_eq_ok_iff` — which texts pass
* `NameField.getElem?_write_last` — writing a name never touches the last octet
-/

namespace Tunnel

/-- The number of octets in a name field. -/
def nameFieldSize : Nat := 16

namespace Interface

/-- Whether an octet may stand in a name. -/
def isNameOctet (octet : UInt8) : Bool :=
  0x21 ≤ octet && octet ≤ 0x7E && octet != 0x2F

/-- Whether the text is an interface name. -/
def isName (text : String) : Bool :=
  let octets := Bytes.ofText text
  octets != [] && octets.length < nameFieldSize && octets.all isNameOctet

/-- The text, if it is an interface name. -/
def validateName (text : String) : Except Error String :=
  if isName text then .ok text else .error (.invalidName text)

theorem validateName_eq_ok_iff {text name : String} :
    validateName text = .ok name ↔ isName text = true ∧ name = text := by
  by_cases h : isName text = true
  · rw [validateName, if_pos h]
    simp [h, eq_comm]
  · rw [validateName, if_neg h]
    simp [h]

end Interface

/-- The field in which a name crosses into the kernel and back. -/
structure NameField where
  octets : Bytes
  length_octets : octets.length = 16
deriving DecidableEq

namespace NameField

/-- The field of zeros. -/
def empty : NameField := ⟨Bytes.zeros 16, rfl⟩

/-- The octets as a field, if there are 16. -/
def ofBytes? (octets : Bytes) : Option NameField :=
  if h : octets.length = 16 then some ⟨octets, h⟩ else none

/-- The field that holds these octets, 16 at most, and then zeros. -/
def fill (octets : Bytes) : NameField :=
  ⟨octets.take 16 ++ Bytes.zeros (16 - octets.length), by
    rw [List.length_append, List.length_take, Bytes.length_zeros]
    omega⟩

/-- The octets of a name that a field has room for ahead of a final zero. -/
def fitting (name : String) : Bytes := (Bytes.ofText name).take 15

theorem length_fitting_le (name : String) : (fitting name).length ≤ 15 :=
  List.length_take_le _ _

/-- The field with the name written over its first octets. What follows them stays. -/
def write (field : NameField) (name : String) : NameField :=
  ⟨fitting name ++ field.octets.drop (fitting name).length, by
    have := length_fitting_le name
    rw [List.length_append, List.length_drop, field.length_octets]
    omega⟩

/-- The field of a request that names an interface. -/
def ofName (name : String) : NameField := empty.write name

/-- The name in the field: one character for each octet before the first zero. -/
def text (field : NameField) : String :=
  String.ofList ((field.octets.takeWhile (· != 0)).map Char.ofUInt8)

theorem getElem?_write_last (field : NameField) (name : String) :
    (field.write name).octets[15]? = field.octets[15]? := by
  have := length_fitting_le name
  rw [write, List.getElem?_append_right this, List.getElem?_drop, Nat.add_sub_of_le this]

end NameField

end Tunnel
