import Mathlib.Data.List.TakeWhile
import Tunnel.Interface.Name

/-!
# Names that cross into the kernel and back

The kernel gives an interface its name in a field, and asks for it in a field whenever something is
to be done with the interface. Between the two the name is a text. A name of ASCII that a zero octet
ends comes back as it was given, whatever the kernel left in the field behind that octet.

## Main definitions

* `NameField.stem` — the octets of a field ahead of its first zero
* `NameField.IsTerminated` — a field that holds ASCII and a zero

## Main results

* `NameField.octets_ofName` — a name that fits is followed by zeros
* `NameField.IsTerminated.ofText_text` — the text of such a field has the octets of its stem
* `NameField.IsTerminated.stem_ofName_text`, `NameField.IsTerminated.octets_ofName_text` — and
  written to a field again, it has that stem, and zeros behind it
* `NameField.ofText_text_ofName` — a name of ASCII comes back from a field, cut to 15 octets
* `NameField.getElem?_write_of_lt`, `NameField.getElem?_write_of_le` — what writing a name changes
-/

namespace Tunnel

/-- The octet of an ASCII character is the octet that it was made of. -/
theorem utf8EncodeChar_ofUInt8 {octet : UInt8} (h : octet < 0x80) :
    String.utf8EncodeChar (Char.ofUInt8 octet) = [octet] := by
  have hval : (Char.ofUInt8 octet).val.toNat = octet.toNat := UInt8.toNat_toUInt32 octet
  have hle : octet.toNat ≤ 127 := Nat.le_of_lt_succ h
  rw [String.utf8EncodeChar, hval]
  simp only [if_pos hle, UInt8.ofNat_toNat]

theorem ofChars_map_ofUInt8 {octets : Bytes} (h : ∀ octet ∈ octets, octet < 0x80) :
    Bytes.ofChars (octets.map Char.ofUInt8) = octets := by
  induction octets with
  | nil => rfl
  | cons octet later ih =>
    obtain ⟨hoctet, hlater⟩ := List.forall_mem_cons.1 h
    rw [Bytes.ofChars] at ih
    rw [Bytes.ofChars, List.map_cons, List.flatMap_cons, utf8EncodeChar_ofUInt8 hoctet, ih hlater]
    rfl

namespace NameField

/-- The octets ahead of the first zero. -/
def stem (field : NameField) : Bytes := field.octets.takeWhile (· != 0)

/-- The field holds ASCII, and a zero octet that ends it. -/
structure IsTerminated (field : NameField) : Prop where
  zero_mem : 0 ∈ field.octets
  lt_of_mem_stem : ∀ octet ∈ field.stem, octet < 0x80

theorem ne_zero_of_mem_stem {field : NameField} : ∀ octet ∈ field.stem, (octet != 0) = true := by
  intro octet hmem
  have himp : octet ∈ field.stem → (octet != 0) = true := List.mem_takeWhile_imp
  exact himp hmem

/-- What fits of a name is followed by zeros. -/
theorem octets_ofName_fitting (name : String) :
    (ofName name).octets = fitting name ++ Bytes.zeros (16 - (fitting name).length) := by
  show fitting name ++ (Bytes.zeros 16).drop (fitting name).length = _
  rw [Bytes.zeros, List.drop_replicate]
  rfl

theorem fitting_eq {name : String} (h : (Bytes.ofText name).length ≤ 15) :
    fitting name = Bytes.ofText name := List.take_of_length_le h

/-- A name that fits is followed by zeros. -/
theorem octets_ofName {name : String} (h : (Bytes.ofText name).length ≤ 15) :
    (ofName name).octets = Bytes.ofText name ++ Bytes.zeros (16 - (Bytes.ofText name).length) := by
  rw [octets_ofName_fitting, fitting_eq h]

/-- A name without zeros is read up to where it was cut off. -/
theorem stem_ofName_fitting {name : String} (hzero : 0 ∉ fitting name) :
    (ofName name).stem = fitting name := by
  have hne : ∀ octet ∈ fitting name, (octet != 0) = true := fun octet hmem =>
    bne_iff_ne.2 fun heq => hzero (heq ▸ hmem)
  rw [stem, octets_ofName_fitting, List.takeWhile_append_of_pos hne, Bytes.zeros,
    List.takeWhile_replicate]
  simp

theorem stem_ofName {name : String} (h : (Bytes.ofText name).length ≤ 15)
    (hzero : 0 ∉ Bytes.ofText name) : (ofName name).stem = Bytes.ofText name := by
  rw [stem_ofName_fitting, fitting_eq h]
  rwa [fitting_eq h]

/-- A name of ASCII without zeros is terminated, for there is room for a zero behind it. -/
theorem isTerminated_ofName {name : String}
    (h : ∀ octet ∈ fitting name, octet ≠ 0 ∧ octet < 0x80) : (ofName name).IsTerminated := by
  have hzero : 0 ∉ fitting name := fun hmem => (h 0 hmem).1 rfl
  constructor
  · have hpos : 0 < 16 - (fitting name).length := by
      have := length_fitting_le name
      omega
    rw [octets_ofName_fitting]
    exact List.mem_append_right _ (List.mem_replicate.2 ⟨Nat.ne_of_gt hpos, rfl⟩)
  · rw [stem_ofName_fitting hzero]
    exact fun octet hmem => (h octet hmem).2

namespace IsTerminated

variable {field : NameField}

theorem length_stem_le (h : field.IsTerminated) : field.stem.length ≤ 15 := by
  have hne : field.stem ≠ field.octets := by
    intro heq
    have := List.takeWhile_eq_self_iff.1 heq 0 h.zero_mem
    exact absurd this (by decide)
  have hfront : field.stem <+: field.octets := List.takeWhile_prefix _
  have hlt : field.stem.length < field.octets.length :=
    Nat.lt_of_le_of_ne hfront.length_le fun heq => hne (hfront.eq_of_length heq)
  rw [field.length_octets] at hlt
  exact Nat.le_of_lt_succ hlt

theorem ofText_text (h : field.IsTerminated) : Bytes.ofText field.text = field.stem := by
  rw [Bytes.ofText, text, String.toList_ofList]
  exact ofChars_map_ofUInt8 h.lt_of_mem_stem

/-- Written to a field again, the name is followed by zeros, whatever was in the field before. -/
theorem octets_ofName_text (h : field.IsTerminated) :
    (ofName field.text).octets = field.stem ++ Bytes.zeros (16 - field.stem.length) := by
  have hoctets := h.ofText_text
  rw [octets_ofName, hoctets]
  exact hoctets ▸ h.length_stem_le

/-- **A name comes back** as it was given. -/
theorem stem_ofName_text (h : field.IsTerminated) : (ofName field.text).stem = field.stem := by
  have hoctets := h.ofText_text
  rw [stem_ofName, hoctets]
  · exact hoctets ▸ h.length_stem_le
  · rw [hoctets]
    exact fun hzero => absurd (ne_zero_of_mem_stem 0 hzero) (by decide)

end IsTerminated

/-- **A name of ASCII comes back** from a field, cut to 15 octets. -/
theorem ofText_text_ofName {name : String}
    (h : ∀ octet ∈ Bytes.ofText name, octet ≠ 0 ∧ octet < 0x80) :
    Bytes.ofText (ofName name).text = (Bytes.ofText name).take 15 := by
  have hfitting : ∀ octet ∈ fitting name, octet ≠ 0 ∧ octet < 0x80 := fun octet hmem =>
    h octet (List.mem_of_mem_take hmem)
  rw [(isTerminated_ofName hfitting).ofText_text,
    stem_ofName_fitting fun hmem => (hfitting 0 hmem).1 rfl]
  rfl

/-! ### Writing over a field -/

section Write

variable (field : NameField) (name : String) {i : Nat}

theorem length_fitting : (fitting name).length = min (Bytes.ofText name).length 15 := by
  rw [fitting, List.length_take, Nat.min_comm]

theorem getElem?_write_of_lt (h : i < min (Bytes.ofText name).length 15) :
    (field.write name).octets[i]? = (Bytes.ofText name)[i]? := by
  have hlt : i < (fitting name).length := length_fitting name ▸ h
  rw [write, List.getElem?_append_left hlt]
  exact List.getElem?_take_of_lt (Nat.lt_of_lt_of_le h (Nat.min_le_right _ _))

/-- What is behind the octets of a name stays. -/
theorem getElem?_write_of_le (h : min (Bytes.ofText name).length 15 ≤ i) :
    (field.write name).octets[i]? = field.octets[i]? := by
  have hle : (fitting name).length ≤ i := length_fitting name ▸ h
  rw [write, List.getElem?_append_right hle, List.getElem?_drop, Nat.add_sub_of_le hle]

end Write

end NameField

end Tunnel
