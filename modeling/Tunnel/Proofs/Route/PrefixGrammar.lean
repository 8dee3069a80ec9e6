import Mathlib.Data.List.TakeWhile
import Tunnel.Config.Reader
import Tunnel.Proofs.Address.Recovery
import Tunnel.Proofs.Text.Trimming

/-!
# The grammar of route prefixes

Which texts are route prefixes, said without a reader: an address alone, or an address and a length
with a slash between them, and blanks around the whole. Every other text is refused, and there are
three reasons for it, of which the first that holds is given. The reader keeps to both, so that no
text is left over and none is read in two ways.

A slash never stands in an address, hence the first one is always the one that parts the address
from the length, and every later one spoils the length. A length may have any number of zeros in
front; one that is greater than 255 is no length at all, and only one up to that is held against the
width of the address.

## Main definitions

* `RoutePrefix.Parted` — a text parted at its first slash
* `RoutePrefix.LengthText` — the texts of a length
* `RoutePrefix.Denotes`, `RoutePrefix.Refused` — the prefix that a text means, or why it means none
* `RoutePrefix.KeepsGrammar` — what becomes of a text

## Main results

* `RoutePrefix.parseLength?_eq_some_iff` — which lengths are read
* `RoutePrefix.denotes_or_refused` — every text means a prefix or is refused
* `RoutePrefix.parseTrimmed_eq_ok_iff`, `RoutePrefix.parseTrimmed_eq_error_iff` — and so it is read
* `RoutePrefix.read_by_grammar` — all of this, for every text and every way to a prefix
-/

namespace Tunnel

namespace Address

variable {a : Address} {c : Char} {text : List Char}

theorem isBlank_of_mayHold (h : mayHold c = true) : Text.isBlank c = false := by
  simp only [mayHold, Bool.or_eq_true, beq_iff_eq] at h
  rcases h with (h | rfl) | rfl
  · exact Text.isBlank_of_isDigitOf h
  · rfl
  · rfl

theorem Spelled.slash_not_mem (h : a.Spelled text) : '/' ∉ text := fun hc =>
  absurd (h.mayHold_of_mem hc) (by decide)

theorem parse?_eq_none_iff_spelled : parse? text = none ↔ ∀ a : Address, ¬a.Spelled text := by
  simp only [← parse?_eq_some_iff_spelled, Option.eq_none_iff_forall_ne_some, ne_eq]

end Address

namespace RoutePrefix

variable {p : RoutePrefix} {s text front l : List Char} {after : Option (List Char)}
  {address : Address} {n : Nat}

/-! ### The parts of a text -/

/-- A text parted at its first slash, if it has one. -/
inductive Parted : List Char → List Char → Option (List Char) → Prop
  | alone {text : List Char} (h : '/' ∉ text) : Parted text text none
  | slash {front l : List Char} (h : '/' ∉ front) : Parted (front ++ '/' :: l) front (some l)

theorem parted_iff : Parted text front after ↔ splitAtSlash text = (front, after) := by
  have hplain {front : List Char} (h : '/' ∉ front) : ∀ c ∈ front, (c != '/') = true := by
    intro c hc
    rw [bne_iff_ne]
    exact fun heq => h (heq ▸ hc)
  constructor
  · rintro (h | h)
    · rw [splitAtSlash, List.dropWhile_eq_nil_iff.2 (hplain h)]
    · rw [splitAtSlash, List.dropWhile_append_of_pos (hplain h),
        List.takeWhile_append_of_pos (hplain h)]
      simp
  · intro h
    have hjoin : text.takeWhile (· != '/') ++ text.dropWhile (· != '/') = text :=
      List.takeWhile_append_dropWhile
    have hfront : '/' ∉ text.takeWhile (· != '/') := fun hc => by
      simpa using List.all_eq_true.1 List.all_takeWhile _ hc
    rw [splitAtSlash] at h
    split at h
    · next hdrop =>
      obtain ⟨rfl, rfl⟩ := Prod.mk.inj h
      rw [hdrop, List.append_nil] at hjoin
      rw [hjoin] at hfront
      exact .alone hfront
    · next c later hdrop =>
      obtain ⟨rfl, rfl⟩ := Prod.mk.inj h
      have hc := List.head?_dropWhile_not (· != '/') text
      rw [hdrop] at hc
      obtain rfl : c = '/' := by simpa using hc
      rw [hdrop] at hjoin
      have hparted : Parted _ _ (some later) := .slash hfront
      rwa [hjoin] at hparted

theorem exists_parted (text : List Char) : ∃ front after, Parted text front after :=
  ⟨_, _, parted_iff.2 rfl⟩

/-! ### Lengths -/

/-- The text of a length: decimal digits, with one plus sign in front of them if need be. -/
inductive LengthText : List Char → Nat → Prop
  | unsigned {digits : List Char} (hne : digits ≠ []) (hdigit : ∀ c ∈ digits, c.isDigit = true) :
      LengthText digits (Nat.ofDigitChars 10 digits 0)
  | signed {digits : List Char} (hne : digits ≠ []) (hdigit : ∀ c ∈ digits, c.isDigit = true) :
      LengthText ('+' :: digits) (Nat.ofDigitChars 10 digits 0)

theorem lengthText_iff : LengthText l n ↔
    Text.Spells 10 l n ∨ ∃ digits, l = '+' :: digits ∧ Text.Spells 10 digits n := by
  constructor
  · rintro (⟨hne, hdigit⟩ | ⟨hne, hdigit⟩)
    · exact .inl (Text.spells_ten_iff.2 ⟨hne, hdigit, rfl⟩)
    · exact .inr ⟨_, rfl, Text.spells_ten_iff.2 ⟨hne, hdigit, rfl⟩⟩
  · rintro (h | ⟨digits, rfl, h⟩)
    · obtain ⟨hne, hdigit, rfl⟩ := Text.spells_ten_iff.1 h
      exact .unsigned hne hdigit
    · obtain ⟨hne, hdigit, rfl⟩ := Text.spells_ten_iff.1 h
      exact .signed hne hdigit

/-- **Which lengths are read.** -/
theorem parseLength?_eq_some_iff : parseLength? l = some n ↔ LengthText l n ∧ n ≤ 255 := by
  have hread (digits : List Char) :
      (if digits = [] ∨ digits.any (fun c => !Text.isDigitOf 10 c) = true then none
        else if 255 < Text.numeral 10 digits then none
        else some (Text.numeral 10 digits)) = some n ↔ Text.Spells 10 digits n ∧ n ≤ 255 := by
    constructor
    · intro h
      split at h
      · cases h
      next hdigits =>
      split at h
      · cases h
      next hvalue =>
      obtain rfl := Option.some.inj h
      rw [not_or] at hdigits
      exact ⟨⟨hdigits.1, by simpa using hdigits.2, rfl⟩, Nat.not_lt.1 hvalue⟩
    · rintro ⟨⟨hne, hdigit, rfl⟩, hle⟩
      have hall : ¬digits.any (fun c => !Text.isDigitOf 10 c) = true := by simpa using hdigit
      rw [if_neg (not_or.2 ⟨hne, hall⟩), if_neg (Nat.not_lt.2 hle)]
  rw [lengthText_iff]
  by_cases hl : ∃ digits, l = '+' :: digits
  · obtain ⟨digits, rfl⟩ := hl
    have hplus : ¬Text.Spells 10 ('+' :: digits) n := fun h =>
      absurd (h.digit '+' List.mem_cons_self) (by decide)
    rw [parseLength?, hread digits]
    simp [hplus]
  · have hnone : ¬∃ digits, l = '+' :: digits ∧ Text.Spells 10 digits n := fun ⟨digits, h, _⟩ =>
      hl ⟨digits, h⟩
    rw [parseLength?, hread l, or_iff_left hnone]
    exact fun digits h => hl ⟨digits, h⟩

/-! ### Prefixes -/

/-- What a text without blanks around it means. -/
inductive Denotes : List Char → RoutePrefix → Prop
  /-- An address alone counts with all its bits. -/
  | alone {text : List Char} {address : Address} (haddress : address.Spelled text) :
      Denotes text (host address)
  /-- An address and a length with a slash between them; the bits past the length are kept. -/
  | sized {front l : List Char} {address : Address} {n : Nat} (haddress : address.Spelled front)
      (hlength : LengthText l n) (hle : n ≤ address.width) :
      Denotes (front ++ '/' :: l) ⟨address, n, hle⟩

/-- Why a text without blanks around it means nothing, in the words of the failure. -/
inductive Refused (text : List Char) : Error → Prop
  /-- What stands before the first slash is no address. -/
  | badAddress {front : List Char} {after : Option (List Char)} (hparts : Parted text front after)
      (haddress : ∀ address : Address, ¬address.Spelled front) :
      Refused text (.invalidPrefix (String.ofList text ++ ": bad address"))
  /-- What stands behind it is no length, or one that is greater than 255. -/
  | badLength {front l : List Char} {address : Address} (hparts : Parted text front (some l))
      (haddress : address.Spelled front) (hlength : ∀ n, LengthText l n → 255 < n) :
      Refused text (.invalidPrefix (String.ofList text ++ ": bad prefix length"))
  /-- The address is not that wide. -/
  | tooLong {front l : List Char} {address : Address} {n : Nat}
      (hparts : Parted text front (some l)) (haddress : address.Spelled front)
      (hlength : LengthText l n) (hle : n ≤ 255) (hlt : address.width < n) :
      Refused text (.invalidPrefix (String.ofList (address.render ++ '/' :: Text.decimalDigits n) ++
        ": prefix length exceeds " ++ toString address.width))

/-- **Every text means a prefix or is refused.** -/
theorem denotes_or_refused (text : List Char) :
    (∃ p, Denotes text p) ∨ ∃ e, Refused text e := by
  obtain ⟨front, after, hparts⟩ := exists_parted text
  by_cases haddress : ∃ address : Address, address.Spelled front
  · obtain ⟨address, haddress⟩ := haddress
    cases hparts with
    | alone hslash => exact .inl ⟨_, .alone haddress⟩
    | @slash _ l hslash =>
      by_cases hlength : ∃ n, LengthText l n ∧ n ≤ 255
      · obtain ⟨n, hn, hle⟩ := hlength
        rcases Nat.lt_or_ge address.width n with hlt | hwidth
        · exact .inr ⟨_, .tooLong (.slash hslash) haddress hn hle hlt⟩
        · exact .inl ⟨_, .sized haddress hn hwidth⟩
      · refine .inr ⟨_, .badLength (.slash hslash) haddress fun n hn => ?_⟩
        exact Nat.not_le.1 fun hle => hlength ⟨n, hn, hle⟩
  · exact .inr ⟨_, .badAddress hparts (not_exists.1 haddress)⟩

/-- What a text means is read from it. -/
theorem Denotes.parseTrimmed_eq (h : Denotes text p) : parseTrimmed text = .ok p := by
  cases h with
  | @alone _ address haddress =>
    have hparts := parted_iff.1 (.alone haddress.slash_not_mem)
    simp only [parseTrimmed, hparts, Address.parse?_eq_some_iff_spelled.2 haddress]
  | @sized front l address n haddress hlength hle =>
    have hparts := parted_iff.1 (.slash (l := l) haddress.slash_not_mem)
    have hoctet : n ≤ 255 := Nat.le_trans (length_le_octet ⟨address, n, hle⟩) (by decide)
    have hn : parseLength? l = some n := parseLength?_eq_some_iff.2 ⟨hlength, hoctet⟩
    simp only [parseTrimmed, hparts, Address.parse?_eq_some_iff_spelled.2 haddress, hn, ofLength,
      dif_pos hle]

/-- A text that means nothing is refused in the words that are due to it. -/
theorem Refused.parseTrimmed_eq {e : Error} (h : Refused text e) :
    (parseTrimmed text).mapError Fault.error = .error e := by
  cases h with
  | badAddress hparts haddress =>
    simp only [parseTrimmed, parted_iff.1 hparts, Address.parse?_eq_none_iff_spelled.2 haddress]
    rfl
  | @badLength front l address hparts haddress hlength =>
    have hnone : parseLength? l = none := Option.eq_none_iff_forall_ne_some.2 fun n hn =>
      have ⟨htext, hle⟩ := parseLength?_eq_some_iff.1 hn
      Nat.not_le.2 (hlength n htext) hle
    simp only [parseTrimmed, parted_iff.1 hparts, Address.parse?_eq_some_iff_spelled.2 haddress,
      hnone]
    rfl
  | @tooLong front l address n hparts haddress hlength hle hlt =>
    simp only [parseTrimmed, parted_iff.1 hparts, Address.parse?_eq_some_iff_spelled.2 haddress,
      parseLength?_eq_some_iff.2 ⟨hlength, hle⟩, ofLength, dif_neg (Nat.not_le.2 hlt)]
    rfl

theorem parseTrimmed_eq_ok_iff : parseTrimmed text = .ok p ↔ Denotes text p := by
  refine ⟨fun h => ?_, Denotes.parseTrimmed_eq⟩
  -- What a text means is known without reading it, so the reader need not be taken apart.
  rcases denotes_or_refused text with ⟨q, hq⟩ | ⟨e, he⟩
  · obtain rfl := Except.ok.inj (h.symm.trans hq.parseTrimmed_eq)
    exact hq
  · have hrefused := he.parseTrimmed_eq
    rw [h] at hrefused
    cases hrefused

theorem parseTrimmed_eq_error_iff {e : Error} :
    (parseTrimmed text).mapError Fault.error = .error e ↔ Refused text e := by
  refine ⟨fun h => ?_, Refused.parseTrimmed_eq⟩
  rcases denotes_or_refused text with ⟨p, hp⟩ | ⟨cause, hcause⟩
  · rw [hp.parseTrimmed_eq] at h
    cases h
  · obtain rfl := Except.error.inj (h.symm.trans hcause.parseTrimmed_eq)
    exact hcause

/-! ### Strings -/

theorem LengthText.isBlank_of_mem {c : Char} (h : LengthText l n) (hc : c ∈ l) :
    Text.isBlank c = false := by
  rcases lengthText_iff.1 h with hspells | ⟨digits, rfl, hspells⟩
  · exact Text.isBlank_of_isDigitOf (hspells.digit c hc)
  · rcases List.mem_cons.1 hc with rfl | hc
    · rfl
    · exact Text.isBlank_of_isDigitOf (hspells.digit c hc)

/-- No blank stands in a text that means a prefix. -/
theorem Denotes.isBlank_of_mem {c : Char} (h : Denotes text p) (hc : c ∈ text) :
    Text.isBlank c = false := by
  cases h with
  | alone haddress => exact Address.isBlank_of_mayHold (haddress.mayHold_of_mem hc)
  | sized haddress hlength hle =>
    rcases List.mem_append.1 hc with hc | hc
    · exact Address.isBlank_of_mayHold (haddress.mayHold_of_mem hc)
    rcases List.mem_cons.1 hc with rfl | hc
    · rfl
    · exact hlength.isBlank_of_mem hc

theorem Denotes.parse_eq (h : Denotes text p) : parse text = .ok p := by
  have htrim : Text.trim text = text :=
    Text.trim_eq_self (fun c hc => h.isBlank_of_mem (List.mem_of_mem_head? hc))
      fun c hc => h.isBlank_of_mem (List.mem_of_getLast? hc)
  rw [parse, htrim, h.parseTrimmed_eq]

theorem Denotes.ofText_eq (h : Denotes text p) : ofText (String.ofList text) = .ok p := by
  rw [ofText, String.toList_ofList, h.parse_eq]
  rfl

theorem ofText_eq_ok_iff_denotes {s : String} :
    ofText s = .ok p ↔ Denotes (Text.trim s.toList) p := by
  rw [← parseTrimmed_eq_ok_iff, ofText, parse]
  cases parseTrimmed (Text.trim s.toList) with
  | error fault => exact ⟨nofun, nofun⟩
  | ok q => exact ⟨fun h => congrArg _ (Except.ok.inj h), fun h => congrArg _ (Except.ok.inj h)⟩

/-- A prefix is read from a document when the document is a string from which it is read. -/
theorem readDocument_route_eq_ok_iff {document : List Char} :
    Json.readDocument Config.route document = .ok p ↔
      ∃ s, Json.readDocument Json.text document = .ok s ∧ ofText s = .ok p := by
  simp only [Json.readDocument, Config.route, Json.checkedText, Json.readChecked, Json.text]
  cases Json.readText document with
  | error fault => simp
  | ok result =>
    obtain ⟨s, rest⟩ := result
    by_cases hrest : Json.skipBlank rest = []
    · cases hread : ofText s <;> simp [hrest, hread, Except.mapError]
    · cases hread : ofText s <;> simp [hrest, hread, Except.mapError]

/-! ### Addresses with lengths -/

theorem ofLength_eq_ok_iff : ofLength address n = .ok p ↔ p.address = address ∧ p.length = n := by
  constructor
  · intro h
    rw [ofLength] at h
    split at h
    · obtain rfl := Except.ok.inj h
      exact ⟨rfl, rfl⟩
    · cases h
  · rintro ⟨rfl, rfl⟩
    exact p.ofLength_address_length

theorem ofLength_eq_error_iff {fault : Fault} :
    ofLength address n = .error fault ↔ address.width < n ∧ fault = .tooLong address n := by
  constructor
  · intro h
    rw [ofLength] at h
    split at h
    · cases h
    · next hlt => exact ⟨Nat.not_le.1 hlt, (Except.error.inj h).symm⟩
  · rintro ⟨hlt, rfl⟩
    rw [ofLength, dif_neg (Nat.not_le.2 hlt)]

theorem Denotes.unique {q : RoutePrefix} (h : Denotes text p) (h' : Denotes text q) : p = q :=
  Except.ok.inj (h.parseTrimmed_eq.symm.trans h'.parseTrimmed_eq)

/-- A text means a whole address when it is the address alone, or has a length behind it that is the
width of the address. -/
theorem Denotes.isHost_iff (h : Denotes text p) : p.isHost = true ↔ p.address.Spelled text ∨
    ∃ front l, text = front ++ '/' :: l ∧ p.address.Spelled front ∧
      LengthText l p.address.width := by
  constructor
  · intro hhost
    cases h with
    | alone haddress => exact .inl haddress
    | @sized front l address n haddress hlength hle =>
      obtain rfl : n = address.width := by simpa [isHost] using hhost
      exact .inr ⟨front, l, rfl, haddress, hlength⟩
  · intro htext
    rw [RoutePrefix.isHost_iff]
    rcases htext with haddress | ⟨front, l, rfl, haddress, hlength⟩
    · exact h.unique (.alone haddress)
    · exact h.unique (.sized haddress hlength (Nat.le_refl _))

/-! ### The grammar -/

/-- What becomes of a string: without the blanks at its ends it is `text`, and the prefix that this
means is read, or it is refused with the reason that is due. -/
structure KeepsGrammar (s : String) (text : List Char) : Prop where
  trimmed_iff : ∀ other, Text.Trimmed s.toList other ↔ text = other
  ok_iff : ∀ p, ofText s = .ok p ↔ Denotes text p
  error_iff : ∀ e, ofText s = .error e ↔ Refused text e

/-- What is made of an address, alone or with a length. -/
structure KeepsAddress (address : Address) : Prop where
  host_eq : (host address).address = address ∧ (host address).length = address.width
  ok_iff : ∀ n p, ofLength address n = .ok p ↔ p.address = address ∧ p.length = n
  error_iff : ∀ n fault, ofLength address n = .error fault ↔
    address.width < n ∧ fault = .tooLong address n
  /-- With its whole width behind it an address reads as it does alone. -/
  whole : ∀ text l, address.Spelled text → LengthText l address.width →
    ofText (String.ofList (text ++ '/' :: l)) = .ok (host address) ∧
      ofText (String.ofList text) = .ok (host address)

/-- The length of a prefix lies within the width of its family, and is all of it for the prefix of a
single address alone. -/
structure KeepsWidth (p : RoutePrefix) : Prop where
  length_le : ∃ width, p.family.width = some width ∧ p.length ≤ width ∧
    (p.isHost = true ↔ p.length = width)
  isHost_iff : p.isHost = true ↔ p = host p.address
  isHost_iff_of_denotes : ∀ text, Denotes text p → (p.isHost = true ↔ p.address.Spelled text ∨
    ∃ front l, text = front ++ '/' :: l ∧ p.address.Spelled front ∧
      LengthText l p.address.width)

theorem keepsGrammar (s : String) : KeepsGrammar s (Text.trim s.toList) where
  trimmed_iff _ := Text.trimmed_iff
  ok_iff _ := ofText_eq_ok_iff_denotes
  error_iff _ := parseTrimmed_eq_error_iff

theorem keepsAddress (address : Address) : KeepsAddress address where
  host_eq := ⟨rfl, rfl⟩
  ok_iff _ _ := ofLength_eq_ok_iff
  error_iff _ _ := ofLength_eq_error_iff
  whole _ _ haddress hlength :=
    ⟨(Denotes.sized haddress hlength (Nat.le_refl _)).ofText_eq, (Denotes.alone haddress).ofText_eq⟩

theorem keepsWidth (p : RoutePrefix) : KeepsWidth p where
  length_le := ⟨p.address.width, p.address.width_family, p.length_le, by simp [isHost]⟩
  isHost_iff := isHost_iff
  isHost_iff_of_denotes _ h := h.isHost_iff

/-- **Prefixes are read by their grammar**, from every string and every document, and no way to a
prefix leads past the width of its address. -/
theorem read_by_grammar :
    (∀ s : String, KeepsGrammar s (Text.trim s.toList)) ∧
    (∀ (document : List Char) (p : RoutePrefix),
      Json.readDocument Config.route document = .ok p ↔
        ∃ s, Json.readDocument Json.text document = .ok s ∧ ofText s = .ok p) ∧
    (∀ address : Address, KeepsAddress address) ∧
    ∀ p : RoutePrefix, KeepsWidth p :=
  ⟨keepsGrammar, fun _ _ => readDocument_route_eq_ok_iff, keepsAddress, keepsWidth⟩

end RoutePrefix

end Tunnel
