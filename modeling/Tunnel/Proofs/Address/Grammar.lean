import Tunnel.Address.Parser
import Tunnel.Proofs.Text.Numerals

/-!
# The grammar of addresses

Which texts are addresses, said without a reader. A dotted address is four octets between points. An
address in groups is a row of eight of them, or two shorter rows around two colons that stand for
the groups that are missing; a dotted address may end a row in place of its last two groups. The
reader takes exactly these texts.

The reader takes all it can from the front of a text and never goes back. That loses no text,
because what may follow an item, a colon or the end, can never be a part of it. The one place where
it has a choice is between a group and a dotted address, and there a point decides: none follows the
digits of a group.

## Main definitions

* `Ipv4.IsOctet`, `Ipv6.IsGroup` — octets in decimal, groups in hexadecimal
* `Ipv6.IsRow` — groups with colons between them
* `Ipv4.Spelled`, `Ipv6.Spelled`, `Address.Spelled` — the texts of an address
* `Address.mayHold` — the characters that they are written in

## Main results

* `Ipv4.read_eq_some_iff` — what is read as a dotted address
* `Ipv6.readGroups_isRow`, `Ipv6.IsRow.readGroups_eq` — a row is read, and whatever is read is a row
* `Ipv6.Spelled.read_eq`, `Ipv6.spelled_of_read` — so too for an address in groups
* `Address.parse?_eq_some_iff_spelled` — a text is read as an address exactly when it spells it
* `Address.Spelled.mayHold_of_mem` — no blank and no slash stands in it
-/

namespace Tunnel

open Text (Halts Spells)

variable {s t text rest : List Char}

/-! ### Dotted addresses -/

namespace Ipv4

variable {a : Ipv4} {octet : UInt8}

/-- The text of an octet: up to three decimal digits. -/
structure IsOctet (text : List Char) (octet : UInt8) : Prop where
  spells : Spells 10 text octet.toNat
  length_le : text.length ≤ 3
  /-- A zero does not stand in front of other digits. -/
  no_zero : text.head? = some '0' → text.length ≤ 1

/-- The texts of a dotted address. -/
inductive Spelled (a : Ipv4) : List Char → Prop
  | dotted {p q r s : List Char} (hp : IsOctet p a.first) (hq : IsOctet q a.second)
      (hr : IsOctet r a.third) (hs : IsOctet s a.fourth) :
      Spelled a (p ++ '.' :: (q ++ '.' :: (r ++ '.' :: s)))

theorem readOctet_eq_some_iff : readOctet s = some (octet, rest) ↔
    ∃ text, s = text ++ rest ∧ IsOctet text octet ∧ Halts 10 rest := by
  constructor
  · intro h
    simp only [readOctet] at h
    split at h
    · cases h
    split at h
    · cases h
    split at h
    · cases h
    next hlength hzero hvalue =>
    simp only [Option.some.injEq, Prod.mk.injEq] at h
    obtain ⟨rfl, rfl⟩ := h
    rw [not_or] at hlength
    have hspells : Spells 10 (s.takeWhile (Text.isDigitOf 10)) _ :=
      Text.spells_takeWhile fun hnil => hlength.1 (by simp [hnil])
    have hoctet : (Text.numeral 10 (s.takeWhile (Text.isDigitOf 10))).toUInt8.toNat =
        Text.numeral 10 (s.takeWhile (Text.isDigitOf 10)) :=
      UInt8.toNat_ofNat_of_lt' (Nat.lt_succ_of_le (Nat.not_lt.1 hvalue))
    refine ⟨_, (Text.takeWhile_append_dropWhile_digits 10 s).symm, ⟨?_, ?_, ?_⟩,
      Text.halts_dropWhile 10 s⟩
    · rw [hoctet]
      exact hspells
    · exact Nat.not_lt.1 hlength.2
    · exact fun hhead => Nat.not_lt.1 fun hlong => hzero ⟨hhead, hlong⟩
  · rintro ⟨text, rfl, htext, hrest⟩
    have hlength : ¬(text.length = 0 ∨ 3 < text.length) := by
      have hpos := List.length_pos_iff.2 htext.spells.ne_nil
      have hle := htext.length_le
      omega
    have hzero : ¬(text.head? = some '0' ∧ 1 < text.length) := fun ⟨hhead, hlong⟩ =>
      Nat.not_lt.2 (htext.no_zero hhead) hlong
    have hvalue : ¬255 < octet.toNat := Nat.not_lt.2 (Nat.le_of_lt_succ octet.toNat_lt)
    simp only [readOctet, htext.spells.takeWhile_eq hrest, htext.spells.dropWhile_eq hrest,
      htext.spells.numeral_eq]
    rw [if_neg hlength, if_neg hzero, if_neg hvalue]
    simp

theorem readNextOctet_eq_some_iff : readNextOctet s = some (octet, rest) ↔
    ∃ text, s = '.' :: (text ++ rest) ∧ IsOctet text octet ∧ Halts 10 rest := by
  cases s with
  | nil => simp [readNextOctet, Address.readSeparator]
  | cons c later =>
    by_cases hc : c = '.'
    · subst hc
      simp [readNextOctet, Address.readSeparator, readOctet_eq_some_iff]
    · simp [readNextOctet, Address.readSeparator, hc]

/-- **A dotted address is read where one stands**, with all its digits. -/
theorem read_eq_some_iff : read s = some (a, rest) ↔
    ∃ text, s = text ++ rest ∧ a.Spelled text ∧ Halts 10 rest := by
  constructor
  · intro h
    simp only [read, Option.bind_eq_bind, Option.bind_eq_some_iff, Prod.exists,
      readOctet_eq_some_iff, readNextOctet_eq_some_iff] at h
    obtain ⟨first, _, ⟨p, rfl, hp, -⟩, second, _, ⟨q, rfl, hq, -⟩, third, _, ⟨r, rfl, hr, -⟩,
      fourth, _, ⟨o, rfl, ho, hrest⟩, hresult⟩ := h
    simp only [Option.some.injEq, Prod.mk.injEq] at hresult
    obtain ⟨rfl, rfl⟩ := hresult
    exact ⟨_, by simp, .dotted hp hq hr ho, hrest⟩
  · rintro ⟨text, rfl, ⟨hp, hq, hr, ho⟩, hrest⟩
    have point (later : List Char) : Halts 10 ('.' :: later) := Text.halts_cons (by decide)
    simp only [read, List.append_assoc, List.cons_append, Option.bind_eq_bind,
      readOctet_eq_some_iff.2 ⟨_, rfl, hp, point _⟩,
      readNextOctet_eq_some_iff.2 ⟨_, rfl, hq, point _⟩,
      readNextOctet_eq_some_iff.2 ⟨_, rfl, hr, point _⟩,
      readNextOctet_eq_some_iff.2 ⟨_, rfl, ho, hrest⟩, Option.bind_some]

/-- No dotted address stands where no point follows the digits. -/
theorem read_eq_none (h : ∀ c ∈ (s.dropWhile (Text.isDigitOf 10)).head?, c ≠ '.') :
    read s = none := by
  simp only [read, readOctet]
  split
  · rfl
  split
  · rfl
  split
  · rfl
  cases hdrop : s.dropWhile (Text.isDigitOf 10) with
  | nil => rfl
  | cons c later =>
    have hc : c ≠ '.' := h c (by rw [hdrop]; rfl)
    simp [readNextOctet, Address.readSeparator, hc]

end Ipv4

/-! ### Groups -/

namespace Ipv6

variable {g : UInt16} {groups : List UInt16} {dotted isFirst : Bool} {slots : Nat}

/-- The text of a group: up to four hexadecimal digits. -/
structure IsGroup (text : List Char) (g : UInt16) : Prop where
  spells : Spells 16 text g.toNat
  length_le : text.length ≤ 4

theorem readGroup_eq_some_iff : readGroup s = some (g, rest) ↔
    ∃ text, s = text ++ rest ∧ IsGroup text g ∧ Halts 16 rest := by
  constructor
  · intro h
    simp only [readGroup] at h
    split at h
    · cases h
    next hlength =>
    simp only [Option.some.injEq, Prod.mk.injEq] at h
    obtain ⟨rfl, rfl⟩ := h
    rw [not_or] at hlength
    have hle : (s.takeWhile (Text.isDigitOf 16)).length ≤ 4 := Nat.not_lt.1 hlength.2
    have hspells : Spells 16 (s.takeWhile (Text.isDigitOf 16)) _ :=
      Text.spells_takeWhile fun hnil => hlength.1 (by simp [hnil])
    have hlt : Text.numeral 16 (s.takeWhile (Text.isDigitOf 16)) < 65536 :=
      Nat.lt_of_lt_of_le (Text.numeral_lt (by decide) _) (Nat.pow_le_pow_right (by decide) hle)
    have hgroup : (Text.numeral 16 (s.takeWhile (Text.isDigitOf 16))).toUInt16.toNat =
        Text.numeral 16 (s.takeWhile (Text.isDigitOf 16)) := UInt16.toNat_ofNat_of_lt' hlt
    exact ⟨_, (Text.takeWhile_append_dropWhile_digits 16 s).symm, ⟨hgroup.symm ▸ hspells, hle⟩,
      Text.halts_dropWhile 16 s⟩
  · rintro ⟨text, rfl, htext, hrest⟩
    have hlength : ¬(text.length = 0 ∨ 4 < text.length) := by
      have hpos := List.length_pos_iff.2 htext.spells.ne_nil
      have hle := htext.length_le
      omega
    simp only [readGroup, htext.spells.takeWhile_eq hrest, htext.spells.dropWhile_eq hrest,
      htext.spells.numeral_eq]
    rw [if_neg hlength]
    simp

theorem readGroup_eq_none (h : Halts 16 s) : readGroup s = none := by
  simp [readGroup, h.takeWhile_eq]

/-! ### Rows of groups -/

/-- A text behind a colon, unless it is the first of its row. -/
def behindColon (isFirst : Bool) (text : List Char) : List Char :=
  if isFirst then text else ':' :: text

/-- The text of a row of groups, the first of which has a colon in front of it unless the row begins
with it. A dotted address may end the row, in place of two groups. -/
inductive IsRow : (isFirst : Bool) → List Char → List UInt16 → (dotted : Bool) → Prop
  | nil {isFirst : Bool} : IsRow isFirst [] [] false
  | group {isFirst dotted : Bool} {text later : List Char} {g : UInt16} {groups : List UInt16}
      (hgroup : IsGroup text g) (hlater : IsRow false later groups dotted) :
      IsRow isFirst (behindColon isFirst (text ++ later)) (g :: groups) dotted
  | dotted {isFirst : Bool} {text : List Char} {a : Ipv4} (h : a.Spelled text) :
      IsRow isFirst (behindColon isFirst text) a.groups true

theorem readSeparator_eq_some_iff :
    Address.readSeparator ':' isFirst s = some t ↔ s = behindColon isFirst t := by
  cases isFirst with
  | true => simp [Address.readSeparator, behindColon]
  | false =>
    cases s with
    | nil => simp [Address.readSeparator, behindColon]
    | cons c later =>
      by_cases hc : c = ':'
      · simp [Address.readSeparator, behindColon, hc]
      · simp [Address.readSeparator, behindColon, hc]

theorem readSeparator_behindColon (isFirst : Bool) (t : List Char) :
    Address.readSeparator ':' isFirst (behindColon isFirst t) = some t :=
  readSeparator_eq_some_iff.2 rfl

theorem behindColon_append (isFirst : Bool) (text rest : List Char) :
    behindColon isFirst text ++ rest = behindColon isFirst (text ++ rest) := by
  cases isFirst <;> rfl

/-- **Whatever is read is a row**, and nothing is lost. -/
theorem readGroups_isRow (slots : Nat) (isFirst : Bool) (s : List Char) :
    ∃ text, s = text ++ (readGroups slots isFirst s).rest ∧
      IsRow isFirst text (readGroups slots isFirst s).groups
        (readGroups slots isFirst s).dotted := by
  -- The reader stops for three reasons, and at each of them the row may end: `.nil` needs nothing.
  induction slots generalizing isFirst s with
  | zero => exact ⟨[], rfl, .nil⟩
  | succ slots ih =>
    rw [readGroups]
    split
    · exact ⟨[], rfl, .nil⟩
    next t hseparator =>
    obtain rfl := readSeparator_eq_some_iff.1 hseparator
    split
    · next a rest hread =>
      split at hread
      · cases hread
      obtain ⟨text, rfl, hspelled, -⟩ := Ipv4.read_eq_some_iff.1 hread
      exact ⟨_, (behindColon_append isFirst text rest).symm, .dotted hspelled⟩
    · split
      · exact ⟨[], rfl, .nil⟩
      · next g rest hread =>
        obtain ⟨text, rfl, hgroup, -⟩ := readGroup_eq_some_iff.1 hread
        obtain ⟨later, hlater, hrow⟩ := ih false rest
        refine ⟨_, ?_, .group hgroup hrow⟩
        rw [behindColon_append, List.append_assoc, ← hlater]

/-- Nothing follows, or a colon does. -/
def AtColon (rest : List Char) : Prop := ∀ c ∈ rest.head?, c = ':'

theorem atColon_nil : AtColon [] := fun _ h => by simp at h

theorem atColon_cons (rest : List Char) : AtColon (':' :: rest) := fun _ h => by simpa using h.symm

theorem AtColon.halts {base : Nat} (h : AtColon rest) : Halts base rest := fun c hc =>
  h c hc ▸ rfl

theorem IsRow.atColon (h : IsRow false text groups dotted) (hrest : AtColon rest) :
    AtColon (text ++ rest) := by
  cases h with
  | nil => exact hrest
  | group hgroup hlater => exact atColon_cons _
  | dotted h => exact atColon_cons _

theorem AtColon.readV4_eq_none (h : AtColon rest) : Ipv4.read rest = none := by
  apply Ipv4.read_eq_none
  rw [h.halts.dropWhile_eq]
  exact fun c hc => h c hc ▸ by decide

/-- The digits of a group begin no dotted address. -/
theorem IsGroup.readV4_eq_none (h : IsGroup text g) (hrest : AtColon rest) :
    Ipv4.read (text ++ rest) = none := by
  apply Ipv4.read_eq_none
  intro c hc
  have hdrop : ∀ c ∈ text.dropWhile (Text.isDigitOf 10), c ≠ '.' := by
    intro c hc hpoint
    have hdigit := h.spells.digit c ((List.dropWhile_sublist _).subset hc)
    rw [hpoint] at hdigit
    exact absurd hdigit (by decide)
  rw [List.dropWhile_append] at hc
  split at hc
  · rw [hrest.halts.dropWhile_eq] at hc
    rw [hrest c hc]
    decide
  · next hne =>
    obtain ⟨first, later, hfirst⟩ := List.exists_cons_of_ne_nil (mt List.isEmpty_iff.2 hne)
    rw [hfirst] at hc hdrop
    obtain rfl : first = c := by simpa using hc
    exact hdrop first List.mem_cons_self

/-- A row ends where the text ends, and at the two colons that stand for the missing groups. -/
def EndsRow (rest : List Char) : Prop := rest = [] ∨ ∃ back, rest = ':' :: ':' :: back

theorem EndsRow.atColon (h : EndsRow rest) : AtColon rest := by
  rcases h with rfl | ⟨back, rfl⟩
  · exact atColon_nil
  · exact atColon_cons _

/-- Nothing is read where a row ends. -/
theorem EndsRow.readGroups_eq (h : EndsRow rest) (slots : Nat) (isFirst : Bool) :
    readGroups slots isFirst rest = ⟨[], false, rest⟩ := by
  have hnone {later : List Char} (hlater : AtColon later) :
      Ipv4.read later = none ∧ readGroup later = none :=
    ⟨hlater.readV4_eq_none, readGroup_eq_none hlater.halts⟩
  cases slots with
  | zero => rfl
  | succ slots =>
    rcases h with rfl | ⟨back, rfl⟩
    · cases isFirst <;> simp [readGroups, Address.readSeparator, hnone atColon_nil]
    · cases isFirst <;> simp [readGroups, Address.readSeparator, hnone (atColon_cons _)]

/-- **A row is read** as far as it goes, if there is room for its groups. -/
theorem IsRow.readGroups_eq (h : IsRow isFirst text groups dotted) (hslots : groups.length ≤ slots)
    (hend : EndsRow rest) : readGroups slots isFirst (text ++ rest) = ⟨groups, dotted, rest⟩ := by
  -- The induction is on the row; in each step the slots that are left still hold what follows.
  induction h generalizing slots with
  | nil => exact hend.readGroups_eq slots _
  | @group isFirst dotted text later g groups hgroup hlater ih =>
    obtain ⟨slots, rfl⟩ : ∃ n, slots = n + 1 := ⟨slots - 1, by simp at hslots; omega⟩
    have hcolon : AtColon (later ++ rest) := hlater.atColon hend.atColon
    have hread : readGroup (text ++ (later ++ rest)) = some (g, later ++ rest) :=
      readGroup_eq_some_iff.2 ⟨text, rfl, hgroup, hcolon.halts⟩
    rw [behindColon_append, List.append_assoc]
    simp only [readGroups, readSeparator_behindColon, hgroup.readV4_eq_none hcolon, ite_self, hread,
      ih (Nat.le_of_succ_le_succ hslots)]
  | @dotted isFirst text a hspelled =>
    obtain ⟨slots, rfl⟩ : ∃ n, slots = n + 2 := ⟨slots - 2, by simp at hslots; omega⟩
    have hread : Ipv4.read (text ++ rest) = some (a, rest) :=
      Ipv4.read_eq_some_iff.2 ⟨text, rfl, hspelled, hend.atColon.halts⟩
    rw [behindColon_append]
    simp only [readGroups, readSeparator_behindColon, Nat.succ_ne_zero, if_false, hread]

/-! ### Addresses in groups -/

variable {a : Ipv6}

/-- The texts of an address in groups. -/
inductive Spelled (a : Ipv6) : List Char → Prop
  /-- All the groups are there. -/
  | whole {text : List Char} {dotted : Bool} (h : IsRow true text a.groups dotted) : Spelled a text
  /-- Two colons stand for one zero group or more. No dotted address ends in front of them. -/
  | shortened {front back : List Char} {gs hs : List UInt16} {n : Nat} {dotted : Bool}
      (hfront : IsRow true front gs false) (hback : IsRow true back hs dotted)
      (hgroups : a.groups = gs ++ List.replicate n 0 ++ hs) (hpos : 0 < n) :
      Spelled a (front ++ ':' :: ':' :: back)

/-- Whatever is read as an address in groups is one. -/
theorem spelled_of_read (h : read s = some (a, rest)) :
    ∃ text, s = text ++ rest ∧ a.Spelled text := by
  obtain ⟨front, hs, hfront⟩ := readGroups_isRow 8 true s
  simp only [read] at h
  split at h
  · next hlength =>
    obtain ⟨b, hb, hresult⟩ := Option.map_eq_some_iff.1 h
    obtain ⟨rfl, rfl⟩ := Prod.mk.inj hresult
    exact ⟨front, hs, .whole (ofGroups?_eq_some_iff.1 hb ▸ hfront)⟩
  next hlength =>
  split at h
  · cases h
  next hplain =>
  split at h
  · next later hrest =>
    obtain ⟨b, hb, hresult⟩ := Option.map_eq_some_iff.1 h
    obtain ⟨rfl, rfl⟩ := Prod.mk.inj hresult
    obtain ⟨back, hlater, hback⟩ :=
      readGroups_isRow (7 - (readGroups 8 true s).groups.length) true later
    have hfew := length_readGroups_le 8 true s
    have hroom := length_readGroups_le (7 - (readGroups 8 true s).groups.length) true later
    rw [Bool.not_eq_true] at hplain
    rw [hplain] at hfront
    refine ⟨front ++ ':' :: ':' :: back, ?_, .shortened hfront hback
      (ofGroups?_eq_some_iff.1 hb) (by omega)⟩
    rw [hrest, hlater] at hs
    simpa using hs
  · cases h

/-- Every text of an address in groups is read. -/
theorem Spelled.read_eq (h : a.Spelled text) : read text = some (a, []) := by
  have hlength := a.length_groups
  cases h with
  | whole hrow =>
    have hread := hrow.readGroups_eq (Nat.le_of_eq hlength) (.inl rfl)
    rw [List.append_nil] at hread
    simp only [read, hread, hlength, if_true, ofGroups?_eq_some_iff.2 rfl, Option.map_some]
  | @shortened front back gs hs n dotted hfront hback hgroups hpos =>
    rw [hgroups] at hlength
    simp only [List.length_append, List.length_replicate] at hlength
    have hone : readGroups 8 true (front ++ ':' :: ':' :: back) = ⟨gs, false, ':' :: ':' :: back⟩ :=
      hfront.readGroups_eq (by omega) (.inr ⟨back, rfl⟩)
    have htwo : readGroups (7 - gs.length) true (back ++ []) = ⟨hs, dotted, []⟩ :=
      hback.readGroups_eq (by omega) (.inl rfl)
    have hends : ofEnds? gs hs = some a := by
      rw [ofEnds?, ofGroups?_eq_some_iff, hgroups, show 8 - (gs.length + hs.length) = n by omega]
    have hne : gs.length ≠ 8 := by omega
    rw [List.append_nil] at htwo
    simp only [read, hone, hne, if_false, Bool.false_eq_true, htwo, hends, Option.map_some]

/-- No row begins like a dotted address unless it is one. -/
theorem IsRow.readV4_eq_none (h : IsRow true text groups dotted)
    (hfirst : dotted = false ∨ 2 < groups.length) (hend : EndsRow rest) :
    Ipv4.read (text ++ rest) = none := by
  cases h with
  | nil => exact hend.atColon.readV4_eq_none
  | group hgroup hlater =>
    rw [behindColon_append, List.append_assoc]
    exact hgroup.readV4_eq_none (hlater.atColon hend.atColon)
  | dotted hspelled => simp at hfirst

/-- No address in groups begins like a dotted one. -/
theorem Spelled.readV4_eq_none (h : a.Spelled text) : Ipv4.read text = none := by
  cases h with
  | whole hrow =>
    have hlong : 2 < a.groups.length := by
      rw [a.length_groups]
      decide
    have hnone := hrow.readV4_eq_none (.inr hlong) (.inl rfl)
    rwa [List.append_nil] at hnone
  | @shortened front back _ _ _ _ hfront =>
    exact hfront.readV4_eq_none (.inl rfl) (.inr ⟨back, rfl⟩)

end Ipv6

/-! ### Addresses -/

namespace Address

/-- The texts of an address. -/
inductive Spelled : Address → List Char → Prop
  | v4 {a : Ipv4} {text : List Char} (h : a.Spelled text) : Spelled (.v4 a) text
  | v6 {a : Ipv6} {text : List Char} (h : a.Spelled text) : Spelled (.v6 a) text

/-- **A text is read as an address exactly when it spells it.** -/
theorem parse?_eq_some_iff_spelled {a : Address} : parse? s = some a ↔ a.Spelled s := by
  rw [parse?_eq_some_iff]
  constructor
  · intro h
    rw [read] at h
    split at h
    · next b rest hread =>
      obtain ⟨rfl, rfl⟩ := Prod.mk.inj (Option.some.inj h)
      obtain ⟨text, rfl, hspelled, -⟩ := Ipv4.read_eq_some_iff.1 hread
      exact .v4 (text.append_nil.symm ▸ hspelled)
    · obtain ⟨⟨b, rest⟩, hread, hresult⟩ := Option.map_eq_some_iff.1 h
      obtain ⟨rfl, rfl⟩ := Prod.mk.inj hresult
      obtain ⟨text, rfl, hspelled⟩ := Ipv6.spelled_of_read hread
      exact .v6 (text.append_nil.symm ▸ hspelled)
  · intro h
    cases h with
    | v4 hspelled =>
      rw [read, Ipv4.read_eq_some_iff.2 ⟨s, s.append_nil.symm, hspelled, Text.halts_nil⟩]
    | v6 hspelled => rw [read, hspelled.readV4_eq_none, hspelled.read_eq, Option.map_some]

/-! ### The characters of an address -/

variable {a : Address} {c : Char}

/-- Whether a character may stand in an address: digits, the colon and the point. -/
def mayHold (c : Char) : Bool := Text.isDigitOf 16 c || c == ':' || c == '.'

theorem mayHold_of_isDigitOf {base : Nat} (hle : base ≤ 16) (h : Text.isDigitOf base c = true) :
    mayHold c = true := by
  simp [mayHold, Text.isDigitOf_mono hle h]

theorem mayHold_of_mem_dotted {a : Ipv4} (h : a.Spelled text) (hc : c ∈ text) :
    mayHold c = true := by
  have octet {text : List Char} {octet : UInt8} (h : Ipv4.IsOctet text octet) (hc : c ∈ text) :
      mayHold c = true := mayHold_of_isDigitOf (by decide) (h.spells.digit c hc)
  obtain ⟨hp, hq, hr, hs⟩ := h
  simp only [List.mem_append, List.mem_cons] at hc
  rcases hc with hc | rfl | hc | rfl | hc | rfl | hc
  · exact octet hp hc
  · rfl
  · exact octet hq hc
  · rfl
  · exact octet hr hc
  · rfl
  · exact octet hs hc

theorem mayHold_of_mem_behindColon {isFirst : Bool} (h : ∀ c ∈ text, mayHold c = true)
    (hc : c ∈ Ipv6.behindColon isFirst text) : mayHold c = true := by
  cases isFirst with
  | true => exact h c hc
  | false =>
    rcases List.mem_cons.1 hc with rfl | hc
    · rfl
    · exact h c hc

theorem mayHold_of_mem_row {isFirst dotted : Bool} {groups : List UInt16}
    (h : Ipv6.IsRow isFirst text groups dotted) (hc : c ∈ text) : mayHold c = true := by
  induction h generalizing c with
  | nil => simp at hc
  | group hgroup hlater ih =>
    refine mayHold_of_mem_behindColon (fun c hc => ?_) hc
    rcases List.mem_append.1 hc with hc | hc
    · exact mayHold_of_isDigitOf (Nat.le_refl 16) (hgroup.spells.digit c hc)
    · exact ih hc
  | dotted hspelled =>
    exact mayHold_of_mem_behindColon (fun c hc => mayHold_of_mem_dotted hspelled hc) hc

/-- **An address is written in digits, colons and points.** -/
theorem Spelled.mayHold_of_mem (h : a.Spelled text) (hc : c ∈ text) : mayHold c = true := by
  cases h with
  | v4 hspelled => exact mayHold_of_mem_dotted hspelled hc
  | v6 hspelled =>
    cases hspelled with
    | whole hrow => exact mayHold_of_mem_row hrow hc
    | shortened hfront hback =>
      simp only [List.mem_append, List.mem_cons] at hc
      rcases hc with hc | rfl | rfl | hc
      · exact mayHold_of_mem_row hfront hc
      · rfl
      · rfl
      · exact mayHold_of_mem_row hback hc

end Address

end Tunnel
