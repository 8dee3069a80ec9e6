import Tunnel.Address.Printer
import Tunnel.Proofs.Text.Numerals

/-!
# How addresses are laid out

The text of an address, told apart from the printer that makes it. Which run of zero groups is left
out is said by what it is, the first of the longest ones, rather than by how it is looked for, and
the three layouts of an address in groups exclude one another.

## Main definitions

* `Ipv6.IsZeroRun`, `Ipv6.IsFirstLongest` — a run of zero groups, and the one to be left out
* `Ipv6.Written`, `Address.Written` — a text of an address
* `Ipv4.mapped` — the address in groups that stands for an IPv4 address

## Main results

* `Ipv6.isFirstLongest_longestZeroRun` — the run that the printer looks for is the one wanted
* `Ipv6.written_iff_eq_render`, `Address.written_iff` — an address has one text, the one that the
  printer makes
-/

namespace Tunnel

/-! ### Dotted addresses -/

namespace Ipv4

/-- A dotted address is four octets in decimal between points. -/
theorem render_eq (a : Ipv4) :
    a.render = Text.decimalDigits a.first.toNat ++ '.' :: (Text.decimalDigits a.second.toNat ++
      '.' :: (Text.decimalDigits a.third.toNat ++ '.' :: Text.decimalDigits a.fourth.toNat)) := by
  simp [render, octets, List.intercalate_cons_cons]

theorem groups_ofGroups (high low : UInt16) : (ofGroups high low).groups = [high, low] := by
  simp [groups, ofGroups, Bytes.uint16BE_octets]

theorem ofGroups_uint16BE (a : Ipv4) :
    ofGroups (Bytes.uint16BE a.first a.second) (Bytes.uint16BE a.third a.fourth) = a := by
  have hhigh (hi lo : UInt8) : (Bytes.uint16BE hi lo >>> 8).toUInt8 = hi := by
    apply UInt8.toBitVec_inj.1
    ext i hi
    simp [Bytes.uint16BE]
    grind
  have hlow (hi lo : UInt8) : (Bytes.uint16BE hi lo).toUInt8 = lo := by
    apply UInt8.toBitVec_inj.1
    ext i hi
    simp [Bytes.uint16BE]
  rw [ofGroups, hhigh, hlow, hhigh, hlow]

end Ipv4

namespace Ipv6

variable {groups : List UInt16} {start n : Nat}

/-! ### Runs of zero groups -/

/-- From `start` on, `n` groups are zeros. -/
def IsZeroRun (groups : List UInt16) (start n : Nat) : Prop :=
  (groups.drop start).take n = List.replicate n 0

/-- Of the runs of zero groups none is longer, and none that is as long begins earlier. -/
structure IsFirstLongest (groups : List UInt16) (start n : Nat) : Prop where
  zeros : IsZeroRun groups start n
  longest : ∀ {s m : Nat}, IsZeroRun groups s m → m ≤ n
  first : ∀ {s : Nat}, 0 < n → IsZeroRun groups s n → start ≤ s

theorem isZeroRun_zero_iff : IsZeroRun groups 0 n ↔ n ≤ zeroRun groups := by
  induction groups generalizing n with
  | nil => cases n <;> simp [IsZeroRun, zeroRun, List.replicate_succ]
  | cons g gs ih =>
    cases n with
    | zero => simp [IsZeroRun]
    | succ n =>
      have ih := @ih n
      simp only [IsZeroRun, List.drop_zero] at ih
      by_cases hg : g = 0
      · simp [IsZeroRun, zeroRun, List.replicate_succ, hg, ih]
      · simp [IsZeroRun, zeroRun, List.replicate_succ, hg]

theorem IsZeroRun.eq_append (h : IsZeroRun groups start n) :
    groups = groups.take start ++ List.replicate n 0 ++ groups.drop (start + n) := by
  rw [List.append_assoc, ← h, ← List.drop_drop, List.take_append_drop, List.take_append_drop]

/-- **The run that the printer looks for is the first of the longest ones.** -/
theorem isFirstLongest_longestZeroRun (groups : List UInt16) :
    IsFirstLongest groups (longestZeroRun groups).1 (longestZeroRun groups).2 := by
  induction groups with
  | nil =>
    refine ⟨rfl, ?_, ?_⟩
    · intro s m h
      have hlength := congrArg List.length h
      simp only [List.drop_nil, List.take_nil, List.length_nil, List.length_replicate] at hlength
      exact Nat.le_of_eq hlength.symm
    · intro s h
      exact absurd h (Nat.lt_irrefl 0)
  | cons g gs ih =>
    simp only [longestZeroRun]
    split
    · next hlt =>
      refine ⟨ih.zeros, ?_, ?_⟩
      · intro s m h
        cases s with
        | zero => exact Nat.le_trans (isZeroRun_zero_iff.1 h) (Nat.le_of_lt hlt)
        | succ s => exact ih.longest h
      · intro s hpos h
        cases s with
        | zero => exact absurd (isZeroRun_zero_iff.1 h) (Nat.not_le_of_lt hlt)
        | succ s => exact Nat.succ_le_succ (ih.first hpos h)
    · next hge =>
      refine ⟨isZeroRun_zero_iff.2 (Nat.le_refl _), ?_, fun _ _ => Nat.zero_le _⟩
      intro s m h
      cases s with
      | zero => exact isZeroRun_zero_iff.1 h
      | succ s => exact Nat.le_trans (ih.longest h) (Nat.le_of_not_lt hge)

/-- There is one such run. -/
theorem IsFirstLongest.unique {s m : Nat} (h : IsFirstLongest groups start n)
    (h' : IsFirstLongest groups s m) (hpos : 0 < n) : s = start ∧ m = n := by
  have hm : m = n := Nat.le_antisymm (h.longest h'.zeros) (h'.longest h.zeros)
  subst hm
  exact ⟨Nat.le_antisymm (h'.first hpos h.zeros) (h.first hpos h'.zeros), rfl⟩

/-! ### The three layouts -/

/-- The groups stand for an IPv4 address. -/
def Maps (a : Ipv6) (v4 : Ipv4) : Prop := a.groups = List.replicate 5 0 ++ 0xFFFF :: v4.groups

theorem mapped?_eq_some_iff {a : Ipv6} {v4 : Ipv4} : a.mapped? = some v4 ↔ a.Maps v4 := by
  rw [mapped?, Maps]
  constructor
  · intro h
    split at h
    · next high low hgroups =>
      cases h
      rw [hgroups, Ipv4.groups_ofGroups]
      rfl
    · cases h
  · intro h
    rw [h, Ipv4.groups]
    exact congrArg some (Ipv4.ofGroups_uint16BE v4)

/-- A text of an address in groups. -/
inductive Written (a : Ipv6) : List Char → Prop
  /-- An address that stands for an IPv4 address ends in it, whatever else could be left out. -/
  | mapped {v4 : Ipv4} (hmaps : a.Maps v4) : Written a ("::ffff:".toList ++ v4.render)
  /-- The first longest run of zeros, of two groups or more, is left out between two colons. -/
  | shortened {front back : List UInt16} {n : Nat} (hplain : ∀ v4, ¬a.Maps v4)
      (hgroups : a.groups = front ++ List.replicate n 0 ++ back) (htwo : 2 ≤ n)
      (hfirst : IsFirstLongest a.groups front.length n) :
      Written a (renderGroups front ++ ':' :: ':' :: renderGroups back)
  /-- Where no two zeros stand together, all eight groups are written. -/
  | whole (hplain : ∀ v4, ¬a.Maps v4) (hsingle : ∀ start n, IsZeroRun a.groups start n → n ≤ 1) :
      Written a (renderGroups a.groups)

theorem mapped?_eq_none {a : Ipv6} (h : ∀ v4, ¬a.Maps v4) : a.mapped? = none :=
  Option.eq_none_iff_forall_ne_some.2 fun v4 hv4 => h v4 (mapped?_eq_some_iff.1 hv4)

theorem written_render (a : Ipv6) : a.Written a.render := by
  rw [render]
  cases hmapped : a.mapped? with
  | some v4 => exact .mapped (mapped?_eq_some_iff.1 hmapped)
  | none =>
    have hplain : ∀ v4, ¬a.Maps v4 := by
      intro v4 hv4
      rw [mapped?_eq_some_iff.2 hv4] at hmapped
      cases hmapped
    have hfirst := isFirstLongest_longestZeroRun a.groups
    have hle := longestZeroRun_le a.groups
    simp only [renderCompressed]
    split
    · next htwo =>
      have hlength : (a.groups.take (longestZeroRun a.groups).1).length =
          (longestZeroRun a.groups).1 := List.length_take_of_le (by omega)
      exact .shortened hplain hfirst.zeros.eq_append htwo (hlength.symm ▸ hfirst)
    · next htwo => exact .whole hplain fun s m h => Nat.le_trans (hfirst.longest h) (by omega)

/-- **An address has one text**, the one that the printer makes. -/
theorem written_iff_eq_render {a : Ipv6} {text : List Char} : a.Written text ↔ text = a.render := by
  constructor
  · intro h
    have hfound := isFirstLongest_longestZeroRun a.groups
    cases h with
    | mapped hmaps => rw [render, mapped?_eq_some_iff.2 hmaps]
    | @shortened front back n hplain hgroups htwo hfirst =>
      obtain ⟨hstart, hn⟩ := hfirst.unique hfound (Nat.lt_of_lt_of_le Nat.zero_lt_two htwo)
      have hfront : a.groups.take front.length = front := by
        rw [hgroups, List.append_assoc, List.take_left]
      have hback : a.groups.drop (front.length + n) = back := by
        simp [hgroups]
      rw [render, mapped?_eq_none hplain]
      simp only [renderCompressed]
      rw [hstart, hn, if_pos (show 1 < n from htwo), hfront, hback]
    | whole hplain hsingle =>
      rw [render, mapped?_eq_none hplain]
      simp only [renderCompressed]
      rw [if_neg (Nat.not_lt_of_le (hsingle _ _ hfound.zeros))]
  · rintro rfl
    exact written_render a

/-! ### Groups between colons -/

/-- Groups, each behind a colon. -/
def colonGroups (groups : List UInt16) : List Char :=
  groups.flatMap fun g => ':' :: Text.hexDigits g.toNat

@[simp] theorem renderGroups_nil : renderGroups [] = [] := rfl

theorem renderGroups_cons (g : UInt16) (groups : List UInt16) :
    renderGroups (g :: groups) = Text.hexDigits g.toNat ++ colonGroups groups := by
  induction groups generalizing g with
  | nil => simp [renderGroups, colonGroups]
  | cons next groups ih =>
    have h := ih next
    simp only [renderGroups, List.map_cons, List.intercalate_cons_cons] at h ⊢
    rw [h]
    simp [colonGroups]

end Ipv6

/-- The address in groups that stands for an IPv4 address. -/
def Ipv4.mapped (v4 : Ipv4) : Ipv6 := ⟨List.replicate 5 0 ++ 0xFFFF :: v4.groups, rfl⟩

namespace Address

/-- A text of an address. -/
inductive Written : Address → List Char → Prop
  /-- Four octets in decimal between points. -/
  | dotted (a : Ipv4) : Written (.v4 a)
      (Text.decimalDigits a.first.toNat ++ '.' :: (Text.decimalDigits a.second.toNat ++
        '.' :: (Text.decimalDigits a.third.toNat ++ '.' :: Text.decimalDigits a.fourth.toNat)))
  | groups {a : Ipv6} {text : List Char} (h : a.Written text) : Written (.v6 a) text

/-- **An address of either family has one text**, the one that the printer makes. -/
theorem written_iff {a : Address} {text : List Char} : a.Written text ↔ text = a.render := by
  constructor
  · intro h
    cases h with
    | dotted a => exact a.render_eq.symm
    | groups h => exact Ipv6.written_iff_eq_render.1 h
  · rintro rfl
    cases a with
    | v4 a =>
      rw [render, a.render_eq]
      exact .dotted a
    | v6 a => exact .groups a.written_render

end Address

end Tunnel
