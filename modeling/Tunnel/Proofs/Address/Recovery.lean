import Tunnel.Proofs.Address.Grammar
import Tunnel.Proofs.Address.Layout

/-!
# Addresses read back

The text that an address is written as is one of its texts in the grammar, whatever run of zero
groups it leaves out and whether or not it ends in a dotted address. So the reader of addresses
gives every address back.

## Main results

* `Ipv4.spelled_render` — four octets in decimal are a text of a dotted address
* `Ipv6.isRow_renderGroups` — groups in hexadecimal are a row
* `Ipv6.Written.spelled` — all three layouts of an address in groups are texts of it
* `Address.parse?_render` — hence every address is read from its own text
-/

namespace Tunnel

/-! ### Dotted addresses -/

namespace Ipv4

theorem isOctet_decimalDigits (octet : UInt8) :
    IsOctet (Text.decimalDigits octet.toNat) octet where
  spells := Text.spells_toDigits (by decide) (by decide) octet.toNat
  length_le := by
    have hlt := octet.toNat_lt
    exact (Nat.length_toDigits_le_iff (by decide) (by decide)).2 (by omega)
  no_zero hhead := by
    by_cases hzero : octet.toNat = 0
    · rw [hzero]
      decide
    · exact absurd hhead (Text.head?_toDigits_ne (by decide) hzero)

/-- **Four octets in decimal are a text of the address.** -/
theorem spelled_render (a : Ipv4) : a.Spelled a.render := by
  rw [render_eq]
  exact .dotted (isOctet_decimalDigits _) (isOctet_decimalDigits _) (isOctet_decimalDigits _)
    (isOctet_decimalDigits _)

end Ipv4

/-! ### Addresses in groups -/

namespace Ipv6

theorem isGroup_hexDigits (g : UInt16) : IsGroup (Text.hexDigits g.toNat) g where
  spells := Text.spells_toDigits (by decide) (by decide) g.toNat
  length_le := by
    have hlt := g.toNat_lt
    exact (Nat.length_toDigits_le_iff (by decide) (by decide)).2 (by omega)

theorem isRow_colonGroups (groups : List UInt16) :
    IsRow false (colonGroups groups) groups false := by
  induction groups with
  | nil => exact .nil
  | cons g groups ih => exact .group (isGroup_hexDigits g) ih

/-- **Groups in hexadecimal are a row.** -/
theorem isRow_renderGroups (groups : List UInt16) :
    IsRow true (renderGroups groups) groups false := by
  cases groups with
  | nil => exact .nil
  | cons g groups =>
    rw [renderGroups_cons]
    exact .group (isGroup_hexDigits g) (isRow_colonGroups groups)

/-- **The layouts of an address are texts of it.** -/
theorem Written.spelled {a : Ipv6} {text : List Char} (h : a.Written text) : a.Spelled text := by
  cases h with
  | @mapped v4 hmaps =>
    have hback : IsRow true ("ffff".toList ++ ':' :: v4.render) (0xFFFF :: v4.groups) true :=
      .group (isGroup_hexDigits 0xFFFF) (.dotted v4.spelled_render)
    have hgroups : a.groups = [] ++ List.replicate 5 0 ++ 0xFFFF :: v4.groups := hmaps
    exact .shortened .nil hback hgroups (by decide)
  | shortened hplain hgroups htwo hfirst =>
    exact .shortened (isRow_renderGroups _) (isRow_renderGroups _) hgroups
      (Nat.lt_of_lt_of_le Nat.zero_lt_two htwo)
  | whole hplain hsingle => exact .whole (isRow_renderGroups _)

end Ipv6

namespace Address

theorem spelled_render (a : Address) : a.Spelled a.render := by
  cases a with
  | v4 a => exact .v4 a.spelled_render
  | v6 a => exact .v6 a.written_render.spelled

/-- **Every address is read from its own text.** -/
theorem parse?_render (a : Address) : parse? a.render = some a :=
  parse?_eq_some_iff_spelled.2 a.spelled_render

end Address

end Tunnel
