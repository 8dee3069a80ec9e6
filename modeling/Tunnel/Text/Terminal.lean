import Tunnel.Text.Quoted

/-!
# Text on a terminal

A terminal takes some controls as orders: an escape sequence moves the cursor or changes colours, a
backspace takes back what was written. A text that comes from outside is shown with these controls
spelt out, so that it gives no orders. The tabulator and the line break stay as they are.

## Main definitions

* `Text.isOrder` — whether a terminal takes a character as an order
* `Text.spellOut` — one character as it is shown
* `Text.defuse` — a text as it is shown

## Main results

* `Text.isOrder_of_mem_spellOut` — nothing that is shown is an order
* `Text.defuse_eq_self` — a text without orders is shown as it is
-/

namespace Tunnel.Text

/-- Whether a terminal takes a character as an order: the bell, the backspace, the form feed, the
escape and the delete character, and the controls beyond ASCII. -/
def isOrder (c : Char) : Bool :=
  let n := c.toNat
  n == 0x07 || n == 0x08 || n == 0x0C || n == 0x1B || (0x7F ≤ n && n ≤ 0x9F)

/-- A number below 256 in two hexadecimal digits. -/
def twoHexDigits (n : Nat) : List Char :=
  let digits := hexDigits n
  List.replicate (2 - digits.length) '0' ++ digits

/-- One character as it is shown. An order has its number in two digits, and one beyond ASCII
between braces. -/
def spellOut (c : Char) : List Char :=
  if isOrder c = false then [c]
  else if c.toNat < 0x80 then '\\' :: 'x' :: twoHexDigits c.toNat
  else escapeByNumber c

/-- The text as it is shown. -/
def defuse (s : String) : String := String.ofList (s.toList.flatMap spellOut)

theorem digitValue?_of_isOrder {base : Nat} {c : Char} (h : isOrder c = true) :
    digitValue? base c = none := by
  have hrange : c.toNat < 0x30 ∨ 0x7F ≤ c.toNat := by
    simp only [isOrder, Bool.or_eq_true, Bool.and_eq_true, beq_iff_eq, decide_eq_true_eq] at h
    omega
  rw [digitValue?, if_neg (by omega), if_neg (by omega), if_neg (by omega)]
  rfl

theorem isOrder_of_isDigitOf {base : Nat} {c : Char} (h : isDigitOf base c = true) :
    isOrder c = false := by
  cases horder : isOrder c with
  | false => rfl
  | true => simp [isDigitOf, digitValue?_of_isOrder horder] at h

theorem isOrder_of_mem_twoHexDigits {n : Nat} {c : Char} (h : c ∈ twoHexDigits n) :
    isOrder c = false := by
  rcases List.mem_append.1 h with h | h
  · rw [(List.mem_replicate.1 h).2]
    rfl
  · exact isOrder_of_isDigitOf (isDigitOf_of_mem_hexDigits h)

theorem isOrder_of_mem_escapeByNumber {c d : Char} (h : d ∈ escapeByNumber c) :
    isOrder d = false := by
  simp only [escapeByNumber, List.mem_cons, List.mem_append, List.not_mem_nil, or_false] at h
  rcases h with rfl | rfl | rfl | h | rfl
  · rfl
  · rfl
  · rfl
  · exact isOrder_of_isDigitOf (isDigitOf_of_mem_hexDigits h)
  · rfl

/-- Nothing that is shown is an order. -/
theorem isOrder_of_mem_spellOut {c d : Char} (h : d ∈ spellOut c) : isOrder d = false := by
  rw [spellOut] at h
  split at h
  · next hc => rwa [List.mem_singleton.1 h]
  · split at h
    · rcases List.mem_cons.1 h with rfl | h
      · rfl
      rcases List.mem_cons.1 h with rfl | h
      · rfl
      exact isOrder_of_mem_twoHexDigits h
    · exact isOrder_of_mem_escapeByNumber h

/-- A text without orders is shown as it is. -/
theorem defuse_eq_self {s : String} (h : ∀ c ∈ s.toList, isOrder c = false) : defuse s = s := by
  have key : ∀ l : List Char, (∀ c ∈ l, isOrder c = false) → l.flatMap spellOut = l := by
    intro l
    induction l with
    | nil => intro _; rfl
    | cons c r ih =>
      intro hl
      rw [List.flatMap_cons, ih fun d hd => hl d (List.mem_cons_of_mem c hd), spellOut,
        if_pos (hl c List.mem_cons_self), List.singleton_append]
  rw [defuse, key _ h, String.ofList_toList]

end Tunnel.Text
