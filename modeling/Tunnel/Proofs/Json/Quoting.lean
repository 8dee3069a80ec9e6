import Tunnel.Json.Typed
import Tunnel.Json.Writer
import Tunnel.Proofs.Json.Scalars

/-!
# Quoted strings read back

What the writer puts between quotes spells the string, the controls that are written by their number
included. So the reader gives back every string from between its quotes.

## Main results

* `Json.escaped_cases` — a character is escaped by a letter, by its number, or left as it is
* `Json.spells_flatMap_escaped` — a string is spelled by the escapes of its characters
* `Json.readText_quoted`, `Json.readChecked_quoted` — strings are read from between their quotes
-/

namespace Tunnel

/-! ### Four hexadecimal digits -/

theorem Text.numeral_replicate_zero_append (base k : Nat) (digits : List Char) :
    numeral base (List.replicate k '0' ++ digits) = numeral base digits := by
  have hzero : (digitValue? base '0').getD 0 = 0 := by
    cases base <;> rfl
  induction k with
  | zero => rfl
  | succ k ih =>
    rw [← ih]
    simp [numeral, List.replicate_succ, hzero]

namespace Json

variable {c : Char} {s : List Char}

/-- A number in four hexadecimal digits, with zeros at its front. -/
theorem exists_hex4 {n : Nat} (h : n < 0x10000) :
    ∃ four, List.replicate (4 - (Text.hexDigits n).length) '0' ++ Text.hexDigits n = four ∧
      IsHex4 four ∧ Text.numeral 16 four = n := by
  have hle : (Text.hexDigits n).length ≤ 4 :=
    (Nat.length_toDigits_le_iff (by decide) (by decide)).2 (by omega)
  refine ⟨_, rfl, ⟨?_, fun d hd => ?_⟩, ?_⟩
  · rw [List.length_append, List.length_replicate]
    omega
  · rcases List.mem_append.1 hd with hd | hd
    · rw [List.eq_of_mem_replicate hd]
      rfl
    · exact Text.isDigitOf_of_mem_hexDigits hd
  · rw [Text.numeral_replicate_zero_append]
    exact Text.numeral_toDigits (by decide) (by decide) n

/-! ### Characters and strings -/

/-- A character is escaped by a letter, escaped by its number, or left as it is. -/
theorem escaped_cases (c : Char) :
    (∃ letter, escaped c = ['\\', letter] ∧ (letter, c) ∈ escapes) ∨
    (c.toNat < 0x20 ∧ escaped c = numbered c) ∨ (IsPlain c ∧ escaped c = [c]) := by
  by_cases hletter : c ∈ ['"', '\\', '\x08', '\x0c', '\n', '\r', '\t']
  · left
    simp only [List.mem_cons, List.not_mem_nil, or_false] at hletter
    rcases hletter with rfl | rfl | rfl | rfl | rfl | rfl | rfl
    all_goals exact ⟨_, rfl, by decide⟩
  · right
    simp only [List.mem_cons, List.not_mem_nil, or_false, not_or] at hletter
    by_cases hcontrol : c.toNat < 0x20
    · exact .inl ⟨hcontrol, by simp only [escaped, hletter, hcontrol, if_false, if_true]⟩
    · refine .inr ⟨⟨hletter.1, hletter.2.1, hcontrol⟩, ?_⟩
      simp only [escaped, hletter, hcontrol, if_false]

/-- A control is spelled by its number, which is no half of a surrogate pair. -/
theorem spells_numbered (hcontrol : c.toNat < 0x20) {text : List Char} (h : Spells s text) :
    Spells (numbered c ++ s) (c :: text) := by
  obtain ⟨four, hfour, hhex, hvalue⟩ :=
    exists_hex4 (Nat.lt_trans hcontrol (by decide : _ < 0x10000))
  have htrailing : isTrailing (Text.numeral 16 four) = false := by
    simp only [hvalue, isTrailing, Bool.and_eq_false_iff, decide_eq_false_iff_not]
    omega
  have hleading : isLeading (Text.numeral 16 four) = false := by
    simp only [hvalue, isLeading, Bool.and_eq_false_iff, decide_eq_false_iff_not]
    omega
  have hspells := Spells.numbered hhex htrailing hleading h
  rw [hvalue, Char.ofNat_toNat] at hspells
  simpa only [numbered, hfour, List.cons_append] using hspells

/-- **A string is spelled by the escapes of its characters.** -/
theorem spells_flatMap_escaped (text : List Char) : Spells (text.flatMap escaped) text := by
  induction text with
  | nil => exact .nil
  | cons c text ih =>
    rw [List.flatMap_cons]
    rcases escaped_cases c with ⟨letter, hc, hletter⟩ | ⟨hcontrol, hc⟩ | ⟨hplain, hc⟩
    · rw [hc]
      exact .letter hletter ih
    · rw [hc]
      exact spells_numbered hcontrol ih
    · rw [hc]
      exact .plain hplain ih

theorem readText_quoted (s rest : List Char) :
    readText (quoted s ++ rest) = .ok (String.ofList s, rest) := by
  have hblank : skipBlank (quoted s ++ rest) = '"' :: (s.flatMap escaped ++ '"' :: rest) := by
    rw [quoted, List.cons_append, List.append_assoc, List.singleton_append]
    exact skipBlank_cons_of_not_blank rfl
  rw [readText, hblank]
  simp only [readString, stringBody_spells (spells_flatMap_escaped s), Except.map]

/-- What is made from a string is made from the string between quotes. -/
theorem readChecked_quoted {α : Type} {make : String → Except String α} {a : α}
    (h : make (String.ofList s) = .ok a) (rest : List Char) :
    readChecked make (quoted s ++ rest) = .ok (a, rest) := by
  rw [readChecked, readText_quoted]
  simp only [h]

end Json

end Tunnel
