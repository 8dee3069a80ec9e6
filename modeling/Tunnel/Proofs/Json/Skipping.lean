import Tunnel.Json.Skip
import Tunnel.Proofs.Json.Scalars

/-!
# Passing over values

Every value of the grammar is passed over as a whole, however deep its lists and objects are nested.
The reader keeps the open brackets in a stack; what it does from the front of a value is what it
does behind that value, whichever the stack.

## Main definitions

* `Json.skipPart` — a part of the innermost open bracket, and what is left of those around it
* `Json.Passed`, `Json.PartPassed` — a value, and a part of an open bracket, is passed over

## Main results

* `Json.skipName_append` — the name of a member and its colon
* `Json.skipPart_row` — the parts of an open bracket, up to its closing
* `Json.IsValue.passed` — a value is passed over, whatever is around it
* `Json.IsValue.skipValue_append` — so a value that stands alone leaves what follows it
-/

namespace Tunnel.Json

variable {s t v rest : List Char} {c : Char} {bracket : Bracket} {around : List Bracket}

/-! ### The steps of the reader -/

theorem skipFrom_value_list (h : skipBlank s = '[' :: t) :
    skipFrom .value around s = skipFrom (.opened .list) around t := by
  rw [skipFrom]
  split <;> simp_all

theorem skipFrom_value_object (h : skipBlank s = '{' :: t) :
    skipFrom .value around s = skipFrom (.opened .object) around t := by
  rw [skipFrom]
  split <;> simp_all

theorem skipFrom_value_scalar (h : skipBlank s = c :: t) (hlist : c ≠ '[') (hobject : c ≠ '{')
    (hscalar : skipScalar (c :: t) = .ok rest) :
    skipFrom .value around s = skipFrom .done around rest := by
  rw [skipFrom]
  split
  · simp_all
  · next hs => exact absurd (List.cons.inj (h.symm.trans hs)).1 hlist
  · next hs => exact absurd (List.cons.inj (h.symm.trans hs)).1 hobject
  · rw [← h] at hscalar
    split
    · next hfault =>
      rw [hscalar] at hfault
      cases hfault
    · next hok =>
      rw [hscalar] at hok
      cases hok
      rfl

theorem skipFrom_opened_close (h : skipBlank s = bracket.closing :: t) :
    skipFrom (.opened bracket) around s = skipFrom .done around t := by
  rw [skipFrom]
  split <;> simp_all

theorem skipFrom_done_close (h : skipBlank s = bracket.closing :: t) :
    skipFrom .done (bracket :: around) s = skipFrom .done around t := by
  have hcomma : bracket.closing ≠ ',' := by
    cases bracket <;> decide
  rw [skipFrom]
  split
  · simp_all
  · next c rest hs =>
    rw [h] at hs
    cases hs
    rw [if_neg hcomma, if_pos rfl]

/-- A part of the innermost open bracket, and what is left of the brackets around it. -/
def skipPart (bracket : Bracket) (around : List Bracket) (s : List Char) :
    Except Fault (List Char) :=
  match skipItemName bracket s with
  | .error fault => .error fault
  | .ok item => skipFrom .value (bracket :: around) item

theorem skipPart_eq (h : skipItemName bracket s = .ok t) :
    skipPart bracket around s = skipFrom .value (bracket :: around) t := by
  rw [skipPart, h]

theorem skipFrom_opened (h : skipBlank s = c :: t) (hc : c ≠ bracket.closing) :
    skipFrom (.opened bracket) around s = skipPart bracket around s := by
  rw [skipFrom, skipPart]
  split
  · simp_all
  · next d rest hs =>
    rw [h] at hs
    cases hs
    rw [if_neg hc]
    split <;> simp_all

theorem skipFrom_done_comma (h : skipBlank s = ',' :: t) :
    skipFrom .done (bracket :: around) s = skipPart bracket around t := by
  rw [skipFrom, skipPart]
  split
  · simp_all
  · next d rest hs =>
    rw [h] at hs
    cases hs
    rw [if_pos rfl]
    split <;> simp_all

/-! ### Names and parts -/

/-- The name of a member is passed over with the colon behind it. -/
theorem skipName_append {before key between : List Char} (hbefore : Blanks before)
    (hkey : IsBody key) (hbetween : Blanks between) (rest : List Char) :
    skipName (before ++ '"' :: (key ++ '"' :: (between ++ ':' :: rest))) = .ok rest := by
  have hquote : skipBlank (before ++ '"' :: (key ++ '"' :: (between ++ ':' :: rest))) =
      '"' :: (key ++ '"' :: (between ++ ':' :: rest)) :=
    hbefore.skipBlank_cons rfl _
  have hcolon : skipBlank (between ++ ':' :: rest) = ':' :: rest :=
    hbetween.skipBlank_cons rfl _
  simp only [skipName, hquote, skipString_append hkey, hcolon]

/-- A value is passed over, whatever is around it. -/
def Passed (v : List Char) : Prop :=
  ∀ (around : List Bracket) (s rest : List Char), skipBlank s = v ++ rest → Ends rest →
    skipFrom .value around s = skipFrom .done around rest

/-- A part of an open bracket is passed over, up to the blanks behind it. -/
def PartPassed (bracket : Bracket) (s : List Char) : Prop :=
  (∀ rest, ∃ c t, skipBlank (s ++ rest) = c :: t ∧ c ≠ bracket.closing) ∧
    ∀ around rest, Ends rest → ∃ after, Blanks after ∧
      skipPart bracket around (s ++ rest) = skipFrom .done (bracket :: around) (after ++ rest)

/-- What a part of a list amounts to. -/
theorem partPassed_padded (hv : IsValue v) (hpassed : Passed v) (h : Padded v s) :
    PartPassed .list s := by
  obtain ⟨before, after, hbefore, hafter, rfl⟩ := h
  have hblank : ∀ rest, skipBlank (before ++ (v ++ after) ++ rest) = v ++ (after ++ rest) := by
    intro rest
    rw [List.append_assoc, List.append_assoc, hv.skipBlank_append hbefore]
  refine ⟨fun rest => ?_, fun around rest hrest => ⟨after, hafter, ?_⟩⟩
  · obtain ⟨c, later, hstarts, hc⟩ := hv.starts
    refine ⟨c, later ++ (after ++ rest), ?_, hc.ne (by decide)⟩
    rw [hblank, hstarts, List.cons_append]
  · rw [skipPart_eq (t := before ++ (v ++ after) ++ rest) rfl]
    exact hpassed _ _ _ (hblank rest) (hafter.ends hrest)

/-- What a member of an object amounts to. -/
theorem partPassed_member {member : List Char × List Char} (hkey : IsBody member.1)
    (hv : IsValue member.2) (hpassed : Passed member.2) (h : MemberText member s) :
    PartPassed .object s := by
  obtain ⟨before, between, padded, hbefore, hbetween, ⟨ahead, after, hahead, hafter, rfl⟩, rfl⟩ := h
  refine ⟨fun rest => ?_, fun around rest hrest => ⟨after, hafter, ?_⟩⟩
  · refine ⟨'"', member.1 ++ '"' :: (between ++ ':' :: (ahead ++ (member.2 ++ after))) ++ rest, ?_,
      by decide⟩
    rw [List.append_assoc]
    exact hbefore.skipBlank_cons rfl _
  · have hname := skipName_append hbefore hkey hbetween (ahead ++ (member.2 ++ after) ++ rest)
    rw [skipPart_eq (t := ahead ++ (member.2 ++ after) ++ rest)]
    · refine hpassed _ _ _ ?_ (hafter.ends hrest)
      rw [List.append_assoc, List.append_assoc, hv.skipBlank_append hahead]
    · simpa [skipItemName] using hname

/-! ### Rows and brackets -/

theorem Bracket.ends_closing (bracket : Bracket) (rest : List Char) :
    Ends (bracket.closing :: rest) := by
  cases bracket <;> exact .cons (by decide)

section Rows

variable {α : Type} {Part : α → List Char → Prop} {parts : List α}

/-- **The parts of an open bracket** are passed over one after the other, and the bracket with
them. -/
theorem skipPart_row (h : Row Part parts s)
    (hpart : ∀ part ∈ parts, ∀ s, Part part s → PartPassed bracket s) (rest : List Char) :
    skipPart bracket around (s ++ bracket.closing :: rest) = skipFrom .done around rest := by
  induction h with
  | single hpart' =>
    obtain ⟨after, hafter, hpassed⟩ :=
      (hpart _ List.mem_cons_self _ hpart').2 around _ (bracket.ends_closing rest)
    rw [hpassed, skipFrom_done_close]
    exact hafter.skipBlank_cons (by cases bracket <;> rfl) _
  | @cons a later s t hpart' _ ih =>
    obtain ⟨after, hafter, hpassed⟩ := (hpart _ List.mem_cons_self _ hpart').2 around
      (',' :: (t ++ bracket.closing :: rest)) (.cons (by decide))
    rw [List.append_assoc, List.cons_append, hpassed, skipFrom_done_comma
      (t := t ++ bracket.closing :: rest)]
    · exact ih fun part hmem => hpart part (List.mem_cons_of_mem a hmem)
    · exact hafter.skipBlank_cons rfl _

theorem Row.exists_front (h : Row Part parts s) :
    ∃ part ∈ parts, ∃ front tail, Part part front ∧ s = front ++ tail := by
  cases h with
  | single hpart => exact ⟨_, List.mem_cons_self, s, [], hpart, (List.append_nil s).symm⟩
  | cons hpart _ => exact ⟨_, List.mem_cons_self, _, _, hpart, rfl⟩

/-- Brackets are passed over with all that is between them. -/
theorem skipFrom_opened_enclosed (bracket : Bracket) {opening : Char}
    (h : Enclosed opening bracket.closing Part parts (opening :: s))
    (hpart : ∀ part ∈ parts, ∀ s, Part part s → PartPassed bracket s) (rest : List Char) :
    skipFrom (.opened bracket) around (s ++ rest) = skipFrom .done around rest := by
  cases h with
  | @blanks s hs =>
    refine skipFrom_opened_close ?_
    rw [List.append_assoc]
    exact hs.skipBlank_cons (by cases bracket <;> rfl) _
  | @row _ s hrow =>
    obtain ⟨part, hmem, front, tail, hfront, hs⟩ := hrow.exists_front
    obtain ⟨c, t, hblank, hc⟩ :=
      (hpart part hmem front hfront).1 (tail ++ bracket.closing :: rest)
    rw [List.append_assoc, List.singleton_append, skipFrom_opened (c := c) (t := t)]
    · exact skipPart_row hrow hpart rest
    · rw [hs, List.append_assoc, hblank]
    · exact hc

end Rows

/-! ### Values -/

/-- A literal, number or string is passed over. -/
theorem passed_scalar (hstarts : ∃ c later, v = c :: later ∧ c ≠ '[' ∧ c ≠ '{')
    (hscalar : ∀ rest, Ends rest → skipScalar (v ++ rest) = .ok rest) : Passed v := by
  intro around s rest hs hrest
  obtain ⟨c, later, rfl, hlist, hobject⟩ := hstarts
  exact skipFrom_value_scalar hs hlist hobject (hscalar rest hrest)

theorem skipScalar_number (h : IsNumber v) (hrest : Ends rest) :
    skipScalar (v ++ rest) = .ok rest := by
  have hskip := skipNumber_append h hrest
  obtain ⟨c, later, rfl, hc⟩ := h.starts
  have hne : c ≠ '"' ∧ c ≠ 'n' ∧ c ≠ 't' ∧ c ≠ 'f' := by
    obtain rfl | hdigit := hc
    · decide
    · exact ⟨ne_of_isDigit hdigit rfl, ne_of_isDigit hdigit rfl, ne_of_isDigit hdigit rfl,
        ne_of_isDigit hdigit rfl⟩
  rw [List.cons_append] at hskip ⊢
  rw [skipScalar]
  · rw [if_pos hc, hskip]
  all_goals simp [hne]

/-- **A value is passed over**, whatever is around it: behind its front the reader does what it does
behind its end. -/
theorem IsValue.passed (h : IsValue v) : Passed v := by
  induction h with
  | literal hword =>
    simp only [List.mem_cons, List.not_mem_nil, or_false] at hword
    rcases hword with rfl | rfl | rfl
    all_goals
      refine passed_scalar ⟨_, _, rfl, by decide, by decide⟩ fun rest _ => ?_
      exact readWord_append _ rest
  | number hnumber =>
    obtain ⟨c, later, hstarts, hc⟩ := hnumber.starts
    refine passed_scalar ⟨c, later, hstarts, ?_, ?_⟩ fun rest => skipScalar_number hnumber
    · rintro rfl
      rcases hc with hc | hc <;> cases hc
    · rintro rfl
      rcases hc with hc | hc <;> cases hc
  | @string s hbody =>
    refine passed_scalar ⟨_, _, rfl, by decide, by decide⟩ fun rest _ => ?_
    have hskip := skipString_append hbody rest
    simpa [skipScalar] using hskip
  | list hlist hitems ih =>
    intro around s rest hs hrest
    obtain ⟨inner, rfl⟩ := hlist.eq_cons
    rw [skipFrom_value_list hs]
    exact skipFrom_opened_enclosed .list hlist
      (fun item hmem _ hpadded => partPassed_padded (hitems item hmem) (ih item hmem) hpadded) rest
  | object hobject hkeys hvalues ih =>
    intro around s rest hs hrest
    obtain ⟨inner, rfl⟩ := hobject.eq_cons
    rw [skipFrom_value_object hs]
    exact skipFrom_opened_enclosed .object hobject
      (fun member hmem _ htext => partPassed_member (hkeys member hmem) (hvalues member hmem)
        (ih member hmem) htext) rest

/-- **A value is left out as a whole**, blanks ahead of it included, and what follows is left. -/
theorem IsValue.skipValue_append (h : IsValue v) (hs : Blanks s) (hrest : Ends rest) :
    skipValue (s ++ (v ++ rest)) = .ok rest := by
  rw [skipValue, h.passed [] _ rest (h.skipBlank_append hs rest) hrest, skipFrom]

end Tunnel.Json
