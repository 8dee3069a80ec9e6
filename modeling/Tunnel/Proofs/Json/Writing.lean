import Tunnel.Proofs.Json.Quoting

/-!
# What is written is in the grammar

Strings, lists and objects as the writer lays them out are strings, lists and objects of the
grammar, in either layout: what the layouts put between the items is commas and blanks.

## Main results

* `Json.isValue_quoted` — strings
* `Json.Row.intercalate` — parts with a comma and blanks between them make a row
* `Json.enclosed_block` — a block of parts is enclosed
* `Json.listText_list`, `Json.objectText_object` — lists and objects
-/

namespace Tunnel.Json

variable {s t : List Char} {α : Type} {Part : α → List Char → Prop}

/-! ### Strings and names -/

theorem isValue_quoted (s : List Char) : IsValue (quoted s) :=
  .string (spells_flatMap_escaped s).isBody

theorem blanks_replicate (n : Nat) : Blanks (List.replicate n ' ') := by
  intro c hc
  rw [List.eq_of_mem_replicate hc]
  rfl

theorem blanks_lineBreak (depth : Nat) : Blanks (Layout.lineBreak depth) := by
  intro c hc
  obtain rfl | hc := List.mem_cons.1 hc
  · rfl
  · exact blanks_replicate _ c hc

theorem Blanks.append (hs : Blanks s) (ht : Blanks t) : Blanks (s ++ t) := by
  intro c hc
  exact (List.mem_append.1 hc).elim (hs c) (ht c)

/-- A member as it is written: a quoted name, a colon and the value. -/
theorem namedText_quoted (layout : Layout) (member : String × List Char) :
    NamedText member (quoted member.1.toList ++ layout.separator ++ member.2) := by
  have hseparator : ∃ blanks, Blanks blanks ∧ layout.separator = ':' :: blanks := by
    cases layout
    · exact ⟨[], .nil, rfl⟩
    · exact ⟨[' '], blanks_replicate 1, rfl⟩
  obtain ⟨blanks, hblanks, hseparator⟩ := hseparator
  refine ⟨member.1.toList.flatMap escaped, spells_flatMap_escaped _, [], [],
    blanks ++ (member.2 ++ []), .nil, .nil, ⟨blanks, [], hblanks, .nil, rfl⟩, ?_⟩
  simp [quoted, hseparator]

/-! ### Parts between brackets -/

/-- Blanks may stand around a part. -/
def Paddable (Part : α → List Char → Prop) : Prop :=
  ∀ {a s before after}, Part a s → Blanks before → Blanks after →
    Part a (before ++ (s ++ after))

theorem paddable_padded : Paddable Padded := by
  rintro v s before after ⟨ahead, behind, hahead, hbehind, rfl⟩ hbefore hafter
  exact ⟨before ++ ahead, behind ++ after, hbefore.append hahead, hbehind.append hafter, by simp⟩

theorem paddable_namedText : Paddable NamedText := by
  rintro member s before after ⟨key, hkey, ahead, between, padded, hahead, hbetween, hpadded, rfl⟩
    hbefore hafter
  refine ⟨key, hkey, before ++ ahead, between, padded ++ after, hbefore.append hahead, hbetween,
    ?_, by simp⟩
  simpa using paddable_padded hpadded .nil hafter

/-- **Parts with a comma and blanks between them** make a row. -/
theorem Row.intercalate (hpad : Paddable Part) {f : α → List Char} (hpart : ∀ a, Part a (f a))
    {lead trail : List Char} (hlead : Blanks lead) (htrail : Blanks trail) (a : α)
    (later : List α) :
    Row Part (a :: later)
      (lead ++ ((',' :: lead).intercalate ((a :: later).map f) ++ trail)) := by
  induction later generalizing a with
  | nil =>
    simp only [List.map_cons, List.map_nil, List.intercalate_singleton]
    exact .single (hpad (hpart a) hlead htrail)
  | cons b later ih =>
    have hrow := Row.cons (hpad (hpart a) hlead .nil) (ih b)
    simpa [List.intercalate_cons_cons] using hrow

/-- **A block of parts** is enclosed, in either layout. -/
theorem enclosed_block (hpad : Paddable Part) {f : α → List Char} (hpart : ∀ a, Part a (f a))
    (layout : Layout) (depth : Nat) (opening closing : Char) (parts : List α) :
    Enclosed opening closing Part parts
      (layout.block depth opening closing (parts.map f)) := by
  cases parts with
  | nil => exact .blanks .nil
  | cons a later =>
    cases layout with
    | compact =>
      have hrow := Row.intercalate hpad hpart .nil .nil a later
      rw [List.nil_append, List.append_nil] at hrow
      exact .row hrow
    | pretty =>
      have hrow := Row.intercalate hpad hpart (blanks_lineBreak (depth + 1))
        (blanks_lineBreak depth) a later
      have henclosed : Enclosed opening closing Part (a :: later) _ := .row hrow
      simpa [Layout.block] using henclosed

/-- A written list is a list of the grammar. -/
theorem listText_list (layout : Layout) (depth : Nat) (items : List (List Char)) :
    ListText items (layout.list depth items) := by
  have hpart : ∀ item : List Char, Padded item item := fun item =>
    ⟨[], [], .nil, .nil, (List.append_nil item).symm⟩
  simpa [ListText, Layout.list] using
    enclosed_block paddable_padded hpart layout depth '[' ']' items

/-- A written object is an object of the grammar. -/
theorem objectText_object (layout : Layout) (depth : Nat) (members : List (String × List Char)) :
    ObjectText members (layout.object depth members) :=
  enclosed_block paddable_namedText (namedText_quoted layout) layout depth '{' '}' members

/-- A written list of values is a value. -/
theorem isValue_list (layout : Layout) (depth : Nat) {items : List (List Char)}
    (h : ∀ item ∈ items, IsValue item) : IsValue (layout.list depth items) :=
  .list (listText_list layout depth items) h

end Tunnel.Json
