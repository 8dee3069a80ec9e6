import Tunnel.Json.Typed
import Tunnel.Proofs.Json.Skipping

/-!
# What comes of a value

A reader of a wanted type is given a value of the grammar, of whatever type. It takes the value as a
whole, or it fails; a value of a wrong type is refused in the middle of it where it is a list or an
object. Either way what comes of the value is settled by the value alone: neither the blanks ahead
of it nor what stands behind it have a part in it.

## Main definitions

* `Json.Settles` — a reader of which this holds for every value
* `Json.outcome` — what comes of a value

## Main results

* `Json.Settles.run_append` — a reader that settles makes of a value its outcome, wherever it stands
* `Json.settles_optionalText`, `Json.settles_checkedText`, `Json.settles_choice` — so do the readers
  of strings and of chosen names
* `Json.settles_array` — and the readers of lists, if the readers of their items do
-/

namespace Tunnel.Json

variable {s t v rest : List Char} {c : Char} {α β : Type}

/-! ### Readers that settle -/

/-- What comes of every value is settled by the value. -/
structure Settles (reader : Reader α) : Prop where
  skips : ∀ s, reader.run (skipBlank s) = reader.run s
  settled : ∀ {v}, IsValue v → Settled reader.run v

/-- What comes of a value. -/
def outcome (reader : Reader α) (v : List Char) : Except Fault α := (reader.run v).map Prod.fst

theorem Settled.run_append {reader : Reader α} (h : Settled reader.run v) (hrest : Ends rest) :
    reader.run (v ++ rest) = (outcome reader v).map fun a => (a, rest) := by
  obtain ⟨result, hresult⟩ := h
  have hself := hresult [] .nil
  rw [List.append_nil] at hself
  rw [hresult rest hrest, outcome, hself]
  cases result <;> rfl

/-- **What is made of a value** is its outcome, wherever it stands. -/
theorem Settles.run_append {reader : Reader α} (h : Settles reader) (hv : IsValue v)
    (hs : skipBlank s = v ++ rest) (hrest : Ends rest) :
    reader.run s = (outcome reader v).map fun a => (a, rest) := by
  rw [← h.skips, hs, (h.settled hv).run_append hrest]

theorem Settled.of_error {run : List Char → Reading α} (fault : Fault)
    (h : ∀ rest, Ends rest → run (v ++ rest) = .error fault) : Settled run v :=
  ⟨.error fault, h⟩

/-! ### The shapes of values -/

/-- A value is a string, a list, an object or none of these. -/
theorem IsValue.shapes (h : IsValue v) :
    (∃ s, IsBody s ∧ v = '"' :: (s ++ ['"'])) ∨
    (∃ items, ListText items v ∧ ∀ item ∈ items, IsValue item) ∨
    (∃ members : List (List Char × List Char), Enclosed '{' '}' MemberText members v ∧
      ∀ member ∈ members, IsBody member.1 ∧ IsValue member.2) ∨
    ∃ c later, v = c :: later ∧ c ≠ '"' ∧ c ≠ '[' ∧ c ≠ '{' := by
  cases h with
  | literal hword =>
    simp only [List.mem_cons, List.not_mem_nil, or_false] at hword
    rcases hword with rfl | rfl | rfl
    all_goals exact .inr (.inr (.inr ⟨_, _, rfl, by decide⟩))
  | number hnumber =>
    obtain ⟨c, later, rfl, hc⟩ := hnumber.starts
    refine .inr (.inr (.inr ⟨c, later, rfl, ?_⟩))
    obtain rfl | hdigit := hc
    · decide
    · exact ⟨ne_of_isDigit hdigit rfl, ne_of_isDigit hdigit rfl, ne_of_isDigit hdigit rfl⟩
  | string hbody => exact .inl ⟨_, hbody, rfl⟩
  | list hlist hitems => exact .inr (.inl ⟨_, hlist, hitems⟩)
  | object hobject hkeys hvalues =>
    refine .inr (.inr (.inl ⟨_, hobject, fun member hmem => ?_⟩))
    exact ⟨hkeys member hmem, hvalues member hmem⟩

/-- Of the values, only `null` begins with its first letter. -/
theorem IsValue.eq_null (h : IsValue ('n' :: t)) : t = ['u', 'l', 'l'] := by
  generalize hs : 'n' :: t = s at h
  cases h with
  | literal hword =>
    simp only [List.mem_cons, List.not_mem_nil, or_false] at hword
    rcases hword with rfl | rfl | rfl
    · exact (List.cons.inj hs).2
    · cases hs
    · cases hs
  | number hnumber =>
    obtain ⟨c, later, rfl, hc⟩ := hnumber.starts
    cases hs
    rcases hc with hc | hc <;> cases hc
  | string _ => cases hs
  | list hlist _ =>
    obtain ⟨inner, rfl⟩ := hlist.eq_cons
    cases hs
  | object hobject _ _ =>
    obtain ⟨inner, rfl⟩ := hobject.eq_cons
    cases hs

/-! ### Naming what is found -/

theorem readFound_scalar (hstring : c ≠ '"') (hnull : c ≠ 'n') (htrue : c ≠ 't')
    (hfalse : c ≠ 'f') (hlist : c ≠ '[') (hobject : c ≠ '{') : readFound (c :: s) =
      if c = '-' ∨ isDigit c then (readNumber (c :: s)).map Prod.fst
      else .error .expectedValue := by
  rw [readFound] <;> simp_all

/-- What a value is found to be does not hang on what follows it. -/
theorem readFound_settled (h : IsValue v) :
    ∃ result : Except Fault Found, ∀ rest, Ends rest → readFound (v ++ rest) = result := by
  cases h with
  | literal hword =>
    simp only [List.mem_cons, List.not_mem_nil, or_false] at hword
    rcases hword with rfl | rfl | rfl
    · exact ⟨.ok .null, fun rest _ => by simp [readFound, readWord, Except.map]⟩
    · exact ⟨.ok (.boolean true), fun rest _ => by simp [readFound, readWord, Except.map]⟩
    · exact ⟨.ok (.boolean false), fun rest _ => by simp [readFound, readWord, Except.map]⟩
  | number hnumber =>
    obtain ⟨result, hresult⟩ := settled_readNumber hnumber
    obtain ⟨c, later, rfl, hc⟩ := hnumber.starts
    refine ⟨result, fun rest hrest => ?_⟩
    have hne : c ≠ '"' ∧ c ≠ 'n' ∧ c ≠ 't' ∧ c ≠ 'f' ∧ c ≠ '[' ∧ c ≠ '{' := by
      obtain rfl | hdigit := hc
      · decide
      · exact ⟨ne_of_isDigit hdigit rfl, ne_of_isDigit hdigit rfl, ne_of_isDigit hdigit rfl,
          ne_of_isDigit hdigit rfl, ne_of_isDigit hdigit rfl, ne_of_isDigit hdigit rfl⟩
    obtain ⟨hstring, hnull, htrue, hfalse, hlist, hobject⟩ := hne
    rw [List.cons_append, readFound_scalar hstring hnull htrue hfalse hlist hobject, if_pos hc,
      ← List.cons_append, hresult rest hrest]
    cases result <;> rfl
  | @string s hbody =>
    obtain ⟨result, hresult⟩ := readString_settled hbody
    refine ⟨result.map .string, fun rest _ => ?_⟩
    have hread : readFound ('"' :: (s ++ ['"']) ++ rest) =
        (readString (s ++ '"' :: rest)).map fun read => .string read.1 := by
      simp [readFound]
    rw [hread, hresult rest]
    cases result <;> rfl
  | list hlist _ =>
    obtain ⟨inner, rfl⟩ := hlist.eq_cons
    exact ⟨.ok .sequence, fun rest _ => rfl⟩
  | object hobject _ _ =>
    obtain ⟨inner, rfl⟩ := hobject.eq_cons
    exact ⟨.ok .map, fun rest _ => rfl⟩

/-- Why a value is refused does not hang on what follows it. -/
theorem wrongType_settled (h : IsValue v) (expected : String) :
    ∃ fault, ∀ rest, Ends rest → wrongType expected (v ++ rest) = fault := by
  obtain ⟨result, hresult⟩ := readFound_settled h
  cases result with
  | error fault => exact ⟨fault, fun rest hrest => by rw [wrongType, hresult rest hrest]⟩
  | ok found =>
    exact ⟨.mismatch (.wrongType found expected), fun rest hrest => by
      rw [wrongType, hresult rest hrest]⟩

/-! ### Strings -/

theorem readText_skipBlank (s : List Char) : readText (skipBlank s) = readText s := by
  rw [readText, readText, skipBlank_skipBlank]

theorem readText_string (s rest : List Char) :
    readText ('"' :: (s ++ ['"']) ++ rest) = readString (s ++ '"' :: rest) := by
  have hblank : skipBlank ('"' :: (s ++ ['"']) ++ rest) = '"' :: (s ++ '"' :: rest) := by
    rw [List.cons_append, List.append_assoc, List.singleton_append]
    exact skipBlank_cons_of_not_blank rfl
  simp only [readText, hblank]

theorem readText_other (h : skipBlank s = c :: t) (hc : c ≠ '"') :
    readText s = .error (wrongType "a string" (c :: t)) := by
  rw [readText, h]
  split
  · simp_all
  · simp_all
  · rfl

theorem settled_readText (h : IsValue v) : Settled readText v := by
  have hother : ∀ {c : Char} {later : List Char}, v = c :: later → c ≠ '"' →
      Settled readText v := by
    rintro c later rfl hc
    obtain ⟨fault, hfault⟩ := wrongType_settled h "a string"
    refine .of_error fault fun rest hrest => ?_
    have hread : readText (c :: later ++ rest) =
        .error (wrongType "a string" (c :: later ++ rest)) :=
      readText_other (h.skipBlank_self rest) hc
    rw [hread, hfault rest hrest]
  obtain ⟨s, hbody, rfl⟩ | ⟨items, hlist, -⟩ | ⟨members, hobject, -⟩ | ⟨c, later, hv, hc, -⟩ :=
    h.shapes
  · obtain ⟨result, hresult⟩ := readString_settled hbody
    exact ⟨result, fun rest _ => by rw [readText_string, hresult rest]⟩
  · obtain ⟨inner, hv⟩ := hlist.eq_cons
    exact hother hv (by decide)
  · obtain ⟨inner, hv⟩ := hobject.eq_cons
    exact hother hv (by decide)
  · exact hother hv hc

/-- What comes of a string from which a value is made. -/
theorem settles_checkedText (make : String → Except String α) : Settles (checkedText make) where
  skips s := by
    simp only [checkedText, readChecked, readText_skipBlank]
  settled {v} h := by
    obtain ⟨result, hresult⟩ := settled_readText h
    cases result with
    | error fault =>
      refine .of_error fault fun rest hrest => ?_
      simp only [checkedText, readChecked, hresult rest hrest, Except.map]
    | ok value =>
      refine ⟨(make value).mapError fun reason => .mismatch (.refused reason), fun rest hrest => ?_⟩
      simp only [checkedText, readChecked, hresult rest hrest, Except.map]
      cases make value <;> rfl

/-- What comes of a string that may be missing. -/
theorem settles_optionalText : Settles optionalText where
  skips s := by
    simp only [optionalText, readOptionalText, readText_skipBlank, skipBlank_skipBlank]
  settled {v} h := by
    obtain ⟨c, later, rfl, -⟩ := h.starts
    by_cases hnull : c = 'n'
    · subst hnull
      refine ⟨.ok none, fun rest _ => ?_⟩
      rw [h.eq_null]
      simp [optionalText, readOptionalText, skipBlank, isBlank, readWord, Except.map]
    · obtain ⟨result, hresult⟩ := settled_readText h
      refine ⟨result.map some, fun rest hrest => ?_⟩
      have hread : readOptionalText (c :: later ++ rest) =
          (readText (c :: later ++ rest)).map fun read => (some read.1, read.2) := by
        rw [readOptionalText, h.skipBlank_self rest]
        split <;> simp_all
      simp only [optionalText, hread, hresult rest hrest]
      cases result <;> rfl

/-! ### Chosen names -/

/-- The colon between a name and its value is passed over. -/
theorem readColon_append (h : Blanks s) (t : List Char) : readColon (s ++ ':' :: t) = .ok t := by
  have hcolon : skipBlank (s ++ ':' :: t) = ':' :: t := h.skipBlank_cons rfl t
  simp only [readColon, hcolon]

section Choices

variable (options : Choice α)

theorem settled_readName (h : IsBody s) : ∃ result : Except Fault α, ∀ rest,
    options.readName (s ++ '"' :: rest) = result.map fun a => (a, rest) := by
  obtain ⟨result, hresult⟩ := readString_settled h
  cases result with
  | error fault =>
    refine ⟨.error fault, fun rest => ?_⟩
    simp only [Choice.readName, hresult rest, Except.map]
  | ok name =>
    cases hfind : options.find? name with
    | none =>
      refine ⟨.error (.mismatch (.unknownVariant name options.names)), fun rest => ?_⟩
      simp only [Choice.readName, hresult rest, Except.map, hfind]
    | some a =>
      refine ⟨.ok a, fun rest => ?_⟩
      simp only [Choice.readName, hresult rest, Except.map, hfind]

/-- Where `null` has to stand, a value is refused, or it is passed over because it is `null`. -/
theorem readUnit_settled (h : IsValue v) :
    (∃ fault, ∀ s rest, skipBlank s = v ++ rest → Ends rest → readUnit s = .error fault) ∨
    ∀ s rest, skipBlank s = v ++ rest → readUnit s = .ok rest := by
  obtain ⟨fault, hfault⟩ := wrongType_settled h "unit"
  obtain ⟨c, later, rfl, -⟩ := h.starts
  by_cases hnull : c = 'n'
  · subst hnull
    refine .inr fun s rest hs => ?_
    rw [readUnit, hs, h.eq_null]
    exact readWord_append ['u', 'l', 'l'] rest
  · refine .inl ⟨fault, fun s rest hs hrest => ?_⟩
    rw [← hfault rest hrest, readUnit, hs]
    split <;> simp_all

/-- A member of a choice: it is refused, or all hangs on whether the object ends behind it. -/
theorem readMember_settled {member : List Char × List Char} (hkey : IsBody member.1)
    (hv : IsValue member.2) (h : MemberText member s) :
    (∃ fault, ∀ rest, Ends rest → options.readMember (s ++ rest) = .error fault) ∨
    ∃ a, ∀ rest, Ends rest → options.readMember (s ++ rest) = match skipBlank rest with
      | [] => .error .endInObject
      | '}' :: rest => .ok (a, rest)
      | _ => .error .expectedValue := by
  obtain ⟨before, between, padded, hbefore, hbetween, ⟨ahead, after, hahead, hafter, rfl⟩, rfl⟩ := h
  obtain ⟨result, hname⟩ := settled_readName options hkey
  have hquote : ∀ rest, skipBlank (before ++ '"' :: (member.1 ++ '"' :: (between ++ ':' ::
      (ahead ++ (member.2 ++ after)))) ++ rest) =
      '"' :: (member.1 ++ '"' :: (between ++ ':' :: (ahead ++ (member.2 ++ (after ++ rest))))) := by
    intro rest
    simp only [List.append_assoc, List.cons_append]
    exact hbefore.skipBlank_cons rfl _
  have hcolon : ∀ t, readColon (between ++ ':' :: t) = .ok t := readColon_append hbetween
  have hvalue : ∀ rest, skipBlank (ahead ++ (member.2 ++ (after ++ rest))) =
      member.2 ++ (after ++ rest) := fun rest => hv.skipBlank_append hahead _
  cases result with
  | error fault =>
    refine .inl ⟨fault, fun rest _ => ?_⟩
    simp only [Choice.readMember, hquote, hname, Except.map]
  | ok a =>
    obtain ⟨fault, hfault⟩ | hunit := readUnit_settled hv
    · refine .inl ⟨fault, fun rest hrest => ?_⟩
      have hrun := hfault _ _ (hvalue rest) (hafter.ends hrest)
      simp only [Choice.readMember, hquote, hname, Except.map, hcolon, hrun]
    · refine .inr ⟨a, fun rest _ => ?_⟩
      have hrun := hunit _ _ (hvalue rest)
      simp only [Choice.readMember, hquote, hname, Except.map, hcolon, hrun]
      exact skipBlank_append hafter rest ▸ rfl

theorem settled_readMember {members : List (List Char × List Char)}
    (h : Enclosed '{' '}' MemberText members ('{' :: s))
    (hmembers : ∀ member ∈ members, IsBody member.1 ∧ IsValue member.2) :
    Settled options.readMember s := by
  cases h with
  | @blanks s hs =>
    refine .of_error .keyMustBeString fun rest _ => ?_
    rw [Choice.readMember, List.append_assoc, skipBlank_append hs]
    rfl
  | @row _ s hrow =>
    cases hrow with
    | single hpart =>
      obtain ⟨hkey, hv⟩ := hmembers _ List.mem_cons_self
      obtain ⟨fault, hfault⟩ | ⟨a, ha⟩ := readMember_settled options hkey hv hpart
      · refine .of_error fault fun rest _ => ?_
        rw [List.append_assoc]
        exact hfault _ (.cons (by decide))
      · refine ⟨.ok a, fun rest _ => ?_⟩
        rw [List.append_assoc, List.singleton_append, ha _ (.cons (by decide))]
        rfl
    | @cons _ _ front tail hpart _ =>
      obtain ⟨hkey, hv⟩ := hmembers _ List.mem_cons_self
      obtain ⟨fault, hfault⟩ | ⟨a, ha⟩ := readMember_settled options hkey hv hpart
      · refine .of_error fault fun rest _ => ?_
        rw [List.append_assoc, List.append_assoc]
        exact hfault _ (.cons (by decide))
      · refine .of_error .expectedValue fun rest _ => ?_
        rw [List.append_assoc, List.append_assoc, List.cons_append, ha _ (.cons (by decide))]
        rfl

/-- What comes of a chosen name, as a string or as an object. -/
theorem settles_choice : Settles (choice options) where
  skips s := by
    simp only [choice, Choice.read, skipBlank_skipBlank]
  settled {v} h := by
    obtain ⟨s, hbody, rfl⟩ | ⟨items, hlist, -⟩ | ⟨members, hobject, hmembers⟩ |
      ⟨c, later, rfl, hstring, -, hobject⟩ := h.shapes
    · obtain ⟨result, hresult⟩ := settled_readName options hbody
      refine ⟨result, fun rest _ => ?_⟩
      have hread : options.read ('"' :: (s ++ ['"']) ++ rest) =
          options.readName (s ++ '"' :: rest) := by
        simp [Choice.read, skipBlank, isBlank]
      exact hread.trans (hresult rest)
    · obtain ⟨inner, rfl⟩ := hlist.eq_cons
      exact .of_error .expectedValue fun rest _ => rfl
    · obtain ⟨inner, rfl⟩ := hobject.eq_cons
      obtain ⟨result, hresult⟩ := settled_readMember options hobject hmembers
      exact ⟨result, hresult⟩
    · refine .of_error .expectedValue fun rest _ => ?_
      have hself := h.skipBlank_self rest
      rw [List.cons_append] at hself
      simp only [choice, Choice.read, List.cons_append, hself]
      split <;> simp_all

end Choices

/-! ### Lists -/

section Lists

variable {element : Reader α} {items : List (List Char)}

theorem readItems_item {isFirst : Bool} (h : nextItem isFirst s = .ok (.item t)) :
    readItems element isFirst s = match element.run t with
      | .error fault => .error fault
      | .ok (a, rest) => match readItems element false rest with
        | .error fault => .error fault
        | .ok (later, rest) => .ok (a :: later, rest) := by
  rw [readItems]
  split
  · simp_all
  · simp_all
  · next hnext =>
    rw [h] at hnext
    cases hnext
    split
    · next hitem => exact hitem ▸ rfl
    · next hitem =>
      dsimp only
      exact hitem ▸ rfl

theorem readItems_finish {isFirst : Bool} (h : nextItem isFirst s = .ok (.finish rest)) :
    readItems element isFirst s = .ok ([], rest) := by
  rw [readItems]
  split <;> simp_all

/-- The first item of a list comes next. -/
theorem nextItem_first (h : skipBlank s = c :: t) (hc : c ≠ ']') :
    nextItem true s = .ok (.item (skipBlank s)) := by
  rw [nextItem, h]
  split <;> simp_all

/-- A later item of a list comes next, behind its comma. -/
theorem nextItem_later {u : List Char} (hs : skipBlank s = ',' :: t) (ht : skipBlank t = c :: u)
    (hc : c ≠ ']') : nextItem false s = .ok (.item (skipBlank t)) := by
  rw [nextItem, hs]
  simp only [ht]
  split <;> simp_all

theorem nextItem_close {isFirst : Bool} (h : skipBlank s = ']' :: rest) :
    nextItem isFirst s = .ok (.finish rest) := by
  simp only [nextItem, h]

/-- A padded value is not the end of a list. -/
theorem skipBlank_padded (hv : IsValue v) (h : Padded v s) (rest : List Char) :
    ∃ c t, skipBlank (s ++ rest) = c :: t ∧ c ≠ ']' := by
  obtain ⟨before, after, hbefore, -, rfl⟩ := h
  obtain ⟨c, later, hstarts, hc⟩ := hv.starts
  refine ⟨c, later ++ (after ++ rest), ?_, hc.ne (by decide)⟩
  rw [List.append_assoc, List.append_assoc, hv.skipBlank_append hbefore, hstarts, List.cons_append]

theorem Row.skipBlank_padded (h : Row Padded items s) (hitems : ∀ item ∈ items, IsValue item)
    (rest : List Char) : ∃ c t, skipBlank (s ++ rest) = c :: t ∧ c ≠ ']' := by
  obtain ⟨v, hmem, front, tail, hfront, rfl⟩ := h.exists_front
  rw [List.append_assoc]
  exact Json.skipBlank_padded (hitems v hmem) hfront (tail ++ rest)

/-- What is made of a padded value is its outcome, and the blanks behind it are left. -/
theorem Settles.run_padded (helement : Settles element) (hv : IsValue v) (h : Padded v s) :
    ∃ after, Blanks after ∧ ∀ rest, Ends rest →
      element.run (skipBlank (s ++ rest)) =
        (outcome element v).map fun a => (a, after ++ rest) := by
  obtain ⟨before, after, hbefore, hafter, rfl⟩ := h
  refine ⟨after, hafter, fun rest hrest => ?_⟩
  rw [helement.skips]
  refine helement.run_append hv ?_ (hafter.ends hrest)
  rw [List.append_assoc, List.append_assoc, hv.skipBlank_append hbefore]

/-- **The items of a row** are read one after the other, and the closing bracket with them. -/
theorem readItems_row (helement : Settles element) (h : Row Padded items s)
    (hitems : ∀ item ∈ items, IsValue item) (rest : List Char) {isFirst : Bool}
    (hnext : nextItem isFirst t = .ok (.item (skipBlank (s ++ ']' :: rest)))) :
    readItems element isFirst t =
      (items.mapM (outcome element)).map fun values => (values, rest) := by
  induction h generalizing t isFirst with
  | @single v s hpadded =>
    obtain ⟨after, hafter, hrun⟩ := helement.run_padded (hitems v List.mem_cons_self) hpadded
    have hclose : readItems element false (after ++ ']' :: rest) = .ok ([], rest) :=
      readItems_finish (nextItem_close (hafter.skipBlank_cons rfl _))
    rw [readItems_item hnext, hrun _ (.cons (by decide)), List.mapM_cons, List.mapM_nil]
    cases outcome element v with
    | error fault => rfl
    | ok a =>
      simp only [Except.map, hclose]
      rfl
  | @cons v later s tail hpadded hrow ih =>
    obtain ⟨after, hafter, hrun⟩ := helement.run_padded (hitems v List.mem_cons_self) hpadded
    have hlater : ∀ item ∈ later, IsValue item := fun item hmem =>
      hitems item (List.mem_cons_of_mem v hmem)
    obtain ⟨c, u, hblank, hc⟩ := hrow.skipBlank_padded hlater (']' :: rest)
    have hcomma : nextItem false (after ++ ',' :: (tail ++ ']' :: rest)) =
        .ok (.item (skipBlank (tail ++ ']' :: rest))) :=
      nextItem_later (hafter.skipBlank_cons rfl _) hblank hc
    rw [List.append_assoc, List.cons_append] at hnext
    rw [readItems_item hnext, hrun _ (.cons (by decide)), List.mapM_cons]
    cases outcome element v with
    | error fault => rfl
    | ok a =>
      simp only [Except.map, ih hlater hcomma]
      cases later.mapM (outcome element) <;> rfl

/-- A list is read from its brackets. -/
theorem readItems_enclosed (helement : Settles element) (h : ListText items ('[' :: s))
    (hitems : ∀ item ∈ items, IsValue item) (rest : List Char) :
    readItems element true (s ++ rest) =
      (items.mapM (outcome element)).map fun values => (values, rest) := by
  cases h with
  | @blanks s hs =>
    refine readItems_finish (nextItem_close ?_)
    rw [List.append_assoc]
    exact hs.skipBlank_cons rfl _
  | @row _ s hrow =>
    obtain ⟨c, u, hblank, hc⟩ := hrow.skipBlank_padded hitems (']' :: rest)
    rw [List.append_assoc, List.singleton_append]
    exact readItems_row helement hrow hitems rest (nextItem_first hblank hc)

theorem readArray_other (h : skipBlank s = c :: t) (hc : c ≠ '[') :
    readArray element s = .error (wrongType "a sequence" (c :: t)) := by
  rw [readArray, h]
  split <;> simp_all

/-- **What comes of a list**, if its items settle what comes of them. -/
theorem settles_array (helement : Settles element) : Settles (array element) where
  skips s := by
    simp only [array, readArray, skipBlank_skipBlank]
  settled {v} h := by
    have hother : ∀ {c : Char} {later : List Char}, v = c :: later → c ≠ '[' →
        Settled (array element).run v := by
      rintro c later rfl hc
      obtain ⟨fault, hfault⟩ := wrongType_settled h "a sequence"
      refine .of_error fault fun rest hrest => ?_
      have hread : readArray element (c :: later ++ rest) =
          .error (wrongType "a sequence" (c :: later ++ rest)) :=
        readArray_other (h.skipBlank_self rest) hc
      simp only [array, hread, hfault rest hrest]
    obtain ⟨s, -, hv⟩ | ⟨items, hlist, hitems⟩ | ⟨members, hobject, -⟩ |
      ⟨c, later, hv, -, hc, -⟩ := h.shapes
    · exact hother hv (by decide)
    · obtain ⟨inner, rfl⟩ := hlist.eq_cons
      exact ⟨items.mapM (outcome element), fun rest _ =>
        readItems_enclosed helement hlist hitems rest⟩
    · obtain ⟨inner, hv⟩ := hobject.eq_cons
      exact hother hv (by decide)
    · exact hother hv hc

/-- What comes of a list is what comes of its items, up to the first that fails. -/
theorem outcome_array (helement : Settles element) (h : ListText items v)
    (hitems : ∀ item ∈ items, IsValue item) :
    outcome (array element) v = items.mapM (outcome element) := by
  obtain ⟨inner, rfl⟩ := h.eq_cons
  have hread : (array element).run ('[' :: (inner ++ [']'])) =
      (items.mapM (outcome element)).map fun values => (values, []) := by
    have hitems := readItems_enclosed helement h hitems []
    rwa [List.append_nil] at hitems
  rw [outcome, hread]
  cases items.mapM (outcome element) <;> rfl

end Lists

end Tunnel.Json
