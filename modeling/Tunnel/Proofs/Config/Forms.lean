import Tunnel.Proofs.Config.Members
import Tunnel.Proofs.Json.Writing

/-!
# The two forms of a configuration

A configuration may be written as an object or as a list. The reader takes the one by the names of
its members and the other by position, with a path of its own for each. Both come to the same: the
list is read as the object that holds its values under the names in their order, failures included.
And of an object only the known members count, in whatever order they come.

## Main definitions

* `Config.IsObject`, `Config.IsList` — texts that are an object or a list, blanks around it apart
* `Config.declared` — the known members alone, in the order of the list form

## Main results

* `Config.parse_list` — the list form is read as members under the names in order
* `Config.parse_forms` — order, unknown members, the two forms, and members that come twice
-/

namespace Tunnel.Config

open Json

variable {members : List (String × List Char)} {values : List (List Char)}
variable {s t v rest : List Char} {α : Type}

/-! ### The list form -/

/-- The text stands ahead of the values that are left of a list, and `rest` is behind the list. -/
inductive Ahead (rest : List Char) : (isFirst : Bool) → List (List Char) → List Char → Prop
  | nil {isFirst : Bool} {s : List Char} : skipBlank s = ']' :: rest → Ahead rest isFirst [] s
  | row {isFirst : Bool} {values : List (List Char)} {s t : List Char} : Row Padded values t →
    nextItem isFirst s = .ok (.item (skipBlank (t ++ ']' :: rest))) → Ahead rest isFirst values s

/-- A list begins ahead of its values. -/
theorem ahead_of_listText (h : ListText values ('[' :: s)) (hvalues : ∀ v ∈ values, IsValue v)
    (rest : List Char) : Ahead rest true values (s ++ rest) := by
  cases h with
  | @blanks s hs =>
    refine .nil ?_
    rw [List.append_assoc]
    exact hs.skipBlank_cons rfl _
  | @row _ s hrow =>
    obtain ⟨c, u, hblank, hc⟩ := hrow.skipBlank_padded hvalues (']' :: rest)
    rw [List.append_assoc, List.singleton_append]
    exact .row hrow (nextItem_first hblank hc)

/-- Where no value is left, the text stays where it is. -/
theorem Ahead.readElement_nil {isFirst : Bool} (h : Ahead rest isFirst [] s) (reader : Reader α)
    (again : Bool) : readElement reader again s = .ok (none, s) := by
  cases h with
  | nil hs => rw [readElement, nextItem_close hs]
  | row hrow _ => cases hrow

theorem Ahead.closeList {isFirst : Bool} (h : Ahead rest isFirst [] s) :
    closeList s = .ok rest := by
  cases h with
  | nil hs => simp only [Json.closeList, hs]
  | row hrow _ => cases hrow

/-- The next value of a list is read, and the text stands ahead of those that are left. -/
theorem Ahead.readElement_cons {isFirst : Bool} {reader : Reader α} (hreader : Settles reader)
    (h : Ahead rest isFirst (v :: values) s) (hvalues : ∀ w ∈ v :: values, IsValue w) :
    ∃ t, Ahead rest false values t ∧
      readElement reader isFirst s = (outcome reader v).map fun a => (some a, t) := by
  obtain ⟨hv, hlater⟩ := List.forall_mem_cons.1 hvalues
  cases h with
  | row hrow hnext =>
    cases hrow with
    | single hpadded =>
      obtain ⟨after, hafter, hrun⟩ := hreader.run_padded hv hpadded
      refine ⟨after ++ ']' :: rest, .nil ?_, ?_⟩
      · exact hafter.skipBlank_cons rfl _
      · have hread := hrun (']' :: rest) (.cons (by decide))
        simp only [readElement, hnext, hread]
        cases outcome reader v <;> rfl
    | @cons _ _ front tail hpadded hrow =>
      obtain ⟨after, hafter, hrun⟩ := hreader.run_padded hv hpadded
      obtain ⟨c, u, hblank, hc⟩ := hrow.skipBlank_padded hlater (']' :: rest)
      refine ⟨after ++ ',' :: (tail ++ ']' :: rest), .row hrow (nextItem_later ?_ hblank hc), ?_⟩
      · exact hafter.skipBlank_cons rfl _
      · have hread := hrun (',' :: (tail ++ ']' :: rest)) (.cons (by decide))
        rw [List.append_assoc, List.cons_append] at hnext
        simp only [readElement, hnext, hread]
        cases outcome reader v <;> rfl

/-- **The values of a list** are read as members under the names in their order. -/
theorem Ahead.readElements (h : Ahead rest true values s) (hvalues : ∀ v ∈ values, IsValue v)
    (hlength : values.length ≤ 3) :
    readElements s =
      ((fieldNames.zip values).foldlM Draft.add .empty).map fun draft => (draft, rest) := by
  rw [Config.readElements, fieldNames]
  cases values with
  | nil =>
    simp only [h.readElement_nil, h.closeList]
    rfl
  | cons interface values =>
    obtain ⟨s, h, hinterface⟩ := h.readElement_cons settles_optionalText hvalues
    rw [hinterface, List.zip_cons_cons, List.foldlM_cons, Draft.add_interface rfl]
    cases outcome optionalText interface with
    | error fault => rfl
    | ok interface =>
    replace hvalues := (List.forall_mem_cons.1 hvalues).2
    simp only [Except.map, Option.isNone_some]
    cases values with
    | nil =>
      simp only [h.readElement_nil, h.closeList]
      rfl
    | cons families values =>
      obtain ⟨s, h, hfamilies⟩ := h.readElement_cons settles_families hvalues
      have hadd := @Draft.add_families families { Draft.empty with interface := some interface } rfl
      simp only [hfamilies, List.zip_cons_cons, List.foldlM_cons, bind, Except.bind, hadd]
      cases outcome (array family) families with
      | error fault => rfl
      | ok families =>
      replace hvalues := (List.forall_mem_cons.1 hvalues).2
      simp only [Except.map, Option.isNone_some]
      cases values with
      | nil =>
        simp only [h.readElement_nil, h.closeList]
        rfl
      | cons routes values =>
        obtain ⟨s, h, hroutes⟩ := h.readElement_cons settles_routes hvalues
        have hadd := @Draft.add_routes routes ⟨some interface, some families, none⟩ rfl
        simp only [hroutes, List.zip_cons_cons, List.foldlM_cons, bind, Except.bind, Draft.empty,
          hadd]
        cases outcome (array route) routes with
        | error fault => rfl
        | ok routes =>
        -- the list is at its end, since it holds no more than three values
        obtain rfl : values = [] := List.eq_nil_of_length_eq_zero (by
          simp only [List.length_cons] at hlength
          omega)
        simp only [Except.map, h.closeList]
        rfl

/-- **A list** is read as the object that holds its values under the names in their order. -/
theorem parse_list {core : List Char} (h : ListText values core) (hs : Padded core s)
    (hvalues : ∀ v ∈ values, IsValue v) (hlength : values.length ≤ 3) :
    parse s = ((fieldNames.zip values).foldlM Draft.add .empty).map Draft.config := by
  refine parse_padded hs fun rest => ?_
  obtain ⟨inner, rfl⟩ := h.eq_cons
  have hself : skipBlank ('[' :: (inner ++ [']']) ++ rest) = '[' :: (inner ++ [']']) ++ rest :=
    skipBlank_cons_of_not_blank rfl
  refine ⟨hself, ?_⟩
  rw [readDraft, hself]
  exact (ahead_of_listText h hvalues rest).readElements hvalues hlength

/-! ### Known members alone -/

/-- The text is an object with these members, blanks around it apart. -/
def IsObject (members : List (String × List Char)) (s : List Char) : Prop :=
  ∃ core, ObjectText members core ∧ Padded core s

/-- The text is a list of these values, blanks around it apart. -/
def IsList (values : List (List Char)) (s : List Char) : Prop :=
  ∃ core, ListText values core ∧ Padded core s

/-- Members that are of use: no known one comes twice, the values of the known ones are accepted,
and those of all others are any values. -/
structure Sound (members : List (String × List Char)) : Prop where
  values : ∀ m ∈ members, IsValue m.2
  once : KnownOnce members
  accepted : ∀ m ∈ members, Accepted m

/-- The configuration by the values of some members, with the standard value for what is missing. -/
def ofMembers (members : List (String × List Char)) : Config where
  interface := (valueOf? optionalText "interface" members).getD none
  families := (valueOf? (array family) "families" members).getD standardFamilies
  routes := (valueOf? (array route) "routes" members).getD []

/-- The known members alone, in the order of the list form. -/
def declared (members : List (String × List Char)) : List (String × List Char) :=
  fieldNames.filterMap fun name => (members.lookup name).map fun v => (name, v)

theorem mem_of_mem_declared {m : String × List Char} (h : m ∈ declared members) : m ∈ members := by
  obtain ⟨name, -, hm⟩ := List.mem_filterMap.1 h
  obtain ⟨v, hlookup, rfl⟩ := Option.map_eq_some_iff.1 hm
  obtain ⟨front, back, rfl, -⟩ := List.lookup_eq_some_iff.1 hlookup
  exact List.mem_append_right front List.mem_cons_self

theorem knownOnce_declared (members : List (String × List Char)) :
    KnownOnce (declared members) := by
  have hnames : fieldNames.Pairwise (· ≠ ·) := by decide
  refine List.pairwise_filterMap.2 (hnames.imp fun {a b} hne m hm n hn _ => ?_)
  obtain ⟨v, -, rfl⟩ := Option.map_eq_some_iff.1 hm
  obtain ⟨w, -, rfl⟩ := Option.map_eq_some_iff.1 hn
  exact hne

theorem Sound.declared (h : Sound members) : Sound (declared members) where
  values m hm := h.values m (mem_of_mem_declared hm)
  once := knownOnce_declared members
  accepted m hm := h.accepted m (mem_of_mem_declared hm)

/-- A known name finds the same value among the known members alone. -/
theorem lookup_declared {name : String} (h : name ∈ fieldNames) :
    (declared members).lookup name = members.lookup name := by
  simp only [fieldNames, List.mem_cons, List.not_mem_nil, or_false] at h
  rcases h with rfl | rfl | rfl
  all_goals
    simp only [declared, fieldNames, List.filterMap_cons, List.filterMap_nil]
    cases members.lookup "interface" <;> cases members.lookup "families" <;>
      cases members.lookup "routes" <;> simp [List.lookup_cons]

theorem ofMembers_declared (members : List (String × List Char)) :
    ofMembers (declared members) = ofMembers members := by
  simp only [ofMembers, valueOf?]
  rw [lookup_declared (by decide), lookup_declared (by decide), lookup_declared (by decide)]

theorem Sound.foldlM_add (h : Sound members) :
    members.foldlM Draft.add .empty = .ok (Draft.empty.filled members) := by
  refine Config.foldlM_add h.once h.accepted ?_
  rintro m - (⟨-, hne⟩ | ⟨-, hne⟩ | ⟨-, hne⟩) <;> exact hne rfl

/-- An object with members that are of use is read as the configuration by their values. -/
theorem parse_sound (h : Sound members) (hs : IsObject members s) :
    parse s = .ok (ofMembers members) := by
  obtain ⟨core, hcore, hs⟩ := hs
  rw [parse_object hcore hs h.values, h.foldlM_add]
  simp [Except.map, Draft.config, Draft.filled, Draft.empty, ofMembers]

/-! ### Members that come twice -/

theorem readMember_of_has {draft : Draft} {name : String} (h : draft.has name) :
    readMember draft name s = .error (.mismatch (.duplicateField name)) := by
  rcases h with ⟨rfl, hread⟩ | ⟨rfl, hread⟩ | ⟨rfl, hread⟩
  all_goals simp [readMember, readValue, Option.isSome_iff_ne_none.2 hread]

/-- A known member that comes again is refused at its name, whatever follows. -/
theorem parse_duplicate {row key before between : List Char} {name : String} (h : Sound members)
    (hrow : Row NamedText members row) (hname : name ∈ fieldNames)
    (hmem : name ∈ members.map Prod.fst) (hkey : Spells key name.toList) (hbefore : Blanks before)
    (hbetween : Blanks between) (after : List Char) :
    parse (before ++ '{' :: (row ++ ',' :: (between ++ '"' :: (key ++ '"' :: after)))) =
      .error (.mismatch (.duplicateField name)) := by
  obtain ⟨blanks, hblanks, hread⟩ := readMembers_row hrow h.values
  obtain ⟨u, hu, hrun⟩ := hread (',' :: (between ++ '"' :: (key ++ '"' :: after)))
    (.cons (by decide))
  have hhas : (Draft.empty.filled members).has name := Draft.has_filled h.accepted hname hmem
  have hagain : nextMember false
      (blanks ++ ',' :: (between ++ '"' :: (key ++ '"' :: after))) =
        .ok (.item (key ++ '"' :: after)) :=
    nextMember_later (hblanks.skipBlank_cons rfl _) (hbetween.skipBlank_cons rfl _)
  have hbrace : skipBlank
      (before ++ '{' :: (row ++ ',' :: (between ++ '"' :: (key ++ '"' :: after)))) =
        '{' :: (row ++ ',' :: (between ++ '"' :: (key ++ '"' :: after))) :=
    hbefore.skipBlank_cons rfl _
  simp only [parse, readDraft, hbrace, hrun .empty true _ (nextMember_first hu),
    h.foldlM_add, readMembers_item hagain, readNamed,
    readString_spells hkey, readMember_of_has hhas]

/-! ### Order and form -/

/-- **Neither order nor form matters.** An object whose members are of use is read as the known
members alone would be, in the order in which they are declared; a list of at most three values, of
any kind, is read as the object that holds them under the names in order, failures included; and a
known member that comes again is refused, whatever follows its name. -/
theorem parse_forms :
    (∀ members s, Sound members → IsObject members s →
      parse s = .ok (ofMembers members) ∧
      ∀ t, IsObject (declared members) t → parse t = parse s) ∧
    (∀ values s t, values.length ≤ 3 → (∀ v ∈ values, IsValue v) → IsList values s →
      IsObject (fieldNames.zip values) t → parse s = parse t) ∧
    ∀ members row key before between name, Sound members → Row NamedText members row →
      name ∈ fieldNames → name ∈ members.map Prod.fst → Spells key name.toList →
      Blanks before → Blanks between → ∀ after,
      parse (before ++ '{' :: (row ++ ',' :: (between ++ '"' :: (key ++ '"' :: after)))) =
        .error (.mismatch (.duplicateField name)) := by
  refine ⟨fun members s h hs => ⟨parse_sound h hs, fun t ht => ?_⟩,
    fun values s t hlength hvalues hs ht => ?_,
    fun members row key before between name h hrow hname hmem hkey hbefore hbetween after =>
      parse_duplicate h hrow hname hmem hkey hbefore hbetween after⟩
  · rw [parse_sound h.declared ht, ofMembers_declared, parse_sound h hs]
  · obtain ⟨list, hlist, hs⟩ := hs
    obtain ⟨object, hobject, ht⟩ := ht
    rw [parse_list hlist hs hvalues hlength, parse_object hobject ht]
    intro m hm
    exact hvalues m.2 (List.of_mem_zip hm).2

/-- Known members out of order, behind one that is not known and holds half a surrogate pair. -/
def outOfOrder : List (String × List Char) :=
  [("note", ['"', '\\', 'u', 'd', '8', '0', '0', '"']), ("routes", ['[', ']']),
    ("interface", ['n', 'u', 'l', 'l'])]

theorem isHex4_of_decide (h : s.length = 4 ∧ s.all (Text.isDigitOf 16) = true) : IsHex4 s :=
  ⟨h.1, List.all_eq_true.1 h.2⟩

theorem sound_outOfOrder : Sound outOfOrder where
  values := by
    have hnote : IsBody ['\\', 'u', 'd', '8', '0', '0'] :=
      .numbered (isHex4_of_decide (s := ['d', '8', '0', '0']) (by decide)) .nil
    have hnull : IsValue ['n', 'u', 'l', 'l'] := @IsValue.literal "null" (by decide)
    simp only [outOfOrder, List.forall_mem_cons]
    exact ⟨.string hnote, .list (.blanks .nil) nofun, hnull, nofun⟩
  once := by
    rw [KnownOnce]
    decide
  accepted := by
    have hroutes : outcome (array route) ['[', ']'] = .ok [] :=
      outcome_array (settles_checkedText _) (.blanks .nil) nofun
    simp only [outOfOrder, List.forall_mem_cons]
    exact ⟨⟨nofun, nofun, nofun⟩, ⟨nofun, nofun, fun _ => ⟨_, hroutes⟩⟩,
      ⟨fun _ => ⟨none, rfl⟩, nofun, nofun⟩, nofun⟩

theorem parse_forms_outOfOrder :
    parse (Layout.compact.object 0 outOfOrder) = .ok (ofMembers outOfOrder) ∧
      parse (Layout.compact.list 0 [['n', 'u', 'l', 'l']]) =
        parse (Layout.compact.object 0 [("interface", ['n', 'u', 'l', 'l'])]) := by
  have hobject : ∀ members, IsObject members (Layout.compact.object 0 members) := fun members =>
    ⟨_, objectText_object .compact 0 members, [], [], .nil, .nil, (List.append_nil _).symm⟩
  have hlist : ∀ values, IsList values (Layout.compact.list 0 values) := fun values =>
    ⟨_, listText_list .compact 0 values, [], [], .nil, .nil, (List.append_nil _).symm⟩
  refine ⟨(parse_forms.1 _ _ sound_outOfOrder (hobject _)).1,
    parse_forms.2.1 [['n', 'u', 'l', 'l']] _ _ (by decide) ?_ (hlist _) (hobject _)⟩
  simp only [List.forall_mem_cons]
  exact ⟨@IsValue.literal "null" (by decide), nofun⟩

/-- What stands between the quotes of a name that is no text: half a surrogate pair. -/
def half : List Char := ['\\', 'u', 'd', 'c', '0', '0']

theorem not_spells_half (name : List Char) : ¬Spells half name := by
  intro h
  generalize hs : half = s at h
  cases h with
  | nil => cases hs
  | plain hplain _ => exact hplain.2.1 (List.cons.inj hs).1.symm
  | letter hletter _ =>
    obtain ⟨rfl, -⟩ := List.cons.inj (List.cons.inj hs).2
    simp [escapes] at hletter
  | @numbered four s _ hfour htrailing _ _ =>
    have hdigits : ['d', 'c', '0', '0'] = four ++ s := (List.cons.inj (List.cons.inj hs).2).2
    have htake : (four ++ s).take 4 = four := by rw [← hfour.1, List.take_left]
    rw [← hdigits] at htake
    subst htake
    cases htrailing
  | @paired first second s _ hfirst hsecond _ _ _ =>
    have hlength := congrArg List.length hs
    simp only [half, List.length_cons, List.length_append, hfirst.1, hsecond.1,
      List.length_nil] at hlength
    omega

/-- **A name that is no text** is refused: its member is not known and holds a value, and yet it is
not passed over. So the names in `parse_forms` are texts, while a value that is passed over may hold
half a surrogate pair. -/
theorem parse_half_name :
    Enclosed '{' '}' MemberText [(half, ['0'])] ('{' :: '"' :: (half ++ ['"', ':', '0', '}'])) ∧
      IsBody half ∧ (∀ name, ¬Spells half name) ∧ IsValue ['0'] ∧
      parse ['{', '}'] = .ok standard ∧
      parse ('{' :: '"' :: (half ++ ['"', ':', '0', '}'])) = .error .loneSurrogate := by
  have hzero : IsNumber ['0'] :=
    @IsNumber.parts [] ['0'] [] [] List.mem_cons_self
      ⟨⟨nofun, List.forall_mem_singleton.2 rfl⟩, fun _ => rfl⟩ .absent .absent
  refine ⟨?_, ?_, not_spells_half, .number hzero, ?_, ?_⟩
  · refine Enclosed.row (s := '"' :: (half ++ ['"', ':', '0'])) (.single ?_)
    exact ⟨[], [], ['0'], .nil, .nil, ⟨[], [], .nil, .nil, rfl⟩, rfl⟩
  · exact .numbered (isHex4_of_decide (s := ['d', 'c', '0', '0']) (by decide)) .nil
  · have hfinish : readMembers .empty true ['}'] = .ok (.empty, []) := readMembers_finish rfl
    simp only [parse, readDraft, skipBlank_cons_of_not_blank (c := '{') rfl, hfinish]
    rfl
  · have hstring : readString (half ++ ['"', ':', '0', '}']) = .error .loneSurrogate := by
      simp only [readString, half, List.cons_append]
      rw [stringBody_fault (rfl : strictEscape.run _ = .error .loneSurrogate)]
      rfl
    have hnext : nextMember true ('"' :: (half ++ ['"', ':', '0', '}'])) =
        .ok (.item (half ++ ['"', ':', '0', '}'])) := rfl
    simp only [parse, readDraft, skipBlank_cons_of_not_blank (c := '{') rfl,
      readMembers_item hnext, readNamed, hstring]

end Tunnel.Config
