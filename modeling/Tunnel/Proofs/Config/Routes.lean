import Tunnel.Proofs.Config.Forms
import Tunnel.Proofs.Route.PrefixText
import Tunnel.Proofs.Traversal

/-!
# Routes of a configuration

The routes of a configuration are read all or not at all. A list of strings, each spelled in any
way, is read as the routes that the strings mean, one for each and in their order. The first string
that means none ends the reading with its own failure: the text behind it is not looked at, whether
more strings stand there or no JSON at all.

What a string means has been settled without regard to JSON, and so what is proved here is that
nothing happens on the way: a string comes out of its escapes as it was, the routes are not put in
another order, and none is left out or added.

## Main definitions

* `Json.StringText` — the text of a string, spelled in any way
* `Config.OpensRoutes` — the text of a configuration up to the first of its routes
* `Config.ReadsRoutes` — what becomes of a configuration of routes alone

## Main results

* `Config.ofText_routes` — such a configuration is read as its strings are, one by one
* `Config.ofText_routes_eq_ok_iff`, `Config.ofText_routes_eq_error_iff` — as what, and why not
* `Config.readItems_stops`, `Config.parse_stops` — reading stops at the first string that is refused
* `Config.routes_read_whole` — all of this
-/

namespace Tunnel

namespace Json

variable {s t v : List Char} {text : String} {texts : List String}

/-! ### Lists of strings -/

/-- Quotes with what spells a text between them. -/
def IsString (text : String) (v : List Char) : Prop :=
  ∃ key, Spells key text.toList ∧ v = '"' :: (key ++ ['"'])

/-- The text of a string, with blanks around it. -/
def StringText (text : String) (s : List Char) : Prop := ∃ v, IsString text v ∧ Padded v s

/-- The text of a list of strings. -/
def StringsText : List String → List Char → Prop := Enclosed '[' ']' StringText

theorem IsString.isValue (h : IsString text v) : IsValue v := by
  obtain ⟨key, hkey, rfl⟩ := h
  exact .string hkey.isBody

/-- A row begins with its first part, which is the whole row or has a comma behind it. -/
theorem Row.cons_cases {α : Type} {Part : α → List Char → Prop} {a : α} {later : List α}
    (h : Row Part (a :: later) s) : (later = [] ∧ Part a s) ∨
      ∃ front tail, Part a front ∧ Row Part later tail ∧ s = front ++ ',' :: tail := by
  cases h with
  | single hpart => exact .inl ⟨rfl, hpart⟩
  | cons hpart hlater => exact .inr ⟨_, _, hpart, hlater, rfl⟩

/-- A row of strings is a row of values. -/
theorem Row.exists_items (h : Row StringText texts s) :
    ∃ items, List.Forall₂ IsString texts items ∧ Row Padded items s := by
  induction h with
  | single hpart =>
    obtain ⟨v, hv, hpadded⟩ := hpart
    exact ⟨[v], .cons hv .nil, .single hpadded⟩
  | cons hpart _ ih =>
    obtain ⟨v, hv, hpadded⟩ := hpart
    obtain ⟨items, hitems, hlater⟩ := ih
    exact ⟨v :: items, .cons hv hitems, .cons hpadded hlater⟩

/-- A list of strings is a list of values. -/
theorem exists_items (h : StringsText texts v) :
    ∃ items, List.Forall₂ IsString texts items ∧ ListText items v := by
  cases h with
  | blanks hblanks => exact ⟨[], .nil, .blanks hblanks⟩
  | row hrow =>
    obtain ⟨items, hitems, hrow⟩ := hrow.exists_items
    exact ⟨items, hitems, .row hrow⟩

theorem isValue_of_forall₂ {items : List (List Char)} (h : List.Forall₂ IsString texts items) :
    ∀ item ∈ items, IsValue item := by
  induction h with
  | nil => exact List.forall_mem_nil _
  | cons hitem _ ih => exact List.forall_mem_cons.2 ⟨hitem.isValue, ih⟩

/-- A row of strings is not the end of a list. -/
theorem Row.skipBlank_strings (h : Row StringText texts s) (rest : List Char) :
    ∃ c u, skipBlank (s ++ rest) = c :: u ∧ c ≠ ']' := by
  obtain ⟨items, hitems, hrow⟩ := h.exists_items
  exact hrow.skipBlank_padded (isValue_of_forall₂ hitems) rest

end Json

namespace Config

open Json

variable {s t v row : List Char} {text bad : String} {texts before : List String}
  {fault : Fault} {p : RoutePrefix}

/-! ### Strings read as routes -/

/-- What comes of a string where a route is wanted. -/
def routeOf (text : String) : Except Fault RoutePrefix :=
  (RoutePrefix.ofText text).mapError fun e => .mismatch (.refused e.message)

theorem routeOf_eq_ok_iff : routeOf text = .ok p ↔ RoutePrefix.ofText text = .ok p := by
  rw [routeOf]
  cases RoutePrefix.ofText text with
  | error e => exact ⟨nofun, nofun⟩
  | ok q => exact ⟨fun h => congrArg _ (Except.ok.inj h), fun h => congrArg _ (Except.ok.inj h)⟩

/-- A string is refused in the words in which it is no prefix. -/
theorem routeOf_eq_error_iff : routeOf text = .error fault ↔
    ∃ reason, RoutePrefix.ofText text = .error (.invalidPrefix reason) ∧
      fault = .mismatch (.refused (Error.invalidPrefix reason).message) := by
  rw [routeOf, RoutePrefix.ofText]
  cases RoutePrefix.parse text.toList with
  | error cause =>
    constructor
    · intro h
      exact ⟨cause.text, rfl, (Except.error.inj h).symm⟩
    · rintro ⟨reason, hreason, rfl⟩
      obtain rfl : cause.text = reason := Error.invalidPrefix.inj (Except.error.inj hreason)
      rfl
  | ok q =>
    constructor
    · intro h
      cases h
    · rintro ⟨_, hreason, -⟩
      cases hreason

/-- **A string is read as its text is**, however it is spelled and whatever follows it. -/
theorem run_route (h : IsString text v) (rest : List Char) :
    route.run (v ++ rest) = (routeOf text).map fun p => (p, rest) := by
  obtain ⟨key, hkey, rfl⟩ := h
  simp only [route, checkedText, readChecked, readText_string, readString_spells hkey, routeOf]
  cases RoutePrefix.ofText text <;> rfl

theorem outcome_route (h : IsString text v) : outcome route v = routeOf text := by
  have hrun := run_route h []
  rw [List.append_nil] at hrun
  rw [outcome, hrun]
  cases routeOf text <;> rfl

theorem run_route_padded (h : StringText text s) : ∃ after, Blanks after ∧ ∀ rest,
    route.run (skipBlank (s ++ rest)) = (routeOf text).map fun p => (p, after ++ rest) := by
  obtain ⟨v, hv, ahead, after, hahead, hafter, rfl⟩ := h
  refine ⟨after, hafter, fun rest => ?_⟩
  rw [List.append_assoc, List.append_assoc, hv.isValue.skipBlank_append hahead,
    run_route hv (after ++ rest)]

/-! ### Routes alone -/

theorem mapM_outcome_route {items : List (List Char)} (h : List.Forall₂ IsString texts items) :
    items.mapM (outcome route) = texts.mapM routeOf := by
  induction h with
  | nil => rfl
  | cons hitem _ ih => rw [List.mapM_cons, List.mapM_cons, outcome_route hitem, ih]

theorem outcome_strings (h : StringsText texts v) :
    IsValue v ∧ outcome (array route) v = texts.mapM routeOf := by
  obtain ⟨items, hitems, hlist⟩ := exists_items h
  have hvalues := isValue_of_forall₂ hitems
  refine ⟨.list hlist hvalues, ?_⟩
  rw [← mapM_outcome_route hitems]
  exact outcome_array (settles_checkedText _) hlist hvalues

/-- **A configuration of routes alone** is read as its strings are, one by one. -/
theorem ofText_routes {document : String} (hlist : StringsText texts v)
    (hdocument : IsObject [("routes", v)] document.toList) :
    ofText document = (texts.mapM routeOf).map fun routes => { standard with routes } := by
  obtain ⟨core, hcore, hpadded⟩ := hdocument
  obtain ⟨hvalue, houtcome⟩ := outcome_strings hlist
  rw [ofText, parse_object hcore hpadded (List.forall_mem_singleton.2 hvalue), List.foldlM_cons,
    Draft.add_routes rfl, houtcome]
  cases texts.mapM routeOf <;> rfl

/-! ### Where reading stops -/

/-- **A list is read up to the first string that is refused.** No text behind that string has a part
in it. -/
theorem readItems_stops {isFirst : Bool} (h : Row StringText (before ++ [bad]) row)
    (hbefore : ∀ text ∈ before, ∃ p, routeOf text = .ok p) (hbad : routeOf bad = .error fault)
    (rest : List Char) (hnext : nextItem isFirst t = .ok (.item (skipBlank (row ++ rest)))) :
    readItems route isFirst t = .error fault := by
  -- on the strings that are read: each is taken off the row, and the reader stands at the next
  induction before generalizing row t isFirst with
  | nil =>
    rcases Row.cons_cases h with ⟨-, hpart⟩ | ⟨_, _, _, hnone, _⟩
    · obtain ⟨after, -, hrun⟩ := run_route_padded hpart
      rw [readItems_item hnext, hrun, hbad]
      rfl
    · cases hnone
  | cons text before ih =>
    rcases Row.cons_cases h with ⟨hnil, -⟩ | ⟨front, tail, hpart, hlater, rfl⟩
    · exact absurd hnil (List.append_ne_nil_of_right_ne_nil _ (List.cons_ne_nil _ _))
    · obtain ⟨⟨p, hp⟩, hbefore⟩ := List.forall_mem_cons.1 hbefore
      obtain ⟨after, hafter, hrun⟩ := run_route_padded hpart
      obtain ⟨c, u, hblank, hc⟩ := hlater.skipBlank_strings rest
      have hcomma : nextItem false (after ++ ',' :: (tail ++ rest)) =
          .ok (.item (skipBlank (tail ++ rest))) :=
        nextItem_later (hafter.skipBlank_cons rfl _) hblank hc
      rw [List.append_assoc, List.cons_append] at hnext
      rw [readItems_item hnext, hrun, hp]
      simp only [Except.map, ih hlater hbefore hcomma]

/-- A first member whose value fails ends the reading of a configuration. -/
theorem parse_member_fails {ahead inner key : List Char} {name : String} (hahead : Blanks ahead)
    (hinner : Blanks inner) (hkey : Spells key name.toList)
    (hmember : readMember .empty name t = .error fault) :
    parse (ahead ++ '{' :: (inner ++ '"' :: (key ++ '"' :: t))) = .error fault := by
  have hbrace : skipBlank (ahead ++ '{' :: (inner ++ '"' :: (key ++ '"' :: t))) =
      '{' :: (inner ++ '"' :: (key ++ '"' :: t)) :=
    hahead.skipBlank_cons rfl _
  have hnext : nextMember true (inner ++ '"' :: (key ++ '"' :: t)) =
      .ok (.item (key ++ '"' :: t)) :=
    nextMember_first (hinner.skipBlank_cons rfl _)
  simp only [parse, readDraft, hbrace, readMembers_item hnext, readNamed, readString_spells hkey,
    hmember]

/-- The text of a configuration up to the first of its routes, which are its first member. -/
def OpensRoutes (s : List Char) : Prop :=
  ∃ ahead inner key between gap, Blanks ahead ∧ Blanks inner ∧ Spells key "routes".toList ∧
    Blanks between ∧ Blanks gap ∧
    s = ahead ++ '{' :: (inner ++ '"' :: (key ++ '"' :: (between ++ ':' :: (gap ++ ['[']))))

/-- **A configuration is read up to the first of its routes that is refused.** -/
theorem parse_stops (hopens : OpensRoutes s) (h : Row StringText (before ++ [bad]) row)
    (hbefore : ∀ text ∈ before, ∃ p, routeOf text = .ok p) (hbad : routeOf bad = .error fault)
    (rest : List Char) : parse (s ++ (row ++ rest)) = .error fault := by
  obtain ⟨ahead, inner, key, between, gap, hahead, hinner, hkey, hbetween, hgap, rfl⟩ := hopens
  obtain ⟨c, u, hblank, hc⟩ := h.skipBlank_strings rest
  have hitems := readItems_stops h hbefore hbad rest (nextItem_first hblank hc)
  have harray : (array route).run (gap ++ '[' :: (row ++ rest)) = .error fault := by
    have hbracket : skipBlank (gap ++ '[' :: (row ++ rest)) = '[' :: (row ++ rest) :=
      hgap.skipBlank_cons rfl _
    simp only [array, readArray, hbracket]
    exact hitems
  have hmember : readMember .empty "routes" (between ++ ':' :: (gap ++ '[' :: (row ++ rest))) =
      .error fault := by
    simp [readMember, readValue, Draft.empty, readColon_append hbetween, harray, Except.map]
  simp only [List.append_assoc, List.cons_append, List.nil_append]
  exact parse_member_fails hahead hinner hkey hmember

/-! ### All or nothing -/

section Whole

variable {document : String} (hlist : StringsText texts v)
  (hdocument : IsObject [("routes", v)] document.toList)

include hlist hdocument

theorem ofText_routes_eq_ok_iff {config : Config} : ofText document = .ok config ↔
    ∃ routes, List.Forall₂ (fun text p => RoutePrefix.ofText text = .ok p) texts routes ∧
      config = { standard with routes } := by
  simp only [← routeOf_eq_ok_iff, ← List.mapM_eq_ok_iff, ofText_routes hlist hdocument]
  cases texts.mapM routeOf with
  | error fault =>
    constructor
    · intro h
      cases h
    · rintro ⟨_, h, -⟩
      cases h
  | ok routes =>
    constructor
    · intro h
      exact ⟨routes, rfl, (Except.ok.inj h).symm⟩
    · rintro ⟨_, h, rfl⟩
      obtain rfl := Except.ok.inj h
      rfl

theorem exists_ofText_routes_iff : (∃ config, ofText document = .ok config) ↔
    ∀ text ∈ texts, ∃ p, RoutePrefix.ofText text = .ok p := by
  simp only [← routeOf_eq_ok_iff, ← List.exists_mapM_eq_ok_iff, List.mapM_eq_ok_iff,
    ofText_routes_eq_ok_iff hlist hdocument]
  constructor
  · rintro ⟨_, routes, hroutes, -⟩
    exact ⟨routes, hroutes⟩
  · rintro ⟨routes, hroutes⟩
    exact ⟨_, routes, hroutes, rfl⟩

theorem ofText_routes_eq_error_iff {error : Error} :
    (ofText document).mapError Json.Fault.error = .error error ↔
      ∃ before bad after reason, texts = before ++ bad :: after ∧
        (∀ text ∈ before, ∃ p, RoutePrefix.ofText text = .ok p) ∧
        RoutePrefix.ofText bad = .error (.invalidPrefix reason) ∧
        error = .config (Error.invalidPrefix reason).message := by
  simp only [← routeOf_eq_ok_iff, ofText_routes hlist hdocument]
  constructor
  · intro h
    cases hitems : texts.mapM routeOf with
    | ok routes =>
      rw [hitems] at h
      cases h
    | error fault =>
      rw [hitems] at h
      obtain ⟨before, bad, after, htexts, hbefore, hbad⟩ := List.mapM_eq_error_iff.1 hitems
      obtain ⟨reason, hreason, rfl⟩ := routeOf_eq_error_iff.1 hbad
      exact ⟨before, bad, after, reason, htexts, hbefore, hreason, (Except.error.inj h).symm⟩
  · rintro ⟨before, bad, after, reason, htexts, hbefore, hreason, rfl⟩
    have hbad := routeOf_eq_error_iff.2 ⟨reason, hreason, rfl⟩
    rw [List.mapM_eq_error_iff.2 ⟨before, bad, after, htexts, hbefore, hbad⟩]
    rfl

end Whole

/-- What becomes of a configuration of routes alone, given the texts of its strings. -/
structure ReadsRoutes (texts : List String) (document : String) : Prop where
  /-- It is read when each text means a route, as the routes that they mean, and as nothing else. -/
  ok_iff : ∀ config, ofText document = .ok config ↔ ∃ routes,
    List.Forall₂ (fun text p => RoutePrefix.ofText text = .ok p) texts routes ∧
      config = { standard with routes }
  accepted_iff : (∃ config, ofText document = .ok config) ↔
    ∀ text ∈ texts, ∃ p, RoutePrefix.ofText text = .ok p
  /-- The routes have the addresses of their texts, with all the bits. -/
  accepted : ∀ config, ofText document = .ok config →
    List.Forall₂ (fun text p => RoutePrefix.Accepted text.toList p) texts config.routes
  /-- Else the failure is that of the first text that means none. -/
  error_iff : ∀ error, (ofText document).mapError Json.Fault.error = .error error ↔
    ∃ before bad after reason, texts = before ++ bad :: after ∧
      (∀ text ∈ before, ∃ p, RoutePrefix.ofText text = .ok p) ∧
      RoutePrefix.ofText bad = .error (.invalidPrefix reason) ∧
      error = .config (Error.invalidPrefix reason).message

theorem readsRoutes {document : String} (hlist : StringsText texts v)
    (hdocument : IsObject [("routes", v)] document.toList) : ReadsRoutes texts document where
  ok_iff _ := ofText_routes_eq_ok_iff hlist hdocument
  accepted_iff := exists_ofText_routes_iff hlist hdocument
  accepted config h := by
    obtain ⟨routes, hroutes, rfl⟩ := (ofText_routes_eq_ok_iff hlist hdocument).1 h
    exact hroutes.imp fun text p => RoutePrefix.ofText_eq_ok_iff.1
  error_iff _ := ofText_routes_eq_error_iff hlist hdocument

/-- **Routes are read all or not at all.** A configuration that holds a list of strings for its
routes, spelled and laid out in any way, is read when every string is the text of a route. Its
routes are then those of the strings, in order, each as often as it is there and with all bits of
its address. Else the failure is a failure of the configuration, in the words in which the first
string that is none is refused; and this it is whatever stands behind that string. -/
theorem routes_read_whole :
    (∀ texts v document, StringsText texts v → IsObject [("routes", v)] document.toList →
      ReadsRoutes texts document) ∧
    ∀ before bad reason opening row, OpensRoutes opening →
      Row StringText (before ++ [bad]) row →
      (∀ text ∈ before, ∃ p, RoutePrefix.ofText text = .ok p) →
      RoutePrefix.ofText bad = .error (.invalidPrefix reason) → ∀ rest,
      (parse (opening ++ (row ++ rest))).mapError Json.Fault.error =
        .error (.config (Error.invalidPrefix reason).message) := by
  refine ⟨fun texts v document => readsRoutes, ?_⟩
  intro before bad reason opening row hopens hrow hbefore hreason rest
  simp only [← routeOf_eq_ok_iff] at hbefore
  have hbad := routeOf_eq_error_iff.2 ⟨reason, hreason, rfl⟩
  rw [parse_stops hopens hrow hbefore hbad rest]
  rfl

theorem stringText_quotes {key : List Char} (h : Spells key text.toList) :
    StringText text ('"' :: (key ++ ['"'])) :=
  ⟨_, ⟨key, h, rfl⟩, [], [], .nil, .nil, (List.append_nil _).symm⟩

/-- One text in two spellings is one route twice, with the bit that its length leaves out. Where a
list holds a text that means no route, what follows may be anything. -/
theorem routes_read_whole_respelled :
    (∃ config, ofText "\x7b\"routes\":[\"::1/0\",\"::1\\/0\"]\x7d" = .ok config ∧
      config.routes.map RoutePrefix.toText = ["::1/0", "::1/0"]) ∧
    ∀ rest, (parse ("\x7b\"routes\":[\"::1/0\",\"home\"".toList ++ rest)).mapError
      Json.Fault.error = .error (.config "Invalid route prefix: home: bad address") := by
  have hread : ∃ p, RoutePrefix.ofText "::1/0" = .ok p ∧ p.toText = "::1/0" := ⟨_, rfl, rfl⟩
  obtain ⟨p, hread, htext⟩ := hread
  have hplain : StringText "::1/0" "\"::1/0\"".toList :=
    stringText_quotes (spells_flatMap_escaped "::1/0".toList)
  have hescaped : StringText "::1/0" "\"::1\\/0\"".toList := by
    have hcolon : IsPlain ':' := by simp [IsPlain]
    have hslash : Spells ['1', '\\', '/', '0'] ['1', '/', '0'] :=
      .plain (by simp [IsPlain]) (.letter (by decide) (.plain (by simp [IsPlain]) .nil))
    have hkey : Spells [':', ':', '1', '\\', '/', '0'] "::1/0".toList :=
      .plain hcolon (.plain hcolon hslash)
    exact stringText_quotes hkey
  constructor
  · have hlist : StringsText ["::1/0", "::1/0"] "[\"::1/0\",\"::1\\/0\"]".toList :=
      .row (.cons hplain (.single hescaped))
    have hobject : IsObject [("routes", "[\"::1/0\",\"::1\\/0\"]".toList)]
        "\x7b\"routes\":[\"::1/0\",\"::1\\/0\"]\x7d".toList :=
      ⟨_, objectText_object .compact 0 _, [], [], .nil, .nil, rfl⟩
    have hroutes := ((routes_read_whole.1 _ _ _ hlist hobject).ok_iff _).2
      ⟨[p, p], .cons hread (.cons hread .nil), rfl⟩
    exact ⟨_, hroutes, by rw [List.map_cons, List.map_singleton, htext]⟩
  · intro rest
    have hopens : OpensRoutes "\x7b\"routes\":[".toList :=
      ⟨[], [], _, [], [], .nil, .nil, spells_flatMap_escaped "routes".toList, .nil, .nil, rfl⟩
    have hhome : StringText "home" "\"home\"".toList :=
      stringText_quotes (spells_flatMap_escaped "home".toList)
    exact routes_read_whole.2 ["::1/0"] "home" "home: bad address" _ _ hopens
      (.cons hplain (.single hhome)) (List.forall_mem_singleton.2 ⟨p, hread⟩) rfl rest

end Config

end Tunnel
