import Tunnel.Config.Reader
import Tunnel.Proofs.Json.Settling

/-!
# The members of a configuration

What the reader of the object form makes of members of the grammar. It is given by what each member
adds to what has been read before: a known one adds what comes of its value and must not have come
before, and any other adds nothing. So the texts of the values are all that matters, and their
outcomes can be looked up by name.

## Main definitions

* `Config.Draft.add` — what a member adds to what has been read
* `Config.valueOf?` — what comes of the value of a name, among some members
* `Config.KnownOnce`, `Config.Accepted` — no known name comes twice, and a known value is accepted

## Main results

* `Config.readNamed_append` — one member
* `Config.readMembers_row` — a row of members
* `Config.parse_object` — an object that is the whole text
* `Config.foldlM_add` — accepted members of which no known one comes twice
-/

namespace Tunnel.Config

open Json

variable {members later : List (String × List Char)} {member : String × List Char}
variable {s t u v rest : List Char} {name : String} {draft : Draft} {α : Type}

/-! ### What a member adds -/

/-- The names that a configuration knows, in the order of the list form. -/
def fieldNames : List String := ["interface", "families", "routes"]

/-- What a known member adds to what has been read. -/
def Draft.addKnown (name : String) (known : Option α) (reader : Reader α) (update : α → Draft)
    (v : List Char) : Except Fault Draft :=
  if known.isSome then .error (.mismatch (.duplicateField name))
  else (outcome reader v).map update

/-- What a member adds to what has been read. -/
def Draft.add (draft : Draft) (member : String × List Char) : Except Fault Draft :=
  if member.1 = "interface" then
    addKnown member.1 draft.interface optionalText
      (fun value => { draft with interface := some value }) member.2
  else if member.1 = "families" then
    addKnown member.1 draft.families (array family)
      (fun value => { draft with families := some value }) member.2
  else if member.1 = "routes" then
    addKnown member.1 draft.routes (array route)
      (fun value => { draft with routes := some value }) member.2
  else .ok draft

theorem settles_families : Settles (array family) := settles_array (settles_choice _)

theorem settles_routes : Settles (array route) := settles_array (settles_checkedText _)

theorem readValue_append {reader : Reader α} (hreader : Settles reader) {known : Option α}
    {update : α → Draft} {between ahead after : List Char} (hbetween : Blanks between)
    (hahead : Blanks ahead) (hv : IsValue v) (hrest : Ends (after ++ rest)) :
    readValue name known reader update (between ++ ':' :: (ahead ++ (v ++ (after ++ rest)))) =
      (Draft.addKnown name known reader update v).map fun draft => (draft, after ++ rest) := by
  have hrun := hreader.run_append hv (hv.skipBlank_append hahead (after ++ rest)) hrest
  rw [readValue, Draft.addKnown]
  split
  · rfl
  · simp only [readColon_append hbetween, hrun]
    cases outcome reader v <;> rfl

theorem passValue_append {between ahead after : List Char} (hbetween : Blanks between)
    (hahead : Blanks ahead) (hv : IsValue v) (hrest : Ends (after ++ rest)) :
    passValue draft (between ++ ':' :: (ahead ++ (v ++ (after ++ rest)))) =
      .ok (draft, after ++ rest) := by
  simp only [passValue, readColon_append hbetween, hv.skipValue_append hahead hrest, Except.map]

/-- **One member** adds to what has been read, and the blanks behind its value are left. -/
theorem readNamed_append (h : NamedText member s) (hv : IsValue member.2) :
    ∃ before inner after, s = before ++ '"' :: inner ∧ Blanks before ∧ Blanks after ∧
      ∀ draft rest, Ends rest →
        readNamed draft (inner ++ rest) = (draft.add member).map fun d => (d, after ++ rest) := by
  obtain ⟨key, hkey, before, between, padded, hbefore, hbetween, hpadded, rfl⟩ := h
  obtain ⟨ahead, after, hahead, hafter, rfl⟩ := hpadded
  refine ⟨before, _, after, rfl, hbefore, hafter, fun draft rest hrest => ?_⟩
  have hends := hafter.ends hrest
  simp only [List.append_assoc, List.cons_append]
  simp only [readNamed, readString_spells hkey, readMember, Draft.add]
  split
  · exact readValue_append settles_optionalText hbetween hahead hv hends
  · split
    · exact readValue_append settles_families hbetween hahead hv hends
    · split
      · exact readValue_append settles_routes hbetween hahead hv hends
      · exact passValue_append hbetween hahead hv hends

/-! ### Rows of members -/

theorem readMembers_item {isFirst : Bool} (h : nextMember isFirst s = .ok (.item t)) :
    readMembers draft isFirst s = match readNamed draft t with
      | .error fault => .error fault
      | .ok (draft, rest) => readMembers draft false rest := by
  rw [readMembers]
  split
  · simp_all
  · simp_all
  · next hnext =>
    rw [h] at hnext
    cases hnext
    split
    · next hnamed => rw [hnamed]
    · next hnamed => simp only [hnamed]

theorem readMembers_finish {isFirst : Bool} (h : nextMember isFirst s = .ok (.finish rest)) :
    readMembers draft isFirst s = .ok (draft, rest) := by
  rw [readMembers]
  split <;> simp_all

theorem nextMember_first (h : skipBlank s = '"' :: t) : nextMember true s = .ok (.item t) := by
  simp [nextMember, h]

theorem nextMember_later (hs : skipBlank s = ',' :: t) (ht : skipBlank t = '"' :: u) :
    nextMember false s = .ok (.item u) := by
  simp [nextMember, hs, ht]

theorem nextMember_close {isFirst : Bool} (h : skipBlank s = '}' :: rest) :
    nextMember isFirst s = .ok (.finish rest) := by
  simp [nextMember, h]

/-- **A row of members** adds to what has been read, the first member first. What follows it is
read with what has been read then. -/
theorem readMembers_row (h : Row NamedText members s) (hvalues : ∀ m ∈ members, IsValue m.2) :
    ∃ after, Blanks after ∧ ∀ rest, Ends rest → ∃ u, skipBlank (s ++ rest) = '"' :: u ∧
      ∀ draft isFirst t, nextMember isFirst t = .ok (.item u) →
        readMembers draft isFirst t = match members.foldlM Draft.add draft with
          | .error fault => .error fault
          | .ok draft => readMembers draft false (after ++ rest) := by
  induction h with
  | @single member s hmember =>
    obtain ⟨before, inner, after, rfl, hbefore, hafter, hrun⟩ :=
      readNamed_append hmember (hvalues member List.mem_cons_self)
    refine ⟨after, hafter, fun rest hrest => ⟨inner ++ rest, ?_, fun draft isFirst t hnext => ?_⟩⟩
    · rw [List.append_assoc]
      exact hbefore.skipBlank_cons rfl _
    · rw [readMembers_item hnext, hrun draft rest hrest, List.foldlM_cons]
      cases draft.add member <;> rfl
  | @cons member later s tail hmember _ ih =>
    obtain ⟨before, inner, after, rfl, hbefore, hafter, hrun⟩ :=
      readNamed_append hmember (hvalues member List.mem_cons_self)
    obtain ⟨last, hlast, hlater⟩ := ih fun m hmem => hvalues m (List.mem_cons_of_mem member hmem)
    refine ⟨last, hlast, fun rest hrest =>
      ⟨inner ++ ',' :: (tail ++ rest), ?_, fun draft isFirst t hnext => ?_⟩⟩
    · simp only [List.append_assoc, List.cons_append]
      exact hbefore.skipBlank_cons rfl _
    · obtain ⟨u, hu, hrow⟩ := hlater rest hrest
      have hcomma : nextMember false (after ++ ',' :: (tail ++ rest)) = .ok (.item u) :=
        nextMember_later (hafter.skipBlank_cons rfl _) hu
      rw [readMembers_item hnext, hrun draft _ (.cons (by decide)), List.foldlM_cons]
      cases draft.add member with
      | error fault => rfl
      | ok draft => exact hrow draft false _ hcomma

/-! ### Objects -/

/-- The members of an object are read from behind its bracket. -/
theorem readMembers_enclosed (h : ObjectText members ('{' :: s))
    (hvalues : ∀ m ∈ members, IsValue m.2) (rest : List Char) :
    readMembers .empty true (s ++ rest) =
      (members.foldlM Draft.add .empty).map fun draft => (draft, rest) := by
  cases h with
  | @blanks s hs =>
    refine readMembers_finish (nextMember_close ?_)
    rw [List.append_assoc]
    exact hs.skipBlank_cons rfl _
  | @row _ s hrow =>
    obtain ⟨after, hafter, hread⟩ := readMembers_row hrow hvalues
    obtain ⟨u, hu, hrun⟩ := hread ('}' :: rest) (.cons (by decide))
    have hclose : ∀ draft, readMembers draft false (after ++ '}' :: rest) = .ok (draft, rest) := by
      intro draft
      exact readMembers_finish (nextMember_close (hafter.skipBlank_cons rfl _))
    rw [List.append_assoc, List.singleton_append, hrun .empty true _ (nextMember_first hu)]
    cases members.foldlM Draft.add Draft.empty with
    | error fault => rfl
    | ok draft => exact hclose draft

/-- A text that is an object or a list, blanks around it apart. -/
theorem parse_padded {result : Except Fault Draft} {core : List Char} (h : Padded core s)
    (hcore : ∀ rest, skipBlank (core ++ rest) = core ++ rest ∧
      readDraft (core ++ rest) = result.map fun draft => (draft, rest)) :
    parse s = result.map Draft.config := by
  obtain ⟨before, after, hbefore, hafter, rfl⟩ := h
  obtain ⟨hself, hread⟩ := hcore after
  have hpadded : readDraft (before ++ (core ++ after)) = readDraft (core ++ after) := by
    rw [readDraft, readDraft, skipBlank_append hbefore]
  have hend : skipBlank after = [] := by
    have hblank := skipBlank_append hafter []
    rwa [List.append_nil] at hblank
  rw [parse, hpadded, hread]
  cases result with
  | error fault => rfl
  | ok draft => simp only [Except.map, hend, if_true]

/-- **An object** is read as what its members add to nothing. -/
theorem parse_object {core : List Char} (h : ObjectText members core) (hs : Padded core s)
    (hvalues : ∀ m ∈ members, IsValue m.2) :
    parse s = (members.foldlM Draft.add .empty).map Draft.config := by
  refine parse_padded hs fun rest => ?_
  obtain ⟨inner, rfl⟩ := h.eq_cons
  have hself : skipBlank ('{' :: (inner ++ ['}']) ++ rest) = '{' :: (inner ++ ['}']) ++ rest :=
    skipBlank_cons_of_not_blank rfl
  refine ⟨hself, ?_⟩
  rw [readDraft, hself]
  exact readMembers_enclosed h hvalues rest

/-! ### Looking values up -/

/-- What comes of the value of a name, among some members. -/
def valueOf? (reader : Reader α) (name : String) (members : List (String × List Char)) :
    Option α :=
  (members.lookup name).bind fun v => (outcome reader v).toOption

/-- No known name comes twice. -/
def KnownOnce (members : List (String × List Char)) : Prop :=
  members.Pairwise fun m n => m.1 ∈ fieldNames → m.1 ≠ n.1

/-- The value of the member, if it is a known one, is accepted by its reader. -/
structure Accepted (member : String × List Char) : Prop where
  interface : member.1 = "interface" → ∃ a, outcome optionalText member.2 = .ok a
  families : member.1 = "families" → ∃ a, outcome (array family) member.2 = .ok a
  routes : member.1 = "routes" → ∃ a, outcome (array route) member.2 = .ok a

/-- Whether a known name has been read. -/
def Draft.has (draft : Draft) (name : String) : Prop :=
  (name = "interface" ∧ draft.interface ≠ none) ∨ (name = "families" ∧ draft.families ≠ none) ∨
    (name = "routes" ∧ draft.routes ≠ none)

/-- What has been read, and behind it the values of some members. -/
def Draft.filled (draft : Draft) (members : List (String × List Char)) : Draft where
  interface := draft.interface.or (valueOf? optionalText "interface" members)
  families := draft.families.or (valueOf? (array family) "families" members)
  routes := draft.routes.or (valueOf? (array route) "routes" members)

theorem valueOf?_cons_of_ne {reader : Reader α} (h : member.1 ≠ name) :
    valueOf? reader name (member :: later) = valueOf? reader name later := by
  obtain ⟨n, v⟩ := member
  have hname : (name == n) = false := beq_eq_false_iff_ne.2 (Ne.symm h)
  simp only [valueOf?, List.lookup_cons, hname]

theorem valueOf?_cons_self {reader : Reader α} {a : α} (h : outcome reader v = .ok a) :
    valueOf? reader name ((name, v) :: later) = some a := by
  simp [valueOf?, h, Except.toOption]

@[simp] theorem Draft.filled_nil : draft.filled [] = draft := by
  simp [Draft.filled, valueOf?]

section Known

/-! A known member adds its value where none has been read. -/

theorem Draft.add_interface (h : draft.interface = none) :
    draft.add ("interface", v) =
      (outcome optionalText v).map fun value => { draft with interface := some value } := by
  simp [Draft.add, Draft.addKnown, h]

theorem Draft.add_families (h : draft.families = none) :
    draft.add ("families", v) =
      (outcome (array family) v).map fun value => { draft with families := some value } := by
  simp [Draft.add, Draft.addKnown, h]

theorem Draft.add_routes (h : draft.routes = none) :
    draft.add ("routes", v) =
      (outcome (array route) v).map fun value => { draft with routes := some value } := by
  simp [Draft.add, Draft.addKnown, h]

end Known

/-- An accepted member that has not come before adds its value. -/
theorem Draft.add_accepted (haccepted : Accepted member) (hfresh : ¬draft.has member.1) :
    ∃ draft', draft.add member = .ok draft' ∧
      (∀ later, draft'.filled later = draft.filled (member :: later)) ∧
      ∀ name, draft'.has name → draft.has name ∨ (name ∈ fieldNames ∧ member.1 = name) := by
  obtain ⟨name, v⟩ := member
  simp only [Draft.has, not_or, not_and, Classical.not_not] at hfresh
  by_cases hinterface : name = "interface"
  · subst hinterface
    have hnone : draft.interface = none := hfresh.1 rfl
    obtain ⟨a, ha⟩ := haccepted.interface rfl
    refine ⟨{ draft with interface := some a }, ?_, fun later => ?_, fun name hname => ?_⟩
    · rw [Draft.add_interface hnone, ha]
      rfl
    · simp [Draft.filled, hnone, valueOf?_cons_self ha, valueOf?_cons_of_ne]
    · rcases hname with ⟨rfl, -⟩ | h | h
      · exact .inr ⟨by decide, rfl⟩
      · exact .inl (.inr (.inl h))
      · exact .inl (.inr (.inr h))
  by_cases hfamilies : name = "families"
  · subst hfamilies
    have hnone : draft.families = none := hfresh.2.1 rfl
    obtain ⟨a, ha⟩ := haccepted.families rfl
    refine ⟨{ draft with families := some a }, ?_, fun later => ?_, fun name hname => ?_⟩
    · rw [Draft.add_families hnone, ha]
      rfl
    · simp [Draft.filled, hnone, valueOf?_cons_self ha, valueOf?_cons_of_ne]
    · rcases hname with h | ⟨rfl, -⟩ | h
      · exact .inl (.inl h)
      · exact .inr ⟨by decide, rfl⟩
      · exact .inl (.inr (.inr h))
  by_cases hroutes : name = "routes"
  · subst hroutes
    have hnone : draft.routes = none := hfresh.2.2 rfl
    obtain ⟨a, ha⟩ := haccepted.routes rfl
    refine ⟨{ draft with routes := some a }, ?_, fun later => ?_, fun name hname => ?_⟩
    · rw [Draft.add_routes hnone, ha]
      rfl
    · simp [Draft.filled, hnone, valueOf?_cons_self ha, valueOf?_cons_of_ne]
    · rcases hname with h | h | ⟨rfl, -⟩
      · exact .inl (.inl h)
      · exact .inl (.inr (.inl h))
      · exact .inr ⟨by decide, rfl⟩
  · refine ⟨draft, ?_, fun later => ?_, fun name hname => .inl hname⟩
    · simp [Draft.add, hinterface, hfamilies, hroutes]
    · simp [Draft.filled, valueOf?_cons_of_ne, hinterface, hfamilies, hroutes]

/-- **Accepted members** of which no known one comes twice fill what has not been read. -/
theorem foldlM_add (honce : KnownOnce members) (haccepted : ∀ m ∈ members, Accepted m)
    (hfresh : ∀ m ∈ members, ¬draft.has m.1) :
    members.foldlM Draft.add draft = .ok (draft.filled members) := by
  induction members generalizing draft with
  | nil => simp [pure, Except.pure]
  | cons m later ih =>
    obtain ⟨hm, hlater⟩ := List.pairwise_cons.1 honce
    obtain ⟨draft', hadd, hfilled, hhas⟩ :=
      Draft.add_accepted (haccepted m List.mem_cons_self) (hfresh m List.mem_cons_self)
    rw [List.foldlM_cons, hadd, ← hfilled later]
    refine ih hlater (fun n hn => haccepted n (List.mem_cons_of_mem m hn)) fun n hn hcame => ?_
    obtain hbefore | ⟨hknown, hname⟩ := hhas _ hcame
    · exact hfresh n (List.mem_cons_of_mem m hn) hbefore
    · exact hm n hn (hname ▸ hknown) hname

theorem valueOf?_ne_none {reader : Reader α}
    (haccepted : ∀ m ∈ members, m.1 = name → ∃ a, outcome reader m.2 = .ok a)
    (hmem : name ∈ members.map Prod.fst) : valueOf? reader name members ≠ none := by
  induction members with
  | nil => cases hmem
  | cons m later ih =>
    by_cases hname : m.1 = name
    · obtain ⟨a, ha⟩ := haccepted m List.mem_cons_self hname
      obtain ⟨n, v⟩ := m
      subst hname
      rw [valueOf?_cons_self ha]
      exact nofun
    · rw [valueOf?_cons_of_ne hname]
      refine ih (fun n hn => haccepted n (List.mem_cons_of_mem m hn)) ?_
      exact (List.mem_cons.1 hmem).resolve_left (Ne.symm hname)

/-- A known name has been read once an accepted member of that name has added its value. -/
theorem Draft.has_filled (haccepted : ∀ m ∈ members, Accepted m) (hname : name ∈ fieldNames)
    (hmem : name ∈ members.map Prod.fst) : (draft.filled members).has name := by
  simp only [fieldNames, List.mem_cons, List.not_mem_nil, or_false] at hname
  rcases hname with rfl | rfl | rfl
  · have hvalue := valueOf?_ne_none (fun m hm => (haccepted m hm).interface) hmem
    exact .inl ⟨rfl, by simp [Draft.filled, Option.or_eq_none_iff, hvalue]⟩
  · have hvalue := valueOf?_ne_none (fun m hm => (haccepted m hm).families) hmem
    exact .inr (.inl ⟨rfl, by simp [Draft.filled, Option.or_eq_none_iff, hvalue]⟩)
  · have hvalue := valueOf?_ne_none (fun m hm => (haccepted m hm).routes) hmem
    exact .inr (.inr ⟨rfl, by simp [Draft.filled, Option.or_eq_none_iff, hvalue]⟩)

end Tunnel.Config
