import Tunnel.Config.Basic
import Tunnel.Json.Typed

/-!
# Reading configurations

A configuration is an object whose members may come in any order, or a list of the three values in
the order interface, families, routes. What is missing takes its standard value. Members with other
names are passed over, and no member may come twice.

## Main definitions

* `Config.family`, `Config.route` — readers of the parts
* `Config.Draft` — what has been read of a configuration
* `Config.readMembers` — the members of the object form
* `Config.readElements` — the values of the list form
* `Config.parse` — a configuration that is the whole text
* `Json.Fault.error` — why there is none, as a failure

## Main results

* `Config.readNamed_length_lt` — reading a member shortens the text
-/

namespace Tunnel

open Json (Fault Reader Reading)

/-- The families by name. -/
def AddressFamily.choices : Json.Choice AddressFamily where
  names := [ipv4, ipv6, unrecognized].map name
  find? := ofName?

namespace Config

/-- The reader of address families. -/
def family : Reader AddressFamily := Json.choice AddressFamily.choices

/-- The reader of route prefixes. -/
def route : Reader RoutePrefix :=
  Json.checkedText fun text => (RoutePrefix.ofText text).mapError Error.message

/-- What has been read of a configuration so far. -/
structure Draft where
  interface : Option (Option String)
  families : Option (List AddressFamily)
  routes : Option (List RoutePrefix)

namespace Draft

/-- Nothing has been read. -/
def empty : Draft := ⟨none, none, none⟩

/-- The configuration, with the standard value for what is missing. -/
def config (draft : Draft) : Config :=
  ⟨draft.interface.getD none, draft.families.getD standardFamilies, draft.routes.getD []⟩

end Draft

/-! ### The object form -/

/-- The value of a known member: a colon, and what the reader takes. A member that was there before
is refused ahead of its colon. -/
def readValue {α : Type} (name : String) (known : Option α) (reader : Reader α)
    (update : α → Draft) (s : List Char) : Reading Draft :=
  if known.isSome then .error (.mismatch (.duplicateField name))
  else match Json.readColon s with
    | .error fault => .error fault
    | .ok rest => (reader.run rest).map fun (value, rest) => (update value, rest)

/-- The value of an unknown member, which is passed over. -/
def passValue (draft : Draft) (s : List Char) : Reading Draft :=
  match Json.readColon s with
  | .error fault => .error fault
  | .ok rest => (Json.skipValue rest).map fun rest => (draft, rest)

/-- What follows the name of a member. -/
def readMember (draft : Draft) (name : String) (s : List Char) : Reading Draft :=
  if name = "interface" then
    readValue name draft.interface Json.optionalText
      (fun value => { draft with interface := some value }) s
  else if name = "families" then
    readValue name draft.families (Json.array family)
      (fun value => { draft with families := some value }) s
  else if name = "routes" then
    readValue name draft.routes (Json.array route)
      (fun value => { draft with routes := some value }) s
  else passValue draft s

theorem readValue_length_lt {α : Type} {name : String} {known : Option α} {reader : Reader α}
    {update : α → Draft} {s rest : List Char} {draft : Draft}
    (h : readValue name known reader update s = .ok (draft, rest)) : rest.length < s.length := by
  rw [readValue] at h
  split at h
  · cases h
  · split at h
    · cases h
    · next after hcolon =>
      cases hvalue : reader.run after with
      | error fault => simp [hvalue, Except.map] at h
      | ok p =>
        simp only [hvalue, Except.map] at h
        rw [← Json.rest_eq_of_ok_eq h]
        exact Nat.lt_trans (reader.shrinks hvalue) (Json.readColon_length_lt hcolon)

theorem passValue_length_lt {draft draft' : Draft} {s rest : List Char}
    (h : passValue draft s = .ok (draft', rest)) : rest.length < s.length := by
  rw [passValue] at h
  split at h
  · cases h
  · next after hcolon =>
    cases hskip : Json.skipValue after with
    | error fault => simp [hskip, Except.map] at h
    | ok p =>
      simp only [hskip, Except.map] at h
      rw [← Json.rest_eq_of_ok_eq h]
      exact Nat.lt_trans (Json.skipValue_length_lt hskip) (Json.readColon_length_lt hcolon)

theorem readMember_length_lt {draft draft' : Draft} {name : String} {s rest : List Char}
    (h : readMember draft name s = .ok (draft', rest)) : rest.length < s.length := by
  rw [readMember] at h
  split at h
  · exact readValue_length_lt h
  · split at h
    · exact readValue_length_lt h
    · split at h
      · exact readValue_length_lt h
      · exact passValue_length_lt h

/-- The name of a member, behind its opening quote, and its value. -/
def readNamed (draft : Draft) (s : List Char) : Reading Draft :=
  match Json.readString s with
  | .error fault => .error fault
  | .ok (name, rest) => readMember draft name rest

theorem readNamed_length_lt {draft draft' : Draft} {s rest : List Char}
    (h : readNamed draft s = .ok (draft', rest)) : rest.length < s.length := by
  rw [readNamed] at h
  split at h
  · cases h
  · next hname => exact Nat.lt_trans (readMember_length_lt h) (Json.readString_length_lt hname)

theorem nextMember_item_length_lt {isFirst : Bool} {s t : List Char}
    (h : Json.nextMember isFirst s = .ok (.item t)) : t.length < s.length := by
  have hs := Json.length_skipBlank_le s
  rw [Json.nextMember] at h
  split at h
  · cases h
  · cases h
  · split at h
    · split at h
      · next hquote =>
        cases h
        rw [hquote, List.length_cons] at hs
        exact hs
      · cases h
    · split at h
      · next rest hcomma =>
        have hrest := Json.length_skipBlank_le rest
        rw [hcomma, List.length_cons] at hs
        split at h
        · cases h
        · next hquote =>
          cases h
          rw [hquote, List.length_cons] at hrest
          omega
        · cases h
        · cases h
      · cases h

/-- The members from where the text stands, up to the closing bracket, which is taken as well. -/
def readMembers (draft : Draft) (isFirst : Bool) (s : List Char) : Reading Draft :=
  match hnext : Json.nextMember isFirst s with
  | .error fault => .error fault
  | .ok (.finish rest) => .ok (draft, rest)
  | .ok (.item t) =>
    match hnamed : readNamed draft t with
    | .error fault => .error fault
    | .ok (draft, rest) =>
      have : rest.length < s.length :=
        Nat.lt_trans (readNamed_length_lt hnamed) (nextMember_item_length_lt hnext)
      readMembers draft false rest
termination_by s.length

/-! ### The list form -/

/-- The next value of a list, if there is one. Without one the text stays where it is. -/
def readElement {α : Type} (reader : Reader α) (isFirst : Bool) (s : List Char) :
    Reading (Option α) :=
  match Json.nextItem isFirst s with
  | .error fault => .error fault
  | .ok (.finish _) => .ok (none, s)
  | .ok (.item t) => (reader.run t).map fun (value, rest) => (some value, rest)

/-- The values of the list form, and the end of the list. -/
def readElements (s : List Char) : Reading Draft :=
  match readElement Json.optionalText true s with
  | .error fault => .error fault
  | .ok (interface, s) =>
    match readElement (Json.array family) interface.isNone s with
    | .error fault => .error fault
    | .ok (families, s) =>
      match readElement (Json.array route) families.isNone s with
      | .error fault => .error fault
      | .ok (routes, s) =>
        (Json.closeList s).map fun rest => (⟨interface, families, routes⟩, rest)

/-! ### Configurations -/

/-- A configuration in either form. -/
def readDraft (s : List Char) : Reading Draft :=
  match Json.skipBlank s with
  | [] => .error .endInValue
  | '[' :: rest => readElements rest
  | '{' :: rest => readMembers .empty true rest
  | t => .error (Json.wrongType "struct TunnelConfig" t)

/-- Reads a configuration that is the whole text. -/
def parse (s : List Char) : Except Fault Config :=
  match readDraft s with
  | .error fault => .error fault
  | .ok (draft, rest) =>
    if Json.skipBlank rest = [] then .ok draft.config else .error .trailingCharacters

/-- Reads a configuration from a string. -/
def ofText (s : String) : Except Fault Config := parse s.toList

end Config

/-- A fault of a text as a failure of the library. -/
def Json.Fault.error (fault : Fault) : Error := .config fault.text

end Tunnel
