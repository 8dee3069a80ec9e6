import Tunnel.Proofs.Config.Forms
import Tunnel.Proofs.Directory
import Tunnel.Proofs.Route.PrefixText
import Tunnel.Proofs.Traversal

/-!
# Configurations that are written and read back

A configuration is read from the text that is written for it, in either layout, whatever its name
holds and however its lists are filled. The writer leaves out a name that is missing, and the reader
takes a missing member for its standard value: the two fit because an empty list of families is
written and read as an empty list, not as a missing one. So a configuration that was saved is loaded
as it was, unless no session is possible by it; then the fault is that of validation.

## Main results

* `Config.sound_members`, `Config.ofMembers_members` — the written members are of use, and their
  values are those of the configuration
* `Config.ofText_toText` — a configuration is read from its text
* `Config.load_save` — and from the file in which it was saved
-/

namespace Tunnel

open Json

/-! ### Written values -/

theorem Json.outcome_optionalText_quoted (name : String) :
    outcome optionalText (quoted name.toList) = .ok (some name) := by
  have hread : readText (quoted name.toList) = .ok (name, []) := by
    have hquoted := readText_quoted name.toList []
    rwa [List.append_nil, String.ofList_toList] at hquoted
  have hoptional : readOptionalText (quoted name.toList) =
      (readText (quoted name.toList)).map fun read => (some read.1, read.2) := by
    simp [readOptionalText, quoted, skipBlank, isBlank]
  simp only [outcome, optionalText, hoptional, hread, Except.map]

theorem AddressFamily.outcome_renderJson (family : AddressFamily) :
    outcome Config.family family.renderJson = .ok family := by
  have hname : readString (family.name.toList.flatMap escaped ++ '"' :: []) =
      .ok (family.name, []) := readString_spells (spells_flatMap_escaped _) []
  have hfind : AddressFamily.choices.find? family.name = some family :=
    AddressFamily.ofName?_eq_some_iff.2 rfl
  have hread : AddressFamily.choices.read family.renderJson = .ok (family, []) := by
    have hblank : skipBlank family.renderJson =
        '"' :: (family.name.toList.flatMap escaped ++ '"' :: []) :=
      skipBlank_cons_of_not_blank rfl
    simp only [Choice.read, hblank, Choice.readName, hname, hfind]
  simp only [outcome, Config.family, choice, hread, Except.map]

theorem RoutePrefix.outcome_renderJson (p : RoutePrefix) :
    outcome Config.route p.renderJson = .ok p := by
  have hread : readChecked (fun text => (RoutePrefix.ofText text).mapError Error.message)
      (quoted p.render ++ []) = .ok (p, []) := by
    refine readChecked_quoted ?_ []
    exact congrArg (Except.mapError Error.message) p.ofText_toText
  rw [List.append_nil] at hread
  simp only [outcome, Config.route, checkedText, renderJson, hread, Except.map]

/-- What comes of written values one by one comes of them all. -/
theorem Json.mapM_outcome {α : Type} {reader : Reader α} {f : α → List Char}
    (h : ∀ a, outcome reader (f a) = .ok a) (values : List α) :
    (values.map f).mapM (outcome reader) = .ok values := by
  rw [List.mapM_eq_ok_iff, List.forall₂_map_left_iff, List.forall₂_same]
  exact fun a _ => h a

/-- What comes of a written list of written values. -/
theorem Json.outcome_list {α : Type} {reader : Reader α} (hreader : Settles reader)
    {f : α → List Char} (hvalue : ∀ a, IsValue (f a)) (h : ∀ a, outcome reader (f a) = .ok a)
    (layout : Layout) (depth : Nat) (values : List α) :
    outcome (array reader) (layout.list depth (values.map f)) = .ok values := by
  rw [outcome_array hreader (listText_list layout depth _), mapM_outcome h]
  intro item hitem
  obtain ⟨a, -, rfl⟩ := List.mem_map.1 hitem
  exact hvalue a

namespace Config

variable (layout : Layout) (config : Config)

theorem outcome_families : outcome (array family)
    (layout.list 1 (config.families.map AddressFamily.renderJson)) = .ok config.families :=
  outcome_list (settles_choice _) (fun _ => isValue_quoted _)
    AddressFamily.outcome_renderJson layout 1 config.families

theorem outcome_routes : outcome (array route)
    (layout.list 1 (config.routes.map RoutePrefix.renderJson)) = .ok config.routes :=
  outcome_list (settles_checkedText _) (fun _ => isValue_quoted _)
    RoutePrefix.outcome_renderJson layout 1 config.routes

/-! ### Written members -/

theorem isValue_renderJson {α : Type} {f : α → List Char} (h : ∀ a, IsValue (f a)) (depth : Nat)
    (values : List α) : IsValue (layout.list depth (values.map f)) := by
  refine isValue_list layout depth fun item hitem => ?_
  obtain ⟨a, -, rfl⟩ := List.mem_map.1 hitem
  exact h a

/-- **The written members** are of use. -/
theorem sound_members : Sound (config.members layout) := by
  have hfamilies : Accepted ("families",
      layout.list 1 (config.families.map AddressFamily.renderJson)) :=
    ⟨by simp, fun _ => ⟨_, outcome_families layout config⟩, by simp⟩
  have hroutes : Accepted ("routes", layout.list 1 (config.routes.map RoutePrefix.renderJson)) :=
    ⟨by simp, by simp, fun _ => ⟨_, outcome_routes layout config⟩⟩
  have hlists : IsValue (layout.list 1 (config.families.map AddressFamily.renderJson)) ∧
      IsValue (layout.list 1 (config.routes.map RoutePrefix.renderJson)) :=
    ⟨isValue_renderJson layout (fun _ => isValue_quoted _) 1 _,
      isValue_renderJson layout (fun _ => isValue_quoted _) 1 _⟩
  obtain ⟨interface, families, routes⟩ := config
  cases interface with
  | none =>
    refine ⟨?_, ?_, ?_⟩
    · simp only [members, Option.map_none, Option.toList_none, List.nil_append,
        List.forall_mem_cons]
      exact ⟨hlists.1, hlists.2, nofun⟩
    · simp [KnownOnce, members]
    · simp only [members, Option.map_none, Option.toList_none, List.nil_append,
        List.forall_mem_cons]
      exact ⟨hfamilies, hroutes, nofun⟩
  | some name =>
    have hname : Accepted ("interface", quoted name.toList) :=
      ⟨fun _ => ⟨_, outcome_optionalText_quoted name⟩, by simp, by simp⟩
    refine ⟨?_, ?_, ?_⟩
    · simp only [members, Option.map_some, Option.toList_some, List.singleton_append,
        List.forall_mem_cons]
      exact ⟨isValue_quoted _, hlists.1, hlists.2, nofun⟩
    · simp [KnownOnce, members]
    · simp only [members, Option.map_some, Option.toList_some, List.singleton_append,
        List.forall_mem_cons]
      exact ⟨hname, hfamilies, hroutes, nofun⟩

/-- The values of the written members are those of the configuration. -/
theorem ofMembers_members : ofMembers (config.members layout) = config := by
  have hfamilies := outcome_families layout config
  have hroutes := outcome_routes layout config
  obtain ⟨interface, families, routes⟩ := config
  cases interface with
  | none =>
    simp only at hfamilies hroutes
    simp [ofMembers, valueOf?, members, List.lookup_cons, hfamilies, hroutes, Except.toOption]
  | some name =>
    simp only at hfamilies hroutes
    simp [ofMembers, valueOf?, members, List.lookup_cons, hfamilies, hroutes, Except.toOption,
      outcome_optionalText_quoted]

/-! ### Texts and files -/

/-- **A configuration is read from its text**, in either layout. -/
theorem ofText_toText : ofText (config.toText layout) = .ok config := by
  have hobject : IsObject (config.members layout) (config.render layout) :=
    ⟨_, objectText_object layout 0 _, [], [], .nil, .nil, (List.append_nil _).symm⟩
  rw [ofText, toText, String.toList_ofList, parse_sound (sound_members layout config) hobject,
    ofMembers_members]

/-- **A configuration that was saved** is loaded as it was if a session is possible by it, and else
its loading fails as its validation does. In between stands its text, from which it is always
read. -/
theorem load_save :
    ofText (config.toText .pretty) = .ok config ∧
    ∀ directory path after, config.save directory path = .ok after →
      (load after path = .ok config ↔ config.validate = .ok ()) ∧
      ∀ invalid, config.validate = .error invalid →
        load after path = .error (.ofCause invalid.cause) := by
  refine ⟨ofText_toText .pretty config, fun directory path after h => ?_⟩
  have hwritten : directory.writeText path (config.toText .pretty) = .ok after := by
    rw [save] at h
    cases hwrite : directory.writeText path (config.toText .pretty) with
    | error fault =>
      rw [hwrite] at h
      cases h
    | ok written =>
      rw [hwrite] at h
      cases h
      rfl
  have hload : load after path = ofFileText path (config.toText .pretty) :=
    congrArg (ofFile path) (Directory.readText_writeText hwritten)
  simp only [hload, ofFileText, ofText_toText]
  cases config.validate with
  | error invalid =>
    refine ⟨⟨nofun, nofun⟩, fun other hother => ?_⟩
    cases hother
    rfl
  | ok => exact ⟨⟨fun _ => rfl, fun _ => rfl⟩, nofun⟩

/-- A configuration with a name that is written with escapes, a family that comes twice, and routes
with bits beyond their lengths. -/
def quoting : Config where
  interface := some "tun\"0\\"
  families := [.ipv6, .ipv6]
  routes := [⟨.v4 ⟨10, 1, 2, 3⟩, 8, by decide⟩, ⟨.v6 ⟨[0, 0, 0, 0, 0, 0, 0, 1], rfl⟩, 0, by decide⟩]

/-- It is loaded as it was saved. With a line feed in the name, or without families, it is saved as
well, and refused when it is loaded. -/
theorem load_save_quoting :
    (∃ after, quoting.save .empty "tunnel.json" = .ok after ∧
      load after "tunnel.json" = .ok quoting) ∧
    (∃ after, save { quoting with interface := some "tun\n0" } .empty "tunnel.json" = .ok after ∧
      load after "tunnel.json" = .error (.ofCause (Invalid.badName "tun\n0").cause)) ∧
    ∃ after, save { quoting with families := [] } .empty "tunnel.json" = .ok after ∧
      load after "tunnel.json" = .error (.ofCause Invalid.noFamily.cause) := by
  have hsave : ∀ config : Config, ∃ after, config.save .empty "tunnel.json" = .ok after :=
    fun _ => ⟨_, rfl⟩
  refine ⟨?_, ?_, ?_⟩
  · obtain ⟨after, hafter⟩ := hsave quoting
    exact ⟨after, hafter, ((load_save quoting).2 _ _ _ hafter).1.2 rfl⟩
  · obtain ⟨after, hafter⟩ := hsave { quoting with interface := some "tun\n0" }
    exact ⟨after, hafter, ((load_save _).2 _ _ _ hafter).2 _ rfl⟩
  · obtain ⟨after, hafter⟩ := hsave { quoting with families := [] }
    exact ⟨after, hafter, ((load_save _).2 _ _ _ hafter).2 _ rfl⟩

end Config

end Tunnel
