import Tunnel.Config.Writer
import Tunnel.Proofs.Json.Quoting
import Tunnel.Proofs.Route.PrefixGrammar

/-!
# Route prefixes and their texts

A route prefix is had back from its text, also through a string and through a JSON string. So a text
that is read says no more than the text that the prefix is written as, and two of them mean the same
prefix exactly when they are written alike.

## Main definitions

* `RoutePrefix.ReadBack` — the ways in which a prefix is had back
* `RoutePrefix.Accepted` — what a prefix keeps of the text that it was read from

## Main results

* `RoutePrefix.parse_render` — a prefix is read from its text
* `RoutePrefix.parse_eq_ok_iff` — which texts are read, and as what
* `RoutePrefix.toText_injective` — prefixes are told apart by their texts
* `RoutePrefix.text_faithful` — texts and prefixes correspond
-/

namespace Tunnel

namespace RoutePrefix

variable {p q : RoutePrefix} {s : List Char} {n : Nat}

/-! ### Reading back -/

theorem denotes_render (p : RoutePrefix) : Denotes p.render p :=
  .sized p.address.spelled_render
    (lengthText_iff.2 (.inl (Text.spells_toDigits (by decide) (by decide) p.length))) p.length_le

/-- **A prefix is read from its text.** -/
theorem parse_render (p : RoutePrefix) : parse p.render = .ok p := p.denotes_render.parse_eq

theorem ofText_toText (p : RoutePrefix) : ofText p.toText = .ok p := p.denotes_render.ofText_eq

theorem readDocument_renderJson (p : RoutePrefix) :
    Json.readDocument Config.route p.renderJson = .ok p := by
  have hrun : Config.route.run (Json.quoted p.render ++ []) = .ok (p, []) := by
    refine Json.readChecked_quoted ?_ []
    exact congrArg (Except.mapError Error.message) p.ofText_toText
  rw [List.append_nil] at hrun
  simp [Json.readDocument, renderJson, hrun]

/-- Prefixes are told apart by their texts. -/
theorem toText_injective (h : p.toText = q.toText) : p = q :=
  Except.ok.inj (by rw [← ofText_toText p, h, ofText_toText])

/-! ### What is read -/

/-- What a prefix keeps of the text that it was read from: the address as it was given, with all its
bits, and the length that was given or, without one, the width of the address. -/
structure Accepted (text : List Char) (p : RoutePrefix) : Prop where
  address : Address.parse? (splitAtSlash (Text.trim text)).1 = some p.address
  length : match (splitAtSlash (Text.trim text)).2 with
    | none => p.length = p.address.width
    | some digits => parseLength? digits = some p.length

/-- **Which texts are read, and as what.** -/
theorem parse_eq_ok_iff : parse s = .ok p ↔ Accepted s p := by
  rw [parse]
  constructor
  · intro h
    simp only [parseTrimmed] at h
    split at h
    · cases h
    · next address haddress =>
      split at h
      · next hlength =>
        cases h
        exact ⟨haddress, by rw [hlength]; rfl⟩
      · next digits hlength =>
        split at h
        · cases h
        · next length hdigits =>
          obtain ⟨rfl, rfl⟩ := ofLength_eq_ok_iff.1 h
          exact ⟨haddress, by rw [hlength]; exact hdigits⟩
  · rintro ⟨haddress, hlength⟩
    cases hparts : (splitAtSlash (Text.trim s)).2 with
    | none =>
      rw [hparts] at hlength
      have hhost : p = host p.address := isHost_iff.1 (by simp [isHost, hlength])
      simp only [parseTrimmed, haddress, hparts]
      rw [← hhost]
    | some digits =>
      rw [hparts] at hlength
      have hdigits : parseLength? digits = some p.length := hlength
      simp only [parseTrimmed, haddress, hparts, hdigits, ofLength_address_length]

theorem ofText_eq_ok_iff {text : String} : ofText text = .ok p ↔ Accepted text.toList p := by
  rw [ofText_eq_ok_iff_denotes, ← parseTrimmed_eq_ok_iff]
  exact parse_eq_ok_iff

/-! ### Texts and prefixes -/

/-- The ways in which a prefix is had back from its text, and how that text is laid out. -/
structure ReadBack (p : RoutePrefix) : Prop where
  /-- The address stands before the slash in the one text that it has, the length after it in
  decimal. -/
  layout : ∀ text, p.toText = String.ofList (text ++ '/' :: Text.decimalDigits p.length) ↔
    p.address.Written text
  parse : parse p.render = .ok p
  ofText : ofText p.toText = .ok p
  /-- The JSON string that is written for the prefix is a document that reads as the prefix. -/
  json : Json.readDocument Config.route p.renderJson = .ok p

theorem readBack (p : RoutePrefix) : ReadBack p where
  layout text := by
    rw [Address.written_iff, toText, render, String.ofList_inj, List.append_cancel_right_eq,
      eq_comm]
  parse := p.parse_render
  ofText := p.ofText_toText
  json := p.readDocument_renderJson

/-- **Texts and prefixes correspond.** Every prefix is had back from its text, which tells it apart
from every other prefix. A text that is read is read with all the bits of its address, and the text
of what was read reads the same; two of them mean the same prefix exactly when these texts are
equal. An IPv6 prefix that stands for an IPv4 address is none in IPv4. -/
theorem text_faithful :
    (∀ p : RoutePrefix, ReadBack p) ∧
    (∀ p q : RoutePrefix, p.toText = q.toText → p = q) ∧
    (∀ (s : String) (p : RoutePrefix), RoutePrefix.ofText s = .ok p →
      Accepted s.toList p ∧ RoutePrefix.ofText p.toText = RoutePrefix.ofText s) ∧
    (∀ (s t : String) (p q : RoutePrefix), RoutePrefix.ofText s = .ok p →
      RoutePrefix.ofText t = .ok q → (p = q ↔ p.toText = q.toText)) ∧
    (∀ (v4 : Ipv4) (n : Nat) (hn : n ≤ 128), RoutePrefix.ofText (String.ofList
      ("::ffff:".toList ++ v4.render ++ '/' :: Text.decimalDigits n)) =
        .ok ⟨.v6 v4.mapped, n, hn⟩) ∧
    ∀ (v4 b : Ipv4) (p q : RoutePrefix), p.address = .v6 v4.mapped → q.address = .v4 b →
      p ≠ q ∧ p.toText ≠ q.toText := by
  refine ⟨readBack, fun _ _ => toText_injective, ?_, ?_, ?_, ?_⟩
  · intro s p h
    exact ⟨ofText_eq_ok_iff.1 h, p.ofText_toText.trans h.symm⟩
  · intro s t p q _ _
    exact ⟨congrArg toText, toText_injective⟩
  · intro v4 n hn
    have htext : (⟨.v6 v4.mapped, n, hn⟩ : RoutePrefix).toText = String.ofList
        ("::ffff:".toList ++ v4.render ++ '/' :: Text.decimalDigits n) :=
      ((readBack _).layout _).2 (.groups (.mapped rfl))
    rw [← htext, ofText_toText]
  · intro v4 b p q hp hq
    have hne : p ≠ q := by
      rintro rfl
      cases hp.symm.trans hq
    exact ⟨hne, fun h => hne (toText_injective h)⟩

end RoutePrefix

end Tunnel
