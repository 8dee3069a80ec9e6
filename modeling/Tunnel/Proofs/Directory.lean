import Tunnel.Config.File
import Tunnel.Proofs.Lookup

/-!
# What is written is read back

A file that was written is there under the same path, with the octets that were written. The entry
that a write adds is a file where no directory was, so it is not on the way to any place that was
reached before; and a text is given back by its octets.

## Main results

* `Bytes.toText?_ofText` — a text is read from its octets
* `Directory.walk_put` — names that could be followed before a write lead to the same place after
* `Directory.read_write` — the octets that were written are read
* `Directory.readText_writeText` — and so is a text
-/

namespace Tunnel

/-! ### Texts and octets -/

/-- A text is read from its octets. -/
theorem Bytes.toText?_ofText (s : String) : toText? (ofText s) = some s := by
  have hoctets : (⟨(ofText s).toArray⟩ : ByteArray) = s.toByteArray := by
    rw [← String.ofList_toList (s := s), String.toByteArray_ofList, ofText, ofChars,
      String.toList_ofList, List.utf8Encode]
    ext1
    rw [List.data_toByteArray]
  rw [toText?, hoctets, String.fromUTF8?, dif_pos s.isValidUTF8]
  rfl

namespace Directory

variable {directory after : Directory} {way : List String} {entry : Entry} {place next : Place}
variable {name path text : String} {content : Bytes}

/-! ### Following names past a new entry -/

theorem find?_put_of_ne {other : List String} (h : other ≠ way) :
    (directory.put way entry).find? other = directory.find? other := by
  simp only [find?, put, List.lookup_cons, beq_eq_false_iff_ne.2 h, List.lookup_filter_of_ne h]

/-- One can go on from a place as before, unless it is the place of the new entry. -/
theorem stop?_put (hway : directory.find? way ≠ some .directory)
    (h : directory.stop? place = none) : (directory.put way entry).stop? place = none := by
  cases place with
  | outside => rfl
  | below other =>
    have hother : directory.find? other = some .directory := by
      simp only [stop?, entryAt?] at h
      split at h
      · cases h
      · cases h
      · assumption
    have hne : other ≠ way := by
      rintro rfl
      exact hway hother
    simp only [stop?, entryAt?, find?_put_of_ne hne, hother]

theorem step_put (hway : directory.find? way ≠ some .directory)
    (h : directory.step place name = .ok next) :
    (directory.put way entry).step place name = .ok next := by
  rw [step] at h
  split at h
  · cases h
  · next hstop => rw [step, stop?_put hway hstop, h]

/-- **Names that could be followed** lead to the same place past an entry where no directory was. -/
theorem walk_put (hway : directory.find? way ≠ some .directory) {names : List String}
    (h : directory.walk place names = .ok next) :
    (directory.put way entry).walk place names = .ok next := by
  induction names generalizing place with
  | nil => exact h
  | cons name names ih =>
    rw [walk, List.foldlM_cons] at h ⊢
    cases hstep : directory.step place name with
    | error code =>
      rw [hstep] at h
      cases h
    | ok middle =>
      rw [hstep] at h
      rw [step_put hway hstep]
      exact ih h

/-! ### Reading after writing -/

/-- What a write does: its path leads to where no directory is, and a file is put there. -/
theorem write_eq_ok (h : directory.write path content = .ok after) :
    ∃ way, directory.find? way ≠ some .directory ∧
      directory.resolve path = .ok (.below way, false) ∧
      after = directory.put way (.file content) := by
  rw [write] at h
  rw [resolve]
  split at h
  · cases h
  · next parts hsplit =>
    split at h
    · split at h <;> cases h
    · next hslash =>
      split at h
      · cases h
      · next place hwalk =>
        simp only [hwalk, Except.map, Bool.not_eq_true] at hslash ⊢
        cases place with
        | outside => cases h
        | below way =>
          rw [writeAt] at h
          split at h
          · cases h
          · next hway =>
            cases h
            exact ⟨way, hway, by rw [hslash], rfl⟩

theorem resolve_put {slash : Bool} (hway : directory.find? way ≠ some .directory)
    (h : directory.resolve path = .ok (place, slash)) :
    (directory.put way entry).resolve path = .ok (place, slash) := by
  rw [resolve] at h ⊢
  split at h
  · cases h
  · next parts hsplit =>
    cases hwalk : directory.walk parts.start parts.names with
    | error code =>
      rw [hwalk] at h
      cases h
    | ok last =>
      rw [hwalk] at h
      rw [walk_put hway hwalk, h]

/-- **The octets that were written are read.** -/
theorem read_write (h : directory.write path content = .ok after) :
    after.read path = .ok content := by
  obtain ⟨way, hway, hresolve, rfl⟩ := write_eq_ok h
  have hne : way ≠ [] := by
    rintro rfl
    exact hway rfl
  simp only [read, resolve_put hway hresolve, entryAt?, find_put_self hne, Bool.false_eq_true,
    if_false]

/-- **A text that was written is read.** -/
theorem readText_writeText (h : directory.writeText path text = .ok after) :
    after.readText path = .ok text := by
  rw [writeText] at h
  split at h
  · cases h
  · next hpath =>
    cases hwrite : directory.write path (Bytes.ofText text) with
    | error code =>
      rw [hwrite] at h
      cases h
    | ok written =>
      rw [hwrite] at h
      cases h
      simp only [readText, hpath, read_write hwrite, Bytes.toText?_ofText]

end Directory

end Tunnel
