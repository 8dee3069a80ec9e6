import Mathlib.Data.List.Forall2

/-!
# Lists taken item by item

What comes of a list whose items are taken one after the other, where each of them may fail: all
their values, or the failure of the first that fails. Nothing behind that one has a part in it.

## Main results

* `List.mapM_eq_ok_iff` — every item has given its value
* `List.mapM_eq_error_iff` — an item has failed, and none before it
* `List.exists_mapM_eq_ok_iff` — none has failed
-/

variable {α β ε : Type} {f : α → Except ε β}

/-- Every item has given its value, in its place. -/
theorem List.mapM_eq_ok_iff {items : List α} {values : List β} :
    items.mapM f = .ok values ↔ Forall₂ (fun item value => f item = .ok value) items values := by
  induction items generalizing values with
  | nil =>
    rw [mapM_nil, forall₂_nil_left_iff]
    exact ⟨fun h => (Except.ok.inj h).symm, fun h => congrArg Except.ok h.symm⟩
  | cons item later ih =>
    rw [mapM_cons, forall₂_cons_left_iff]
    cases hitem : f item with
    | error e => exact ⟨nofun, fun ⟨_, _, h, _⟩ => nomatch h⟩
    | ok value =>
      cases hlater : later.mapM f with
      | error e =>
        refine ⟨nofun, fun ⟨_, rest, _, hrest, _⟩ => ?_⟩
        rw [ih.2 hrest] at hlater
        cases hlater
      | ok rest =>
        constructor
        · rintro h
          obtain rfl : value :: rest = values := Except.ok.inj h
          exact ⟨value, rest, rfl, ih.1 hlater, rfl⟩
        · rintro ⟨_, _, hvalue, hrest, rfl⟩
          cases hvalue
          obtain rfl := Except.ok.inj (hlater.symm.trans (ih.2 hrest))
          rfl

/-- An item has failed, and every item before it has given its value. -/
theorem List.mapM_eq_error_iff {items : List α} {e : ε} :
    items.mapM f = .error e ↔ ∃ before item after, items = before ++ item :: after ∧
      (∀ earlier ∈ before, ∃ value, f earlier = .ok value) ∧ f item = .error e := by
  induction items with
  | nil => exact ⟨nofun, fun ⟨before, _, _, h, _⟩ => by simp at h⟩
  | cons item later ih =>
    rw [mapM_cons]
    cases hitem : f item with
    | error cause =>
      show Except.error cause = Except.error e ↔ _
      constructor
      · intro h
        obtain rfl := Except.error.inj h
        exact ⟨[], item, later, rfl, forall_mem_nil _, hitem⟩
      · rintro ⟨before, bad, after, hitems, hbefore, hbad⟩
        cases before with
        | nil =>
          obtain ⟨rfl, -⟩ := cons.inj hitems
          exact congrArg _ (Except.error.inj (hitem.symm.trans hbad))
        | cons earlier before =>
          obtain ⟨rfl, -⟩ := cons.inj hitems
          obtain ⟨value, hvalue⟩ := hbefore _ mem_cons_self
          cases hitem.symm.trans hvalue
    | ok value =>
      have hrest : (later.mapM f >>= fun rest => pure (value :: rest)) = Except.error e ↔
          later.mapM f = .error e := by
        cases later.mapM f with
        | error cause => exact Iff.rfl
        | ok rest => exact ⟨nofun, nofun⟩
      refine hrest.trans (ih.trans ?_)
      constructor
      · rintro ⟨before, bad, after, rfl, hbefore, hbad⟩
        exact ⟨item :: before, bad, after, rfl, forall_mem_cons.2 ⟨⟨value, hitem⟩, hbefore⟩, hbad⟩
      · rintro ⟨before, bad, after, hitems, hbefore, hbad⟩
        cases before with
        | nil =>
          obtain ⟨rfl, -⟩ := cons.inj hitems
          cases hitem.symm.trans hbad
        | cons earlier before =>
          obtain ⟨-, rfl⟩ := cons.inj hitems
          exact ⟨before, bad, after, rfl, (forall_mem_cons.1 hbefore).2, hbad⟩

/-- A list gives its values when each of its items does. -/
theorem List.exists_mapM_eq_ok_iff {items : List α} :
    (∃ values, items.mapM f = .ok values) ↔ ∀ item ∈ items, ∃ value, f item = .ok value := by
  constructor
  · rintro ⟨values, h⟩
    induction mapM_eq_ok_iff.1 h with
    | nil => exact forall_mem_nil _
    | cons hitem hlater ih =>
      exact forall_mem_cons.2 ⟨⟨_, hitem⟩, ih (mapM_eq_ok_iff.2 hlater)⟩
  · intro h
    cases hitems : items.mapM f with
    | ok values => exact ⟨values, rfl⟩
    | error e =>
      obtain ⟨before, bad, after, rfl, -, hbad⟩ := mapM_eq_error_iff.1 hitems
      obtain ⟨value, hvalue⟩ := h bad (mem_append_right before mem_cons_self)
      cases hbad.symm.trans hvalue
