/-!
# Looking up past what is taken out

Entries are kept in lists, each under a key, and taken out by their key: the descriptors that are
open, and the files of a directory. What is found under the other keys stays as it is.

## Main results

* `List.lookup_filter_of_ne` — an entry that is taken out changes nothing for other keys
-/

variable {α β : Type} [BEq α] [LawfulBEq α]

/-- An entry that is taken out changes nothing for other keys. -/
theorem List.lookup_filter_of_ne {key other : α} (h : key ≠ other) (entries : List (α × β)) :
    (entries.filter fun entry => entry.1 != other).lookup key = entries.lookup key := by
  induction entries with
  | nil => rfl
  | cons entry entries ih =>
    obtain ⟨k, value⟩ := entry
    by_cases hk : k = other
    · subst hk
      rw [List.filter_cons_of_neg (by simp), ih, List.lookup_cons, beq_eq_false_iff_ne.2 h]
    · rw [List.filter_cons_of_pos (by simpa using hk), List.lookup_cons, List.lookup_cons, ih]
