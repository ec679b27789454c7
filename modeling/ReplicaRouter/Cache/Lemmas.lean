import ReplicaRouter.Cache
/-
What every operation on the entries of an expiring cache does to the look-up of a key, and when an
entry counts as expired. Main statements: `cached?_insert`, `cached?_erase`, `cached?_touch`.
-/
namespace ReplicaRouter

/-! ## Entries of a list -/

section Lookup

variable {K A : Type} [DecidableEq K]

theorem lookup_map_replace (k j : K) (a : A) (l : List (K × A)) :
    (l.map fun entry => if entry.1 = k then (k, a) else entry).lookup j =
      if j = k then (l.lookup k).map fun _ => a else l.lookup j := by
  induction l with
  | nil => by_cases h : j = k <;> simp [h]
  | cons entry rest ih =>
    obtain ⟨i, b⟩ := entry
    by_cases hi : i = k
    · subst hi
      by_cases hj : j = i
      · subst hj; simp
      · have hb : (j == i) = false := by simp [hj]
        simp [List.lookup_cons, hb, ih, hj]
    · by_cases hj : j = i
      · subst hj; simp [hi]
      · have hb : (j == i) = false := by simp [hj]
        have hk : (k == i) = false := by simp [Ne.symm hi]
        simp [List.lookup_cons, hi, hb, hk, ih]

theorem lookup_append_new (k j : K) (a : A) (l : List (K × A)) (h : l.lookup k = none) :
    (l ++ [(k, a)]).lookup j = if j = k then some a else l.lookup j := by
  induction l with
  | nil =>
    by_cases hj : j = k
    · simp [hj]
    · have hb : (j == k) = false := by simp [hj]
      simp [List.lookup_cons, hj, hb]
  | cons entry rest ih =>
    obtain ⟨i, b⟩ := entry
    by_cases hk : k = i
    · subst hk; simp at h
    · have hb : (k == i) = false := by simp [hk]
      simp only [List.lookup_cons, hb] at h
      by_cases hj : j = i
      · subst hj; simp [Ne.symm hk]
      · have hc : (j == i) = false := by simp [hj]
        simp only [List.cons_append, List.lookup_cons, hc, ih h]

theorem lookup_filter_ne (k j : K) (l : List (K × A)) :
    (l.filter fun entry => entry.1 ≠ k).lookup j = if j = k then none else l.lookup j := by
  induction l with
  | nil => by_cases h : j = k <;> simp [h]
  | cons entry rest ih =>
    obtain ⟨i, b⟩ := entry
    by_cases hi : i = k
    · subst hi
      by_cases hj : j = i
      · subst hj; simpa [List.lookup_cons] using ih
      · have hb : (j == i) = false := by simp [hj]
        simpa [List.lookup_cons, hb, hj] using ih
    · by_cases hj : j = i
      · subst hj; simp [hi]
      · have hb : (j == i) = false := by simp [hj]
        simpa [List.lookup_cons, hi, hb] using ih

end Lookup

namespace Cache

variable {K V : Type} [DecidableEq K]

/-! ## Looking up after a change -/

theorem contains_eq_false_iff {k : K} {c : Cache K V} : c.contains k = false ↔ c.cached? k = none := by
  simp [contains]

/-- An inserted entry is found under its key, and no other key is affected. -/
theorem cached?_insert (k j : K) (e : Cached V) (c : Cache K V) :
    (c.insert k e).cached? j = if j = k then some e else c.cached? j := by
  by_cases h : c.contains k = true
  · have hs : ∃ old, c.entries.lookup k = some old := Option.isSome_iff_exists.1 h
    obtain ⟨old, hold⟩ := hs
    simp [insert, h, replaceEntry, cached?, lookup_map_replace, hold]
  · have hn : c.entries.lookup k = none := contains_eq_false_iff.1 (by simpa using h)
    simp [insert, h, cached?, lookup_append_new, hn]

/-- An erased key has no entry, and no other key is affected. -/
theorem cached?_erase (k j : K) (c : Cache K V) :
    (c.erase k).cached? j = if j = k then none else c.cached? j := by
  simpa [erase, cached?] using lookup_filter_ne k j c.entries

/-- A look-up changes the last access of its key and nothing else. -/
theorem cached?_touch (k j : K) (now : Instant) (c : Cache K V) :
    (c.touch k now).cached? j = if j = k then (c.cached? k).map (·.touch now) else c.cached? j := by
  unfold touch
  cases h : c.cached? k with
  | none => by_cases hj : j = k <;> simp [hj, h]
  | some e =>
    have hl : c.entries.lookup k = some e := h
    simp [replaceEntry, cached?, lookup_map_replace, hl]

end Cache

namespace Cached

variable {V : Type}

/-- An entry is not expired at the time of a look-up. -/
theorem isExpired_touch (now : Instant) (expiration : Duration) (e : Cached V) :
    (e.touch now).isExpired now expiration = false := by
  have h : now - max e.lastAccess now = 0 := Nat.sub_eq_zero_of_le (Nat.le_max_right _ _)
  simp [isExpired, touch, h]

end Cached

end ReplicaRouter
