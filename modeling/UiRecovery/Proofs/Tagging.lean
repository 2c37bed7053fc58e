import Mathlib.Data.List.Basic
import UiRecovery.Attribution
import UiRecovery.Proofs.Evidence

/-!
# What one tag changes

An attribution is read in two directions: the origins of a key
(`OrderedMap.tagsOf`) and the keys of an origin (`OrderedMap.taggedWith`).
This module says for both what `OrderedMap.tag` does to them, and that they
agree (`mem_taggedWith`).
-/

namespace UiRecovery

@[simp]
theorem OrderedSet.not_mem_empty {α : Type} (a : α) : a ∉ (∅ : OrderedSet α) :=
  List.not_mem_nil

namespace OrderedMap

variable {κ : Type} [DecidableEq κ]

theorem get?_tag (m : OrderedMap κ (OrderedSet Origin)) (k j : κ) (o : Origin) :
    (m.tag k o).get? j = if j = k then some (((m.get? k).getD ∅).insert o) else m.get? j :=
  get?_update m k j _

theorem mem_tagsOf {m : OrderedMap κ (OrderedSet Origin)} {k : κ} {o : Origin} :
    o ∈ m.tagsOf k ↔ ∃ s, m.get? k = some s ∧ o ∈ s := by
  unfold tagsOf
  cases m.get? k with
  | none => simp
  | some s => simp [OrderedSet.mem_def]

theorem tagsOf_tag_of_ne {m : OrderedMap κ (OrderedSet Origin)} {k j : κ} (hne : j ≠ k)
    (o : Origin) : (m.tag k o).tagsOf j = m.tagsOf j := by
  unfold tagsOf
  rw [get?_tag, if_neg hne]

theorem mem_tagsOf_tag {m : OrderedMap κ (OrderedSet Origin)} {k j : κ} {o o' : Origin} :
    o' ∈ (m.tag k o).tagsOf j ↔ o' ∈ m.tagsOf j ∨ j = k ∧ o' = o := by
  by_cases hjk : j = k
  · subst hjk
    rw [mem_tagsOf, get?_tag, if_pos rfl, mem_tagsOf]
    cases m.get? j with
    | none => simp
    | some s => simp
  · rw [tagsOf_tag_of_ne hjk]
    simp [hjk]

theorem keys_tag (m : OrderedMap κ (OrderedSet Origin)) (k : κ) (o : Origin) :
    (m.tag k o).keys = if k ∈ m.keys then m.keys else m.keys ++ [k] :=
  keys_update m k _

/-- The two readings agree. -/
theorem mem_taggedWith {m : OrderedMap κ (OrderedSet Origin)} {k : κ} {o : Origin} :
    k ∈ m.taggedWith o ↔ o ∈ m.tagsOf k := by
  rw [mem_tagsOf]
  unfold taggedWith
  rw [List.mem_map]
  constructor
  · rintro ⟨⟨k', s⟩, hmem, rfl⟩
    obtain ⟨hentry, ho⟩ := List.mem_filter.mp hmem
    exact ⟨s, get?_eq_some_iff.mpr hentry, of_decide_eq_true ho⟩
  · rintro ⟨s, hs, ho⟩
    exact ⟨(k, s), List.mem_filter.mpr ⟨get?_eq_some_iff.mp hs, decide_eq_true ho⟩, rfl⟩

omit [DecidableEq κ] in
theorem mem_keys_of_mem_taggedWith {m : OrderedMap κ (OrderedSet Origin)} {k : κ} {o : Origin}
    (hk : k ∈ m.taggedWith o) : k ∈ m.keys := by
  obtain ⟨e, he, rfl⟩ := List.mem_map.mp hk
  exact List.mem_map_of_mem (List.mem_of_mem_filter he)

/-- A tag leaves the keys of every other origin as they are. -/
theorem taggedWith_tag_of_ne (m : OrderedMap κ (OrderedSet Origin)) (k : κ) {o o' : Origin}
    (hne : o' ≠ o) : (m.tag k o).taggedWith o' = m.taggedWith o' := by
  have hentries : ∀ l : List (κ × OrderedSet Origin),
      ((updateEntries k (fun origins => (origins.getD ∅).insert o) l).filter
        fun e => o' ∈ e.2).map Prod.fst = (l.filter fun e => o' ∈ e.2).map Prod.fst := by
    intro l
    induction l with
    | nil => simp [updateEntries, hne]
    | cons e l ih =>
        obtain ⟨k', s⟩ := e
        by_cases hk : k' = k
        · by_cases ho : o' ∈ s <;> simp [updateEntries, hk, hne, ho]
        · by_cases ho : o' ∈ s <;> simp [updateEntries, hk, ho, ih]
  exact hentries m.entries

theorem tag_of_mem {m : OrderedMap κ (OrderedSet Origin)} {k : κ} {o : Origin}
    (ho : o ∈ m.tagsOf k) : m.tag k o = m := by
  obtain ⟨s, hs, hos⟩ := mem_tagsOf.mp ho
  have hentries : ∀ l : List (κ × OrderedSet Origin), valueAt k l = some s →
      updateEntries k (fun origins => (origins.getD ∅).insert o) l = l := by
    intro l
    induction l with
    | nil => intro h; cases h
    | cons e l ih =>
        obtain ⟨k', s'⟩ := e
        intro h
        by_cases hk : k' = k
        · rw [valueAt, if_pos hk] at h
          obtain rfl := Option.some.inj h
          simp [updateEntries, hk, OrderedSet.insert_of_mem hos]
        · rw [valueAt, if_neg hk] at h
          rw [updateEntries, if_neg hk, ih h]
  exact OrderedMap.ext (hentries m.entries hs)

/-- A key that no origin has comes last. -/
theorem taggedWith_tag_of_not_mem {m : OrderedMap κ (OrderedSet Origin)} {k : κ}
    (hk : k ∉ m.keys) (o : Origin) : (m.tag k o).taggedWith o = m.taggedWith o ++ [k] := by
  have hentries : (m.tag k o).entries = m.entries ++ [(k, (∅ : OrderedSet Origin).insert o)] :=
    updateEntries_of_not_mem _ hk
  unfold taggedWith
  rw [hentries, List.filter_append, List.map_append]
  simp

end OrderedMap

end UiRecovery
