/-!
# Ordered maps

Finite maps whose entries are listed in the order in which their keys first arrived. A key that is
written again keeps its place and changes its value.
-/

namespace UiRecovery

/-- A finite map, listed in order of first insertion of its keys. -/
structure OrderedMap (κ ν : Type) where
  entries : List (κ × ν)
  nodup : (entries.map Prod.fst).Nodup
deriving DecidableEq, Repr

namespace OrderedMap

variable {κ ν : Type}

def empty : OrderedMap κ ν := ⟨[], List.nodup_nil⟩

instance : EmptyCollection (OrderedMap κ ν) := ⟨empty⟩

instance : Inhabited (OrderedMap κ ν) := ⟨empty⟩

@[ext]
theorem ext {m n : OrderedMap κ ν} (h : m.entries = n.entries) : m = n := by
  cases m
  cases n
  cases h
  rfl

@[simp]
theorem entries_empty : (∅ : OrderedMap κ ν).entries = [] := rfl

def keys (m : OrderedMap κ ν) : List κ := m.entries.map Prod.fst

def values (m : OrderedMap κ ν) : List ν := m.entries.map Prod.snd

def size (m : OrderedMap κ ν) : Nat := m.entries.length

theorem nodup_keys (m : OrderedMap κ ν) : m.keys.Nodup := m.nodup

@[simp]
theorem keys_empty : (∅ : OrderedMap κ ν).keys = [] := rfl

variable [DecidableEq κ]

/-- The value that a list of entries holds first for `k`. -/
def valueAt (k : κ) : List (κ × ν) → Option ν
  | [] => none
  | (k', v) :: rest => if k' = k then some v else valueAt k rest

def get? (m : OrderedMap κ ν) (k : κ) : Option ν := valueAt k m.entries

def contains (m : OrderedMap κ ν) (k : κ) : Bool := (m.get? k).isSome

/-- Write `f` of the value at `k`, in place if there is one and at the end if there is none. -/
def updateEntries (k : κ) (f : Option ν → ν) : List (κ × ν) → List (κ × ν)
  | [] => [(k, f none)]
  | (k', v) :: rest =>
    if k' = k then (k', f (some v)) :: rest else (k', v) :: updateEntries k f rest

theorem map_fst_updateEntries (k : κ) (f : Option ν → ν) (l : List (κ × ν)) :
    (updateEntries k f l).map Prod.fst =
      if k ∈ l.map Prod.fst then l.map Prod.fst else l.map Prod.fst ++ [k] := by
  induction l with
  | nil => simp [updateEntries]
  | cons e l ih =>
    obtain ⟨k', v⟩ := e
    by_cases h : k' = k
    · simp [updateEntries, h]
    · have h' : k ≠ k' := fun e => h e.symm
      by_cases hm : k ∈ l.map Prod.fst
      · simp only [hm, if_true] at ih
        simp [updateEntries, h, ih, List.mem_cons, hm]
      · simp only [hm, if_false] at ih
        simp [updateEntries, h, ih, List.mem_cons, hm, h']

theorem nodup_updateEntries (k : κ) (f : Option ν → ν) {l : List (κ × ν)}
    (h : (l.map Prod.fst).Nodup) : ((updateEntries k f l).map Prod.fst).Nodup := by
  rw [map_fst_updateEntries]
  by_cases hm : k ∈ l.map Prod.fst
  · rw [if_pos hm]
    exact h
  · rw [if_neg hm]
    exact List.nodup_append.2 ⟨h, by simp, fun x hx y hy e => by
      rw [List.mem_singleton.1 hy] at e
      exact hm (e ▸ hx)⟩

theorem valueAt_updateEntries (k j : κ) (f : Option ν → ν) (l : List (κ × ν)) :
    valueAt j (updateEntries k f l) = if j = k then some (f (valueAt k l)) else valueAt j l := by
  induction l with
  | nil => grind [updateEntries, valueAt]
  | cons e l ih => grind [updateEntries, valueAt]

theorem valueAt_filter_ne (k j : κ) (l : List (κ × ν)) :
    valueAt j (l.filter fun e => e.1 ≠ k) = if j = k then none else valueAt j l := by
  induction l with
  | nil => simp [valueAt]
  | cons e l ih => grind [valueAt]

theorem valueAt_eq_none_iff {k : κ} {l : List (κ × ν)} :
    valueAt k l = none ↔ k ∉ l.map Prod.fst := by
  induction l with
  | nil => simp [valueAt]
  | cons e l ih => grind [valueAt]

theorem valueAt_eq_some_iff {k : κ} {v : ν} {l : List (κ × ν)} (h : (l.map Prod.fst).Nodup) :
    valueAt k l = some v ↔ (k, v) ∈ l := by
  induction l with
  | nil => simp [valueAt]
  | cons e l ih =>
    obtain ⟨k', v'⟩ := e
    rw [List.map_cons, List.nodup_cons] at h
    by_cases hk : k' = k
    · subst hk
      have hout : (k', v) ∉ l := fun hm => h.1 (List.mem_map.2 ⟨_, hm, rfl⟩)
      simp [valueAt, hout, eq_comm]
    · have hk' : k ≠ k' := fun e => hk e.symm
      simp [valueAt, hk, hk', ih h.2]

def update (m : OrderedMap κ ν) (k : κ) (f : Option ν → ν) : OrderedMap κ ν :=
  ⟨updateEntries k f m.entries, nodup_updateEntries k f m.nodup⟩

def insert (m : OrderedMap κ ν) (k : κ) (v : ν) : OrderedMap κ ν := m.update k fun _ => v

def erase (m : OrderedMap κ ν) (k : κ) : OrderedMap κ ν :=
  ⟨m.entries.filter fun e => e.1 ≠ k,
    ((List.filter_sublist).map Prod.fst).nodup m.nodup⟩

@[simp]
theorem get?_empty (k : κ) : (∅ : OrderedMap κ ν).get? k = none := rfl

theorem get?_update (m : OrderedMap κ ν) (k j : κ) (f : Option ν → ν) :
    (m.update k f).get? j = if j = k then some (f (m.get? k)) else m.get? j :=
  valueAt_updateEntries k j f m.entries

theorem get?_insert (m : OrderedMap κ ν) (k j : κ) (v : ν) :
    (m.insert k v).get? j = if j = k then some v else m.get? j :=
  get?_update m k j fun _ => v

theorem keys_update (m : OrderedMap κ ν) (k : κ) (f : Option ν → ν) :
    (m.update k f).keys = if k ∈ m.keys then m.keys else m.keys ++ [k] :=
  map_fst_updateEntries k f m.entries

theorem get?_erase (m : OrderedMap κ ν) (k j : κ) :
    (m.erase k).get? j = if j = k then none else m.get? j :=
  valueAt_filter_ne k j m.entries

theorem get?_eq_none_iff {m : OrderedMap κ ν} {k : κ} : m.get? k = none ↔ k ∉ m.keys :=
  valueAt_eq_none_iff

theorem get?_eq_some_iff {m : OrderedMap κ ν} {k : κ} {v : ν} :
    m.get? k = some v ↔ (k, v) ∈ m.entries :=
  valueAt_eq_some_iff m.nodup

end OrderedMap

end UiRecovery
