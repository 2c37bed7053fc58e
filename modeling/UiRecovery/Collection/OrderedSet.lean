/-!
# Ordered sets

Finite sets that are listed in the order in which their members first arrived. Evidence is collected
in such sets: what was found first is reported first, and finding it again changes nothing. The list
has no repetition by construction, so a member's position is its age.
-/

namespace UiRecovery

/-- A finite set, listed in order of first insertion. -/
structure OrderedSet (α : Type) where
  toList : List α
  nodup : toList.Nodup
deriving DecidableEq, Repr

namespace OrderedSet

variable {α : Type}

def empty : OrderedSet α := ⟨[], List.nodup_nil⟩

instance : EmptyCollection (OrderedSet α) := ⟨empty⟩

instance : Inhabited (OrderedSet α) := ⟨empty⟩

instance : Membership α (OrderedSet α) := ⟨fun s a => a ∈ s.toList⟩

theorem mem_def {s : OrderedSet α} {a : α} : a ∈ s ↔ a ∈ s.toList := Iff.rfl

@[ext]
theorem ext {s t : OrderedSet α} (h : s.toList = t.toList) : s = t := by
  cases s
  cases t
  cases h
  rfl

@[simp]
theorem toList_empty : (∅ : OrderedSet α).toList = [] := rfl

def isEmpty (s : OrderedSet α) : Bool := s.toList.isEmpty

variable [DecidableEq α]

instance (a : α) (s : OrderedSet α) : Decidable (a ∈ s) :=
  inferInstanceAs (Decidable (a ∈ s.toList))

/-- A member that is already there keeps its place. -/
def insert (s : OrderedSet α) (a : α) : OrderedSet α :=
  if h : a ∈ s.toList then s
  else ⟨s.toList ++ [a], List.nodup_append.2
    ⟨s.nodup, by simp, fun x hx y hy e => by
      rw [List.mem_singleton.1 hy] at e
      exact h (e ▸ hx)⟩⟩

def insertAll (s : OrderedSet α) (as : List α) : OrderedSet α := as.foldl insert s

def ofList (as : List α) : OrderedSet α := insertAll ∅ as

theorem toList_insert (s : OrderedSet α) (a : α) :
    (s.insert a).toList = if a ∈ s then s.toList else s.toList ++ [a] := by
  unfold insert
  by_cases h : a ∈ s.toList
  · simp [h, mem_def]
  · simp [h, mem_def]

@[simp]
theorem insert_of_mem {s : OrderedSet α} {a : α} (h : a ∈ s) : s.insert a = s := by
  unfold insert
  simp [mem_def.1 h]

@[simp]
theorem mem_insert {s : OrderedSet α} {a b : α} : b ∈ s.insert a ↔ b ∈ s ∨ b = a := by
  rw [mem_def, toList_insert]
  by_cases h : a ∈ s
  · simp only [h, if_true]
    exact ⟨Or.inl, fun hb => hb.elim id (fun e => e ▸ h)⟩
  · simp [h, mem_def]

theorem prefix_insert (s : OrderedSet α) (a : α) : s.toList <+: (s.insert a).toList := by
  rw [toList_insert]
  by_cases h : a ∈ s <;> simp [h]

@[simp]
theorem insertAll_nil (s : OrderedSet α) : s.insertAll [] = s := rfl

@[simp]
theorem insertAll_cons (s : OrderedSet α) (a : α) (as : List α) :
    s.insertAll (a :: as) = (s.insert a).insertAll as := rfl

@[simp]
theorem mem_insertAll {s : OrderedSet α} {as : List α} {b : α} :
    b ∈ s.insertAll as ↔ b ∈ s ∨ b ∈ as := by
  induction as generalizing s with
  | nil => simp
  | cons a as ih => simp [ih, or_assoc]

theorem prefix_insertAll (s : OrderedSet α) (as : List α) :
    s.toList <+: (s.insertAll as).toList := by
  induction as generalizing s with
  | nil => exact List.prefix_rfl
  | cons a as ih => exact (prefix_insert s a).trans (ih _)

@[simp]
theorem mem_ofList {as : List α} {b : α} : b ∈ ofList as ↔ b ∈ as := by
  rw [ofList, mem_insertAll]
  simp [mem_def]

end OrderedSet

end UiRecovery
