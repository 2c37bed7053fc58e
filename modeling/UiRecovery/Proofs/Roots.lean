import UiRecovery.Assembly.Reconstruction
import UiRecovery.Proofs.Identity
import UiRecovery.Proofs.Tagging

/-!
# The roots of a component

When a recovery is closed, the widgets of each component that nothing holds
are put behind what code shows for it. The origins are closed one after
another, but each only once and without an effect on the others, so that
the roots of one can be read off directly (`rootsOf_finish`).

Attributions name widgets by guid. Where guids are unique,
`mem_elementHandles` turns them back into handles.
-/

namespace UiRecovery

theorem Reconstruction.rootsOf_eq (r : Reconstruction) (o : Origin) :
    r.rootsOf o = ((r.roots.get? o).getD ∅).toList := by
  unfold rootsOf
  cases r.roots.get? o <;> rfl

namespace Assembler

variable {σ : Type}

/-- The widgets of a component, in the order of their attribution. -/
def elementHandles (a : Assembler σ) (o : Origin) : List Nat :=
  (a.attribution.elementsOf o).filterMap a.scene.findGuid?

theorem elementsOf_finish (a : Assembler σ) (o : Origin) :
    a.finish.elementsOf o = a.elementHandles o := rfl

theorem mem_parentless {a : Assembler σ} {o : Origin} {h : Nat} :
    h ∈ a.parentless o ↔ h ∈ a.elementHandles o ∧ h ∉ a.scene.attached := by
  unfold parentless elementHandles
  simp [List.mem_filter]

/-! ## Closing the origins -/

theorem get?_closeOrigin_of_ne (a : Assembler σ) (roots : OrderedMap Origin (OrderedSet Nat))
    {o o' : Origin} (hne : o ≠ o') : (a.closeOrigin roots o').get? o = roots.get? o := by
  unfold closeOrigin
  dsimp only
  split
  · rfl
  · exact (OrderedMap.get?_update ..).trans (if_neg hne)

theorem getD_closeOrigin (a : Assembler σ) (roots : OrderedMap Origin (OrderedSet Nat))
    (o : Origin) :
    ((a.closeOrigin roots o).get? o).getD ∅ =
      ((roots.get? o).getD ∅).insertAll (a.parentless o) := by
  unfold closeOrigin
  dsimp only
  split
  · rename_i hempty
    rw [List.isEmpty_iff.mp hempty]
    rfl
  · rw [OrderedMap.get?_update, if_pos rfl]
    rfl

theorem get?_foldl_closeOrigin_of_not_mem (a : Assembler σ) {o : Origin} :
    ∀ {os : List Origin}, o ∉ os → ∀ roots : OrderedMap Origin (OrderedSet Nat),
      (os.foldl a.closeOrigin roots).get? o = roots.get? o
  | [], _, _ => rfl
  | o' :: os, hnot, roots => by
      rw [List.mem_cons, not_or] at hnot
      rw [List.foldl_cons, get?_foldl_closeOrigin_of_not_mem a hnot.2,
        a.get?_closeOrigin_of_ne roots hnot.1]

theorem getD_foldl_closeOrigin (a : Assembler σ) {o : Origin} :
    ∀ {os : List Origin}, os.Nodup → o ∈ os → ∀ roots : OrderedMap Origin (OrderedSet Nat),
      ((os.foldl a.closeOrigin roots).get? o).getD ∅ =
        ((roots.get? o).getD ∅).insertAll (a.parentless o)
  | o' :: os, hnodup, hmem, roots => by
      rw [List.nodup_cons] at hnodup
      rw [List.foldl_cons]
      rcases List.mem_cons.mp hmem with rfl | hmem
      · rw [get?_foldl_closeOrigin_of_not_mem a hnodup.1, getD_closeOrigin]
      · have hne : o ≠ o' := fun heq => hnodup.1 (heq ▸ hmem)
        rw [getD_foldl_closeOrigin a hnodup.2 hmem, a.get?_closeOrigin_of_ne roots hne]

theorem mem_origins_of_mem_elementsOf {t : Attribution} {o : Origin} {g : Guid}
    (hg : g ∈ t.elementsOf o) : o ∈ t.origins := by
  obtain ⟨s, hs, ho⟩ := OrderedMap.mem_tagsOf.mp (OrderedMap.mem_taggedWith.mp hg)
  refine OrderedSet.mem_ofList.mpr (List.mem_flatMap.mpr ⟨s, ?_, ho⟩)
  have hentry : (g, s) ∈ t.elements.entries := OrderedMap.get?_eq_some_iff.mp hs
  exact List.mem_append_left _ (List.mem_map_of_mem hentry)

/-- The roots of a component are what code shows for it, followed by its
further widgets that nothing holds. -/
theorem rootsOf_finish (a : Assembler σ) (o : Origin) :
    a.finish.rootsOf o = ((a.screens o).insertAll (a.parentless o)).toList := by
  rw [Reconstruction.rootsOf_eq]
  refine congrArg OrderedSet.toList ?_
  by_cases ho : o ∈ a.attribution.origins
  · exact a.getD_foldl_closeOrigin (OrderedSet.nodup _) ho a.roots
  · -- An origin that is not listed has no widgets.
    have hnone : a.attribution.elementsOf o = [] := by
      refine List.eq_nil_iff_forall_not_mem.mpr fun g hg => ho ?_
      exact mem_origins_of_mem_elementsOf hg
    have hempty : a.parentless o = [] := by
      unfold parentless
      rw [hnone]
      rfl
    rw [hempty]
    exact congrArg (Option.getD · ∅) (a.get?_foldl_closeOrigin_of_not_mem ho a.roots)

end Assembler

/-! ## From guids to handles -/

namespace Scene

theorem findGuid?_eq_some {s : Scene} {g : Guid} {n : Nat} (hn : s.findGuid? g = some n) :
    n < s.size ∧ (s.widget n).guid = g := by
  obtain ⟨hlt, hguid, -⟩ := List.findIdx?_eq_some_iff_getElem.mp hn
  rw [getElem_widgets] at hguid
  exact ⟨hlt, of_decide_eq_true hguid⟩

end Scene

theorem Assembler.mem_elementHandles {σ : Type} {a : Assembler σ} {outside : List Guid}
    (ha : Identified a.scene outside) {o : Origin} {h : Nat} :
    h ∈ a.elementHandles o ↔
      h < a.scene.size ∧ o ∈ a.attribution.originsOf (a.scene.widget h).guid := by
  unfold elementHandles
  rw [List.mem_filterMap]
  constructor
  · rintro ⟨g, hg, hfind⟩
    obtain ⟨hlt, rfl⟩ := Scene.findGuid?_eq_some hfind
    exact ⟨hlt, OrderedMap.mem_taggedWith.mp hg⟩
  · rintro ⟨hlt, ho⟩
    exact ⟨_, OrderedMap.mem_taggedWith.mpr ho, Scene.findGuid?_guid ha.increasing hlt⟩

end UiRecovery
