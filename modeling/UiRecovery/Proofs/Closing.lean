import UiRecovery.Code.Program
import UiRecovery.Proofs.Attributing

/-!
# Closing a recovery

Which roots a component has when a recovery is closed, and which components
have any. `rootsOf_finish` says what goes into the roots of one component;
here the lists are pinned down, with their order:

- **roots of one component** (`rootsOf_finish_eq_append`): what code shows
  comes first, as it was put on the screen. Widgets that nothing holds come
  behind it by the age of their attribution
  (`sublist_map_guid_elementHandles`);
- **components with roots** (`keys_finish`): those for which code shows
  something, by the age of their first screen, and then those that have
  only widgets that nothing holds, as the attributions list them.

No component is listed without a root. That is seen on the sets that the
two kinds of roots are kept in: none is made before there is a widget to
put into it (`OrderedMap.Filled`).
-/

namespace UiRecovery

theorem OrderedSet.toList_insertAll_of_nodup {α : Type} [DecidableEq α] :
    ∀ {as : List α}, as.Nodup → ∀ s : OrderedSet α,
      (s.insertAll as).toList = s.toList ++ as.filter (· ∉ s)
  | [], _, s => by simp
  | a :: as, hnodup, s => by
      obtain ⟨hnew, hnodup⟩ := List.nodup_cons.mp hnodup
      rw [insertAll_cons, toList_insertAll_of_nodup hnodup, toList_insert]
      by_cases ha : a ∈ s
      · simp [ha]
      · -- `a` does not come again, so that the rest does not notice it.
        have hrest : as.filter (· ∉ s.insert a) = as.filter (· ∉ s) := by
          refine List.filter_congr fun b hb => ?_
          have hne : b ≠ a := fun heq => hnew (heq ▸ hb)
          simp [hne]
        rw [hrest]
        simp [ha]

namespace OrderedMap

/-! ## Keys with something to show -/

variable {κ α : Type}

def keySet {ν : Type} (m : OrderedMap κ ν) : OrderedSet κ := ⟨m.keys, m.nodup⟩

variable [DecidableEq κ]

theorem keySet_update {ν : Type} (m : OrderedMap κ ν) (k : κ) (f : Option ν → ν) :
    (m.update k f).keySet = m.keySet.insert k :=
  OrderedSet.ext ((m.keys_update k f).trans (m.keySet.toList_insert k).symm)

/-- No key stands with an empty set. -/
def Filled (m : OrderedMap κ (OrderedSet α)) : Prop :=
  ∀ k s, m.get? k = some s → s.toList ≠ []

theorem Filled.update [DecidableEq α] {m : OrderedMap κ (OrderedSet α)} (hm : m.Filled) (k : κ)
    {as : List α} (has : as ≠ []) :
    (m.update k fun s => (s.getD ∅).insertAll as).Filled := by
  intro j s hs
  rw [get?_update] at hs
  split at hs
  · obtain rfl := Option.some.inj hs
    obtain ⟨a, ha⟩ := List.exists_mem_of_ne_nil as has
    exact List.ne_nil_of_mem (OrderedSet.mem_insertAll.mpr (Or.inr ha))
  · exact hm j s hs

theorem Filled.mem_keys_iff {m : OrderedMap κ (OrderedSet α)} (hm : m.Filled) {k : κ} :
    k ∈ m.keys ↔ ((m.get? k).getD ∅).toList ≠ [] := by
  cases hget : m.get? k with
  | none => simp [get?_eq_none_iff.mp hget]
  | some s =>
      have hmem : k ∈ m.keys := by
        by_contra hnot
        rw [get?_eq_none_iff.mpr hnot] at hget
        cases hget
      exact iff_of_true hmem (hm k s hget)

end OrderedMap

/-! ## Screens are never empty -/

namespace Work

variable {σ : Type} {t : Task σ} {w : Work σ}

theorem filled_addRoots (hw : w.roots.Filled) (o : Origin) (hs : List Nat) :
    (w.addRoots o hs).roots.Filled := by
  unfold addRoots
  split
  · exact hw
  · rename_i hne
    exact hw.update o fun hnil => hne (List.isEmpty_iff.mpr hnil)

theorem filled_showLayout (hw : w.roots.Filled) (s : σ) : (w.showLayout t s).roots.Filled := by
  let asked := w.askInts t (.arg 0) s
  let r := collectAll (materialize t.origin) asked.1 asked.2
  have hroots : r.2.roots = w.roots :=
    ((w.keepsShown_askInts t (.arg 0) s).trans
      (keepsShown_materializeAll asked.2 t.origin asked.1)).roots
  show (bindLocal (r.2.addRoots t.origin r.1) _ _).roots.Filled
  rw [(keepsShown_bindLocal _ _ _).roots]
  exact filled_addRoots (hroots.symm ▸ hw) t.origin r.1

theorem filled_showWidget (hw : w.roots.Filled) (s : σ) : (w.showWidget t s).roots.Filled := by
  let hs := w.bound (t.query.argLocal s 0)
  let tagged := hs.foldl (fun w h => w.tagTree t.origin h) w
  have hroots : tagged.roots = w.roots := (w.keepsShown_tagTrees t.origin hs).roots
  rw [showWidget_eq, (keepsShown_bindLocal _ _ _).roots]
  exact filled_addRoots (hroots.symm ▸ hw) t.origin hs

variable [DecidableEq σ]

theorem filled_perform (hw : w.roots.Filled) (s : σ) (a : Action σ) :
    (w.perform t s a).roots.Filled := by
  by_cases hlayout : a = .showLayout
  · subst hlayout
    exact filled_showLayout hw s
  by_cases hwidget : a = .showWidget
  · subst hwidget
    exact filled_showWidget hw s
  rwa [roots_perform s hlayout hwidget]

theorem filled_step (hw : w.roots.Filled) (s : σ) : (w.step t s).1.roots.Filled := by
  have hnoted : (w.noteCall t s).roots.Filled := (w.keepsShown_noteCall t s).roots.symm ▸ hw
  rw [step_eq]
  cases t.query.action s with
  | ok a => exact filled_perform hnoted s a
  | error e => exact hnoted

theorem filled_run (hw : w.roots.Filled) (sites : List σ) : (run t sites w).1.roots.Filled :=
  run_keeps (P := fun w => w.roots.Filled) (fun _ s hw => filled_step hw s) sites hw

end Work

namespace Assembler

variable {σ : Type} [DecidableEq σ] {a : Assembler σ}

theorem filled_assembleMethod (ha : a.roots.Filled) (t : Task σ) (sites : List σ) :
    (a.assembleMethod t sites).assembler.roots.Filled := by
  have hrun := Work.filled_run (t := t) (w := a.begin t sites) ha sites
  rw [assembler_assembleMethod]
  split
  · exact hrun
  · exact hrun

theorem Reachable.filled (ha : a.Reachable) : a.roots.Filled := by
  refine ha.keeps (P := fun a => a.roots.Filled) ?_ ?_ ?_
  · intro settings start hstart o roots hroots
    rw [create_eq_ok hstart] at hroots
    cases hroots
  · intro a p ha
    obtain ⟨scene, layouts, menuTemplates, -, hprepare⟩ := a.prepare_eq p
    rw [hprepare]
    exact ha
  · exact fun a c ha => assembled_keeps (P := fun a => a.roots.Filled)
      (fun _ t sites ha => filled_assembleMethod ha t sites) (fun _ _ ha => ha) ha c

/-- Screens and attributions are only added to at their ends, so that their
order is that of arrival. -/
theorem extends_serve (a : Assembler σ) (r : Request σ) :
    a.roots.Extends (a.serve r).roots ∧
      a.attribution.elements.Extends (a.serve r).attribution.elements := by
  cases r with
  | prepare p =>
      obtain ⟨scene, layouts, menuTemplates, -, hprepare⟩ := a.prepare_eq p
      rw [serve, hprepare]
      exact ⟨.refl _, .refl _⟩
  | assemble c =>
      cases c with
      | method t sites =>
          have hgrows := a.grows_assembleMethod t sites
          exact ⟨hgrows.roots, hgrows.elements⟩
      | units q o units =>
          have hgrows := a.grows_assemble q o units
          exact ⟨hgrows.roots, hgrows.elements⟩

end Assembler

namespace Assembler

variable {σ : Type} {a : Assembler σ}

/-! ## The roots of one component -/

/-- Looking up guids in a scene may lose some, but keeps their order. -/
theorem sublist_map_guid_elementHandles (a : Assembler σ) (o : Origin) :
    ((a.elementHandles o).map fun h => (a.scene.widget h).guid).Sublist
      a.attribution.elements.keys := by
  have hfound : ∀ gs : List Guid,
      ((gs.filterMap a.scene.findGuid?).map fun h => (a.scene.widget h).guid).Sublist gs := by
    intro gs
    induction gs with
    | nil => exact .refl _
    | cons g gs ih =>
        cases hfind : a.scene.findGuid? g with
        | none =>
            rw [List.filterMap_cons_none hfind]
            exact ih.cons g
        | some h =>
            rw [List.filterMap_cons_some hfind, List.map_cons, (Scene.findGuid?_eq_some hfind).2]
            exact ih.cons_cons g
  exact (hfound _).trans (List.filter_sublist.map Prod.fst)

theorem parentless_sublist (a : Assembler σ) (o : Origin) :
    (a.parentless o).Sublist (a.elementHandles o) :=
  List.filter_sublist

theorem nodup_parentless (a : Assembler σ) (o : Origin) : (a.parentless o).Nodup := by
  have hguids := (a.sublist_map_guid_elementHandles o).nodup a.attribution.elements.nodup_keys
  exact (a.parentless_sublist o).nodup hguids.of_map

theorem rootsOf_finish_eq_append (a : Assembler σ) (o : Origin) :
    a.finish.rootsOf o = (a.screens o).toList ++ (a.parentless o).filter (· ∉ a.screens o) := by
  rw [rootsOf_finish, OrderedSet.toList_insertAll_of_nodup (a.nodup_parentless o)]

theorem nodup_rootsOf_finish (a : Assembler σ) (o : Origin) : (a.finish.rootsOf o).Nodup := by
  rw [rootsOf_finish]
  exact OrderedSet.nodup _

/-! ## The components that have roots -/

theorem keySet_closeOrigin (a : Assembler σ) (roots : OrderedMap Origin (OrderedSet Nat))
    (o : Origin) :
    (a.closeOrigin roots o).keySet =
      if a.parentless o ≠ [] then roots.keySet.insert o else roots.keySet := by
  unfold closeOrigin
  dsimp only
  split
  · rename_i hempty
    rw [if_neg (not_not.mpr (List.isEmpty_iff.mp hempty))]
  · rename_i hne
    rw [if_pos fun hnil => hne (List.isEmpty_iff.mpr hnil), OrderedMap.keySet_update]

theorem keySet_foldl_closeOrigin (a : Assembler σ) :
    ∀ (os : List Origin) (roots : OrderedMap Origin (OrderedSet Nat)),
      (os.foldl a.closeOrigin roots).keySet =
        roots.keySet.insertAll (os.filter (a.parentless · ≠ []))
  | [], _ => rfl
  | o :: os, roots => by
      rw [List.foldl_cons, keySet_foldl_closeOrigin a os, keySet_closeOrigin, List.filter_cons]
      by_cases ho : a.parentless o = []
      · simp [ho]
      · simp [ho]

theorem filled_closeOrigin {roots : OrderedMap Origin (OrderedSet Nat)} (hroots : roots.Filled)
    (o : Origin) : (a.closeOrigin roots o).Filled := by
  unfold closeOrigin
  dsimp only
  split
  · exact hroots
  · rename_i hne
    exact hroots.update o fun hnil => hne (List.isEmpty_iff.mpr hnil)

theorem filled_foldl_closeOrigin :
    ∀ (os : List Origin) {roots : OrderedMap Origin (OrderedSet Nat)},
    roots.Filled → (os.foldl a.closeOrigin roots).Filled
  | [], _, hroots => hroots
  | o :: os, _, hroots => filled_foldl_closeOrigin os (filled_closeOrigin hroots o)

theorem rootsOf_finish_of_not_mem {o : Origin} (ho : o ∉ a.roots.keys) :
    a.finish.rootsOf o = a.parentless o := by
  have hscreens : a.screens o = ∅ := by
    unfold screens
    rw [OrderedMap.get?_eq_none_iff.mpr ho]
    rfl
  rw [rootsOf_finish_eq_append, hscreens]
  simp

theorem keys_finish (a : Assembler σ) :
    a.finish.roots.keys = a.roots.keys ++ a.attribution.origins.filter
      (fun o => o ∉ a.roots.keys ∧ a.finish.rootsOf o ≠ []) := by
  have hkeys : a.finish.roots.keys = a.roots.keys ++
      (a.attribution.origins.filter (a.parentless · ≠ [])).filter (· ∉ a.roots.keySet) := by
    have hnodup : a.attribution.origins.Nodup := OrderedSet.nodup _
    have hset := a.keySet_foldl_closeOrigin a.attribution.origins a.roots
    exact (congrArg OrderedSet.toList hset).trans
      (OrderedSet.toList_insertAll_of_nodup (hnodup.filter _) _)
  rw [hkeys, List.filter_filter]
  refine congrArg _ (List.filter_congr fun o _ => ?_)
  by_cases ho : o ∈ a.roots.keys
  · simp [OrderedSet.mem_def, OrderedMap.keySet, ho]
  · simp [OrderedSet.mem_def, OrderedMap.keySet, ho, rootsOf_finish_of_not_mem ho]

variable [DecidableEq σ]

/-- The roots when a recovery is closed, whatever was asked before. For each
component they are what code shows, as it was put on the screen, and behind
it those of its widgets that nothing holds and that are not on the screen,
by the age of their attribution. Each is listed once. A component is listed
if it has a root: first those with a screen, by the age of their first one,
then the others, as the attributions list them. The order of screens and
of attributions is one of age, since every request adds behind what is
there. -/
theorem roots_listed_in_order (ha : a.Reachable) :
    (∀ o, ∃ rest, a.finish.rootsOf o = (a.screens o).toList ++ rest ∧
        (a.finish.rootsOf o).Nodup ∧
        (∀ h, h ∈ rest ↔
          h < a.scene.size ∧ o ∈ a.attribution.originsOf (a.scene.widget h).guid ∧
            (∀ x, h ∉ a.scene.children x) ∧ h ∉ a.screens o) ∧
        (rest.map fun h => (a.scene.widget h).guid).Sublist a.attribution.elements.keys) ∧
      (∀ o, o ∈ a.finish.roots.keys ↔ a.finish.rootsOf o ≠ []) ∧
      (∀ o, o ∈ a.roots.keys ↔ (a.screens o).toList ≠ []) ∧
      a.finish.roots.keys = a.roots.keys ++ a.attribution.origins.filter
        (fun o => o ∉ a.roots.keys ∧ a.finish.rootsOf o ≠ []) ∧
      ∀ r, a.roots.Extends (a.serve r).roots ∧
        a.attribution.elements.Extends (a.serve r).attribution.elements := by
  refine ⟨fun o => ⟨_, a.rootsOf_finish_eq_append o, a.nodup_rootsOf_finish o, fun h => ?_, ?_⟩,
    fun o => ?_, fun o => ha.filled.mem_keys_iff, a.keys_finish, a.extends_serve⟩
  · rw [List.mem_filter, mem_parentless, mem_elementHandles ha.identified, Scene.mem_attached]
    simp [and_assoc]
  · refine ((List.filter_sublist.trans ?_).map _).trans (a.sublist_map_guid_elementHandles o)
    exact a.parentless_sublist o
  · rw [Reconstruction.rootsOf_eq]
    exact (filled_foldl_closeOrigin _ ha.filled).mem_keys_iff

end Assembler

/-- One method makes a label that is shown nowhere. Another shows a button,
and puts it into a frame only then. -/
def Program.shownThenHeld : Program where
  methods :=
    [{ signature := "void onResume()"
       instructions := [⟨some "label", .new "android.widget.TextView"⟩] },
      { signature := "void onCreate(android.os.Bundle)"
        instructions :=
          [⟨some "frame", .new "android.widget.FrameLayout"⟩,
            ⟨some "button", .new "android.widget.Button"⟩,
            ⟨none, .call ⟨"void setContentView(android.view.View)", some "this",
              [.localVar "button"]⟩⟩,
            ⟨none, .call ⟨"void addView(android.view.View)", some "frame",
              [.localVar "button"]⟩⟩] }]

/-- The first method runs for one component, and the second then for
another. -/
def Program.shownForTwo : List (AssemblyCall Site) :=
  [("Other", 0), ("Main", 1)].map fun (name, method) =>
    .method ⟨shownThenHeld.query, fun _ _ => .unknown, .activity name ""⟩
      (shownThenHeld.sites method)

theorem Assembler.roots_listed_in_order_shownForTwo :
    let start : Assembler Site := { settings := {}, nextDynamicId := -90000 }
    let a := Program.shownForTwo.foldl assembled start
    let main : Origin := .activity "Main" ""
    let other : Origin := .activity "Other" ""
    a.Reachable ∧ (∀ o, o ∈ a.finish.roots.keys ↔ a.finish.rootsOf o ≠ []) ∧
      a.attribution.origins = [other, main] ∧ a.finish.roots.keys = [main, other] ∧
      a.finish.rootsOf main = [2, 1] ∧ 2 ∈ a.scene.children 1 ∧ a.finish.rootsOf other = [0] := by
  intro start a main other
  have hstart : start.Reachable := ⟨{}, start, rfl, [], rfl⟩
  have ha : a.Reachable := Reachable.foldl_assembled hstart Program.shownForTwo
  obtain ⟨-, hlisted, -⟩ := roots_listed_in_order ha
  exact ⟨ha, hlisted, by decide +kernel⟩

end UiRecovery
