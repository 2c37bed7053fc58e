import UiRecovery.Proofs.Shown
import UiRecovery.Proofs.Coverage

/-!
# Attributions agree with the scene

A recovery keeps three records of what belongs to a component: the
attributions, which go by guid; the roots of the component, which go by
handle; and the scene, which has the widgets. They stay in step:

- **no stray guid** (`Founded.traced`): what is attributed is a widget of
  the scene. Handles that work gets hold of are in the scene whatever the
  templates hold, since a copy holds nothing but copies
  (`kept_founded`);
- **roots are owned** (`Work.credited_step`): two actions put widgets on a
  screen, and both attribute them to the component before. All others
  leave the screens alone (`Work.roots_perform`);
- **one widget for each guid** (`Traced.map_guid_elementHandles`): so
  that looking up the guids of a component loses none of them.
-/

namespace UiRecovery

/-! ## What work gets hold of is in the scene -/

namespace Assembler

variable {σ : Type} [DecidableEq σ] {n : Nat} {old : Scene} {a : Assembler σ}

/-- As `Settled`, for templates that may hold anything. -/
structure Founded (n : Nat) (old : Scene) (a : Assembler σ) : Prop where
  within : a.Within (.above σ n) old
  grounded : a.Grounded n
  traced : a.Traced n

end Assembler

namespace Work

variable {σ : Type} [DecidableEq σ] {n : Nat} {old : Scene} {t : Task σ} {sites : List σ}

structure Founded (n : Nat) (old : Scene) (x : Set Nat × Work σ) : Prop where
  within : Within (.above σ n) old x
  grounded : Grounded n x
  traced : x.2.toAssembler.Traced n

theorem Move.founded {x y : Set Nat × Work σ} (h : Move t sites x y) (hx : Founded n old x) :
    Founded n old y where
  within := h.within (fun _ _ => trivial) trivial hx.within
  grounded := by
    refine h.grounded (fun c hc => ?_) hx.grounded
    exact hx.within.graspable (fun _ _ => trivial) trivial hc
  traced := h.traced hx.within hx.grounded.held hx.traced

theorem Moves.founded {x y : Set Nat × Work σ} (h : Moves t sites x y) (hx : Founded n old x) :
    Founded n old y := by
  induction h with
  | refl => exact hx
  | tail _ hmove ih => exact hmove.founded ih

end Work

namespace Assembler

variable {σ : Type} [DecidableEq σ] {n : Nat} {old : Scene} {a : Assembler σ}

theorem kept_founded (n : Nat) (old : Scene) :
    Kept (Founded (σ := σ) n old) (Work.Founded n old) where
  begins a log ha :=
    ⟨(kept_within_above n old).begins a log ha.within, ⟨ha.grounded, nofun, nofun⟩, ha.traced⟩
  moves hmove hx := hmove.founded hx
  fails _ hw := ⟨hw.within.toAssembler, hw.grounded.toAssembler, hw.traced⟩
  ends w o hw := by
    obtain ⟨hscene, hlayouts, hmerged, hroots⟩ := hw.grounded.toAssembler
    exact ⟨(kept_within_above n old).ends w o hw.within, ⟨hscene, hlayouts, hmerged, hroots⟩,
      hw.traced⟩
  skips a skipped ha := by
    obtain ⟨hscene, hlayouts, hmerged, hroots⟩ := ha.grounded
    exact ⟨(kept_within_above n old).skips a skipped ha.within,
      ⟨hscene, hlayouts, hmerged, hroots⟩, ha.traced⟩

theorem Prepared.founded (ha : a.Prepared) : a.Founded a.scene.size a.scene where
  within := ha.within_above
  grounded := by
    refine ha.grounded fun h hh c hc => ?_
    exact absurd (Scene.lt_size_of_mem_children hc) (Nat.not_lt_of_le hh)
  traced g hg := by
    rw [congrArg attribution ha.pristine] at hg
    cases hg

end Assembler

/-! ## Roots are owned -/

namespace Assembler

variable {σ : Type} [DecidableEq σ] {n : Nat} {a b : Assembler σ}

/-- Whatever is on the screens of a component is attributed to it. -/
def Credited (a : Assembler σ) : Prop :=
  ∀ o, ∀ h ∈ a.screens o, o ∈ a.attribution.originsOf (a.scene.widget h).guid

theorem Grounded.lt_of_mem_screens (ha : a.Grounded n) {o : Origin} {h : Nat}
    (hh : h ∈ a.screens o) : h < a.scene.size := by
  obtain ⟨roots, hroots, hmem⟩ := OrderedSet.mem_getD_empty.mp hh
  exact ha.roots o roots hroots h hmem

theorem Credited.grow (ha : a.Credited) (hground : a.Grounded n) (hgrows : a.Grows b)
    (hroots : b.roots = a.roots) : b.Credited := by
  intro o h hh
  have hold : h ∈ a.screens o := by
    unfold screens at hh ⊢
    rwa [hroots] at hh
  exact hgrows.mem_originsOf (hground.lt_of_mem_screens hold) (ha o h hold)

end Assembler

namespace Work

variable {σ : Type} [DecidableEq σ] {n : Nat} {old : Scene} {t : Task σ} {w : Work σ}

omit [DecidableEq σ] in
theorem toAssembler_bindLocal (name : Option String) (hs : List Nat) :
    (w.bindLocal name hs).toAssembler = w.toAssembler := by
  cases name <;> rfl

omit [DecidableEq σ] in
/-- Widgets may go on a screen once they are attributed to its component. -/
theorem credited_addRoots {o : Origin} {hs : List Nat} (hw : w.toAssembler.Credited)
    (hhs : ∀ h ∈ hs, o ∈ w.attribution.originsOf (w.scene.widget h).guid) :
    (w.addRoots o hs).toAssembler.Credited := by
  unfold addRoots
  split
  · exact hw
  · intro o' h hh
    unfold Assembler.screens at hh
    rw [OrderedMap.get?_update] at hh
    split at hh
    · rename_i heq
      subst heq
      rcases OrderedSet.mem_insertAll.mp hh with hold | hnew
      · exact hw o' h hold
      · exact hhs h hnew
    · exact hw o' h hh

/-! ### Screens from layouts -/

theorem new_copyRoots : ∀ (roots : List Nat) (w : Work σ), ∀ c ∈ (collect copyRoot roots w).1,
    w.scene.size ≤ c ∧ c < (collect copyRoot roots w).2.scene.size
  | [], _, _, hc => nomatch hc
  | h :: roots, w, c, hc => by
      have hfirst : w.scene.size < (w.copyRoot h).2.scene.size :=
        w.scene.size_lt_size_copyWithId h _
      have hrest : (w.copyRoot h).2.scene.size ≤ (collect copyRoot (h :: roots) w).2.scene.size :=
        (grows_copyRoots roots (w.copyRoot h).2).scene.size_le
      rcases List.mem_cons.mp hc with rfl | hc
      · exact ⟨le_rfl, hfirst.trans_le hrest⟩
      · obtain ⟨hlow, hhigh⟩ := new_copyRoots roots (w.copyRoot h).2 c hc
        exact ⟨hfirst.le.trans hlow, hhigh⟩

theorem new_materialize (o : Origin) (w : Work σ) (layoutId : Int64) :
    ∀ c ∈ (materialize o w layoutId).1,
      w.scene.size ≤ c ∧ c < (materialize o w layoutId).2.scene.size := by
  rw [materialize_eq]
  split
  · exact nofun
  · rename_i layout _
    intro c hc
    have hscene := foldl_keeps (f := fun w : Work σ => w.scene) (fun w c => w.scene_tagTree o c)
      (collect copyRoot layout.roots w).1 (collect copyRoot layout.roots w).2
    obtain ⟨hlow, hhigh⟩ := new_copyRoots layout.roots w c hc
    exact ⟨hlow, hhigh.trans_eq (congrArg Scene.size hscene).symm⟩

theorem new_materializeAll (t : Task σ) : ∀ (ids : List Int64) (w : Work σ),
    ∀ c ∈ (collectAll (materialize t.origin) ids w).1,
      w.scene.size ≤ c ∧ c < (collectAll (materialize t.origin) ids w).2.scene.size
  | [], _, _, hc => nomatch hc
  | id :: ids, w, c, hc => by
      have hfirst := (makes_materialize t w id).grows.scene.size_le
      have hrest := (makes_materializeAll t (materialize t.origin w id).2 ids).grows.scene.size_le
      rcases List.mem_append.mp hc with hc | hc
      · obtain ⟨hlow, hhigh⟩ := new_materialize t.origin w id c hc
        exact ⟨hlow, hhigh.trans_le hrest⟩
      · obtain ⟨hlow, hhigh⟩ := new_materializeAll t ids (materialize t.origin w id).2 c hc
        exact ⟨hfirst.trans hlow, hhigh⟩

/-- What a layout brings to a screen is new, and so is owned. -/
theorem credited_showLayout (hw : Founded n old (∅, w)) (hcredited : w.toAssembler.Credited)
    (s : σ) : (w.showLayout t s).toAssembler.Credited := by
  let asked := w.askInts t (.arg 0) s
  let r := collectAll (materialize t.origin) asked.1 asked.2
  have hmakes : Makes t.origin asked.2 r.2 := makes_materializeAll t asked.2 asked.1
  have hgrows := (makes_askInts t w (.arg 0) s).grows.trans hmakes.grows
  have hroots : r.2.roots = w.roots :=
    ((w.keepsShown_askInts t (.arg 0) s).trans
      (keepsShown_materializeAll asked.2 t.origin asked.1)).roots
  have hr : r.2.toAssembler.Credited := hcredited.grow hw.grounded.toAssembler hgrows hroots
  show (bindLocal (r.2.addRoots t.origin r.1) _ _).toAssembler.Credited
  rw [toAssembler_bindLocal]
  refine credited_addRoots hr fun h hh => ?_
  obtain ⟨hlow, hhigh⟩ := new_materializeAll t asked.1 asked.2 h hh
  exact hmakes.owned h hlow hhigh

/-! ### Screens from widgets -/

/-- What is put on a screen is attributed first, with all that it holds. -/
theorem credited_showWidget (hw : Founded n old (∅, w)) (hcredited : w.toAssembler.Credited)
    (s : σ) : (w.showWidget t s).toAssembler.Credited := by
  let hs := w.bound (t.query.argLocal s 0)
  let tagged := hs.foldl (fun w h => w.tagTree t.origin h) w
  have hmoves : Moves t [s] (Set.univ, w) (Set.univ, tagged) :=
    moves_foldl (fun h _ w' => moves_tagTree w' (Set.mem_univ h)) w
  have hscene : tagged.scene = w.scene :=
    foldl_keeps (f := fun w => w.scene) (fun w h => w.scene_tagTree t.origin h) hs w
  have hroots : tagged.roots = w.roots := (w.keepsShown_tagTrees t.origin hs).roots
  have htagged : tagged.toAssembler.Credited :=
    hcredited.grow hw.grounded.toAssembler hmoves.grows hroots
  rw [showWidget_eq]
  dsimp only
  rw [toAssembler_bindLocal]
  refine credited_addRoots htagged fun h hh => ?_
  rw [hscene]
  exact mem_originsOf_tagTrees hs w (Or.inr ⟨h, hh, h, .refl, rfl⟩)

/-! ### Runs -/

theorem credited_perform (hw : Founded n old (∅, w)) (hcredited : w.toAssembler.Credited) (s : σ)
    (a : Action σ) : (w.perform t s a).toAssembler.Credited := by
  by_cases hlayout : a = .showLayout
  · subst hlayout
    exact credited_showLayout hw hcredited s
  by_cases hwidget : a = .showWidget
  · subst hwidget
    exact credited_showWidget hw hcredited s
  exact hcredited.grow hw.grounded.toAssembler (makes_perform t w s a).grows
    (roots_perform s hlayout hwidget)

theorem credited_step (hw : Founded n old (∅, w)) (hcredited : w.toAssembler.Credited) (s : σ) :
    (w.step t s).1.toAssembler.Credited := by
  have hmoves : Moves t [s] (∅, w) (∅, w.noteCall t s) := moves_noteCall w List.mem_cons_self
  have hroots : (w.noteCall t s).roots = w.roots := (w.keepsShown_noteCall t s).roots
  have hnoted : (w.noteCall t s).toAssembler.Credited :=
    hcredited.grow hw.grounded.toAssembler hmoves.grows hroots
  rw [step_eq]
  cases t.query.action s with
  | ok a => exact credited_perform (hmoves.founded hw) hnoted s a
  | error e => exact hnoted

theorem credited_run (sites : List σ) (hw : Founded n old (∅, w))
    (hcredited : w.toAssembler.Credited) : (run t sites w).1.toAssembler.Credited := by
  have hstep : ∀ (w : Work σ) (s : σ), Founded n old (∅, w) ∧ w.toAssembler.Credited →
      Founded n old (∅, (w.step t s).1) ∧ (w.step t s).1.toAssembler.Credited := by
    rintro w s ⟨hw, hcredited⟩
    have hmoves : Moves t [s] (∅, w) (∅, (w.step t s).1) := moves_step w List.mem_cons_self
    exact ⟨hmoves.founded hw, credited_step hw hcredited s⟩
  exact (run_keeps hstep sites ⟨hw, hcredited⟩).2

end Work

/-! ## Histories -/

namespace Assembler

variable {σ : Type} [DecidableEq σ] {n : Nat} {old : Scene} {a : Assembler σ}

theorem credited_assembleMethod (ha : a.Founded n old) (hcredited : a.Credited) (t : Task σ)
    (sites : List σ) : (a.assembleMethod t sites).assembler.Credited := by
  have hbegin : Work.Founded n old (∅, a.begin t sites) := (kept_founded n old).begins a _ ha
  have hrun := Work.credited_run (t := t) sites hbegin hcredited
  rw [assembler_assembleMethod]
  split
  · exact hrun
  · exact hrun

theorem founded_credited_assembled (ha : a.Founded n old ∧ a.Credited) (c : AssemblyCall σ) :
    (a.assembled c).Founded n old ∧ (a.assembled c).Credited := by
  have hmethod : ∀ (a : Assembler σ) (t : Task σ) (sites : List σ),
      a.Founded n old ∧ a.Credited → (a.assembleMethod t sites).assembler.Founded n old ∧
        (a.assembleMethod t sites).assembler.Credited :=
    fun a t sites ha => ⟨(kept_founded n old).assembleMethod ha.1 t sites,
      credited_assembleMethod ha.1 ha.2 t sites⟩
  refine assembled_keeps (P := fun a => a.Founded n old ∧ a.Credited) hmethod ?_ ha c
  exact fun a skipped ha => ⟨(kept_founded n old).skips a skipped ha.1, ha.2⟩

theorem founded_credited_foldl (calls : List (AssemblyCall σ)) :
    ∀ {a : Assembler σ}, a.Founded n old ∧ a.Credited →
      (calls.foldl assembled a).Founded n old ∧ (calls.foldl assembled a).Credited := by
  induction calls with
  | nil => exact fun ha => ha
  | cons c calls ih => exact fun ha => ih (founded_credited_assembled ha c)

omit [DecidableEq σ] in
theorem Prepared.credited (ha : a.Prepared) : a.Credited := by
  intro o h hh
  unfold screens at hh
  rw [ha.unassembled.2] at hh
  cases hh

omit [DecidableEq σ] in
/-- The guids that are attributed to a component are those of its widgets,
in the same order. -/
theorem Traced.map_guid_elementHandles (ha : a.Traced n) {outside : List Guid}
    (hguids : Identified a.scene outside) (o : Origin) :
    (a.elementHandles o).map (fun h => (a.scene.widget h).guid) = a.attribution.elementsOf o := by
  have hlookup : ∀ gs : List Guid, (∀ g ∈ gs, g ∈ a.attribution.elements.keys) →
      (gs.filterMap a.scene.findGuid?).map (fun h => (a.scene.widget h).guid) = gs := by
    intro gs
    induction gs with
    | nil => exact fun _ => rfl
    | cons g gs ih =>
        intro hkeys
        obtain ⟨h, -, hlt, rfl⟩ := ha g (hkeys g List.mem_cons_self)
        have hfind := Scene.findGuid?_guid hguids.increasing hlt
        rw [List.filterMap_cons_some hfind, List.map_cons,
          ih fun g' hg' => hkeys g' (List.mem_cons_of_mem _ hg')]
  exact hlookup _ fun g hg => OrderedMap.mem_keys_of_mem_taggedWith hg

/-- Attributions agree with the scene. After any calls on a prepared
assembler, every guid that is attributed is that of a widget of the scene;
the roots of each component are attributed to it; and the widgets of each
component are listed by their guids, in the order of the attributions, each
once, none of them being lost. -/
theorem attributions_consistent {a : Assembler σ} (ha : a.Prepared)
    (calls : List (AssemblyCall σ)) :
    let r := (calls.foldl assembled a).finish
    (∀ g ∈ r.attribution.elements.keys, ∃ h < r.scene.size, (r.scene.widget h).guid = g) ∧
      (∀ o, ∀ h ∈ r.rootsOf o, h < r.scene.size ∧
        o ∈ r.attribution.originsOf (r.scene.widget h).guid) ∧
      ∀ o, (r.elementsOf o).map (fun h => (r.scene.widget h).guid) = r.attribution.elementsOf o ∧
        (r.attribution.elementsOf o).map r.scene.findGuid? = (r.elementsOf o).map some ∧
        (r.elementsOf o).Nodup := by
  intro r
  let b := calls.foldl assembled a
  obtain ⟨hb, hcredited⟩ : b.Founded a.scene.size a.scene ∧ b.Credited :=
    founded_credited_foldl calls ⟨ha.founded, ha.credited⟩
  have hguids : Identified b.scene b.guidsOutside :=
    kept_identified.foldl_assembled calls ha.reachable.identified
  refine ⟨fun g hg => ?_, fun o h hh => ?_, fun o => ?_⟩
  · obtain ⟨h, -, hlt, hguid⟩ := hb.traced g hg
    exact ⟨h, hlt, hguid⟩
  · change h ∈ b.finish.rootsOf o at hh
    rw [rootsOf_finish] at hh
    rcases OrderedSet.mem_insertAll.mp hh with hshown | hfree
    · exact ⟨hb.grounded.lt_of_mem_screens hshown, hcredited o h hshown⟩
    · exact (mem_elementHandles hguids).mp (mem_parentless.mp hfree).1
  · have hmap : (b.elementHandles o).map (fun h => (b.scene.widget h).guid) =
        b.attribution.elementsOf o := hb.traced.map_guid_elementHandles hguids o
    refine ⟨hmap, ?_, ?_⟩
    · show (b.attribution.elementsOf o).map b.scene.findGuid? = (b.elementHandles o).map some
      rw [← hmap, List.map_map]
      refine List.map_congr_left fun h hh => ?_
      exact Scene.findGuid?_guid hguids.increasing ((mem_elementHandles hguids).mp hh).1
    · refine List.Nodup.of_map (fun h => (b.scene.widget h).guid) ?_
      rw [show r.elementsOf o = b.elementHandles o from rfl, hmap]
      exact ((List.filter_sublist).map Prod.fst).nodup b.attribution.elements.nodup

/-- One component shows its list and a box, another the same list. -/
theorem attributions_consistent_labelledBox :
    let t : Task Nat := .straightLine ["android.widget.ListView getListView()",
      "void setContentView(android.view.View)", "void setContentView(int)"]
    let other := Origin.activity "Other" ""
    let calls := [AssemblyCall.method t [0, 1, 2],
      AssemblyCall.method { t with origin := other } [0, 1]]
    let r := (calls.foldl assembled labelledBox).finish
    labelledBox.Prepared ∧ r.elementsOf t.origin = [2, 3, 4] ∧ r.elementsOf other = [2] ∧
      r.rootsOf t.origin = [2, 3] ∧ r.rootsOf other = [2] ∧
      (∀ g ∈ r.attribution.elements.keys, ∃ h < r.scene.size, (r.scene.widget h).guid = g) ∧
      (∀ o, ∀ h ∈ r.rootsOf o, h < r.scene.size ∧
        o ∈ r.attribution.originsOf (r.scene.widget h).guid) ∧
      ∀ o, (r.elementsOf o).map (fun h => (r.scene.widget h).guid) = r.attribution.elementsOf o ∧
        (r.attribution.elementsOf o).map r.scene.findGuid? = (r.elementsOf o).map some ∧
        (r.elementsOf o).Nodup := by
  intro t other calls r
  exact ⟨prepared_labelledBox, by decide +kernel, by decide +kernel, by decide +kernel,
    by decide +kernel, attributions_consistent prepared_labelledBox calls⟩

end Assembler

end UiRecovery
