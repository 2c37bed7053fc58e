import UiRecovery.Proofs.Confinement
import UiRecovery.Proofs.Identity
import UiRecovery.Proofs.Tagging

/-!
# The footprint of a method

A method knows of few of the widgets that it finds: those that its own
places stand for, those that its component shows, and what these hold. This
is its `Footprint`. All that it makes or finds later is new or in the
footprint, as `Confinement` has it, so that no other widget changes.

Attributions are kept by guid, not by handle. That a tag on a widget of the
footprint is none on a widget outside of it rests on the uniqueness of
guids, and `Framed` carries it along with the confinement.
-/

namespace UiRecovery

/-- No other handle has the guid of a widget: other widgets have guids of
their own, and a handle that was never issued has one that never was. -/
theorem Identified.guid_ne {s : Scene} {outside : List Guid} (hs : Identified s outside)
    {x y : Nat} (hx : x < s.size) (hne : y ≠ x) : (s.widget x).guid ≠ (s.widget y).guid := by
  intro heq
  by_cases hy : y < s.size
  · rcases Nat.lt_or_gt_of_ne hne with hlt | hgt
    · have := Scene.guid_lt_guid hs.increasing hlt hx
      rw [heq] at this
      exact Nat.lt_irrefl _ this
    · have := Scene.guid_lt_guid hs.increasing hgt hy
      rw [heq] at this
      exact Nat.lt_irrefl _ this
  · have hblank : s.widget y = default := by
      rw [Scene.widget, Scene.get?_eq_none_iff.mpr (Nat.le_of_not_lt hy)]
      rfl
    have hmem : (s.widget x).guid ∈ s.guids := by
      have hx' : x < s.widgets.length := hx
      rw [← Scene.getElem_widgets hx']
      exact List.mem_map_of_mem (List.getElem_mem hx')
    have hissued := (hs.issued _ (List.mem_append_left _ hmem)).1
    rw [heq, hblank] at hissued
    exact absurd hissued (by decide)

namespace Work

variable {σ : Type} [DecidableEq σ] {t : Task σ} {sites : List σ}

/-! ## What is attributed outside a region -/

/-- Within the region, with the attributions of all other widgets and the
screens of all other components as they were. -/
structure Framed (r : Region σ) (old : Assembler σ) (x : Set Nat × Work σ) : Prop where
  within : Within r old.scene x
  identified : Identified x.2.scene x.2.guidsOutside
  origins : ∀ h, ¬r.handle h →
    x.2.attribution.originsOf (x.2.scene.widget h).guid =
      old.attribution.originsOf (old.scene.widget h).guid
  roots : ∀ o, ¬r.component o → x.2.roots.get? o = old.roots.get? o

variable {r : Region σ} {old : Assembler σ}

theorem Framed.widget_eq {x : Set Nat × Work σ} (hx : Framed r old x) {h : Nat}
    (hh : ¬r.handle h) : x.2.scene.widget h = old.scene.widget h := by
  rw [Scene.widget, Scene.widget, hx.within.toAssembler.scene.same h hh]

theorem Move.framed {x y : Set Nat × Work σ} (h : Move t sites x y)
    (hplace : ∀ s ∈ sites, r.place s) (hcomponent : r.component t.origin)
    (hx : Framed r old x) : Framed r old y := by
  have hwithin := h.within hplace hcomponent hx.within
  have hidentified := h.identified hx.identified
  -- The widgets outside of the region are the old ones before and after.
  have hwidget : ∀ h, ¬r.handle h → y.2.scene.widget h = x.2.scene.widget h := by
    intro h hh
    rw [hx.widget_eq hh, Scene.widget, Scene.widget, hwithin.toAssembler.scene.same h hh]
  have hsame : y.2.attribution.elements = x.2.attribution.elements → ∀ h, ¬r.handle h →
      y.2.attribution.originsOf (y.2.scene.widget h).guid =
        old.attribution.originsOf (old.scene.widget h).guid := by
    intro helements h hh
    rw [hwidget h hh, ← hx.origins h hh, Attribution.originsOf, Attribution.originsOf, helements]
  cases h with
  | @tag H w h hh =>
      refine ⟨hwithin, hidentified, fun x' hx' => ?_, hx.roots⟩
      have hne : h ≠ x' := fun heq => hx' (heq ▸ hx.within.held h hh)
      have hlt : x' < w.scene.size := hx.within.toAssembler.scene.lt_size hx'
      rw [← hx.origins x' hx']
      exact OrderedMap.tagsOf_tag_of_ne (hx.identified.guid_ne hlt hne) t.origin
  | @addRoots H w hs hhs =>
      refine ⟨hwithin, hidentified, hx.origins, fun o ho => ?_⟩
      have hne : o ≠ t.origin := fun heq => ho (heq ▸ hcomponent)
      rw [← hx.roots o ho]
      exact (OrderedMap.get?_update ..).trans (if_neg hne)
  | _ => exact ⟨hwithin, hidentified, hsame rfl, hx.roots⟩

theorem Moves.framed {x y : Set Nat × Work σ} (h : Moves t sites x y)
    (hplace : ∀ s ∈ sites, r.place s) (hcomponent : r.component t.origin)
    (hx : Framed r old x) : Framed r old y := by
  induction h with
  | refl => exact hx
  | tail _ hmove ih => exact hmove.framed hplace hcomponent ih

end Work

namespace Assembler

variable {σ : Type} [DecidableEq σ]

/-! ## The footprint -/

/-- A widget that is known for one of the sites, or shown for the
component. -/
inductive Known (a : Assembler σ) (sites : List σ) (o : Origin) : Nat → Prop
  | merged (key : MergeKey σ) {h : Nat} (hkey : key.site ∈ sites)
      (hh : a.merged.get? key = some h) : Known a sites o h
  | screen {roots : OrderedSet Nat} {h : Nat} (hroots : a.roots.get? o = some roots)
      (hh : h ∈ roots) : Known a sites o h

/-- What is known for the sites and the component, and all that it holds. -/
def Footprint (a : Assembler σ) (sites : List σ) (o : Origin) (h : Nat) : Prop :=
  ∃ m, a.Known sites o m ∧ a.scene.Reaches m h

/-- The footprint and all that is not yet issued. -/
def reach (a : Assembler σ) (sites : List σ) (o : Origin) : Region σ where
  handle h := a.scene.size ≤ h ∨ a.Footprint sites o h
  place s := s ∈ sites
  component o' := o' = o

theorem within_reach (a : Assembler σ) (sites : List σ) (o : Origin) :
    a.Within (a.reach sites o) a.scene where
  scene :=
    { fresh := fun _ hh => Or.inl hh
      same := fun _ _ => rfl
      children := fun h hh c hc => by
        rcases hh with hh | ⟨m, hm, hreach⟩
        · obtain ⟨e, he, -⟩ := Scene.mem_children.mp hc
          rw [Scene.get?_eq_none_iff.mpr hh] at he
          cases he
        · exact Or.inr ⟨m, hm, hreach.tail hc⟩ }
  merged key h hkey hget := Or.inr ⟨h, .merged key hkey hget, .refl⟩
  roots o' roots ho hget h hh := by
    obtain rfl : o' = o := ho
    exact Or.inr ⟨h, .screen hget hh, .refl⟩

/-- The state at the start of a method is within its footprint. -/
theorem framed_begin {a : Assembler σ} (ha : Identified a.scene a.guidsOutside) (t : Task σ)
    (sites : List σ) : Work.Framed (a.reach sites t.origin) a (∅, a.begin t sites) where
  within := ⟨a.within_reach sites t.origin, nofun, nofun⟩
  identified := kept_identified.begins a _ ha
  origins _ _ := rfl
  roots _ _ := rfl

/-- The footprint of a method. A widget that nothing holds of what the
method's places stand for and what its component shows has the same record
and the same origins after the method, whether it fails or not, and the
screens of other components show what they did. -/
theorem outside_footprint_same {a : Assembler σ} (ha : a.Reachable) (t : Task σ)
    (sites : List σ) :
    let b := (a.assembleMethod t sites).assembler
    (∀ h < a.scene.size, ¬a.Footprint sites t.origin h →
      b.scene.get? h = a.scene.get? h ∧
        b.attribution.originsOf (b.scene.widget h).guid =
          a.attribution.originsOf (a.scene.widget h).guid) ∧
      ∀ o, o ≠ t.origin → b.roots.get? o = a.roots.get? o := by
  intro b
  let w := (Work.run t sites (a.begin t sites)).1
  have hw : Work.Framed (a.reach sites t.origin) a (∅, w) :=
    Work.Moves.framed (Work.moves_run sites (fun _ hs => hs) _) (fun _ hs => hs) rfl
      (framed_begin ha.identified t sites)
  -- Both endings hand over the scene, the attributions and the screens.
  have hend : b.scene = w.scene ∧ b.attribution = w.attribution ∧ b.roots = w.roots := by
    rw [show b = _ from assembler_assembleMethod a t sites]
    split
    · exact ⟨rfl, rfl, rfl⟩
    · exact ⟨rfl, rfl, rfl⟩
  obtain ⟨hscene, hattribution, hroots⟩ := hend
  refine ⟨fun h hlt hout => ?_, fun o ho => ?_⟩
  · have hh : ¬(a.reach sites t.origin).handle h := by
      rintro (hle | hin)
      · exact Nat.not_lt_of_le hle hlt
      · exact hout hin
    rw [hscene, hattribution]
    exact ⟨hw.within.toAssembler.scene.same h hh, hw.origins h hh⟩
  · rw [hroots]
    exact hw.roots o ho

/-- A box is shown for one screen, then another one for a second screen.
The first box stays as it is, and belongs to the first screen only. -/
theorem outside_footprint_same_labelledBox :
    let t := Task.straightLine ["void setContentView(int)", "void setText(int)"]
    let a := (labelledBox.assembleMethod t [0, 1]).assembler
    let t' : Task Nat := { t with origin := .activity "Other" "" }
    let b := (a.assembleMethod t' [0, 1]).assembler
    a.Reachable ∧ ¬a.Footprint [0, 1] t'.origin 2 ∧ b.scene.size = 6 ∧
      b.scene.get? 2 = a.scene.get? 2 ∧
      b.attribution.originsOf (b.scene.widget 2).guid = [t.origin] ∧
      b.roots.get? t.origin = a.roots.get? t.origin := by
  intro t a t' b
  have ha : a.Reachable := prepared_labelledBox.reachable.assembled (.method t [0, 1])
  have hmerged : a.merged = ∅ := by decide +kernel
  have hroots : a.roots.get? t'.origin = none := by decide +kernel
  have hout : ¬a.Footprint [0, 1] t'.origin 2 := by
    rintro ⟨m, hknown, -⟩
    cases hknown with
    | merged key hkey hh =>
        rw [hmerged] at hh
        cases hh
    | screen hget hh =>
        rw [hroots] at hget
        cases hget
  obtain ⟨hsame, hscreens⟩ := outside_footprint_same ha t' [0, 1]
  obtain ⟨hget, horigins⟩ := hsame 2 (by decide +kernel) hout
  refine ⟨ha, hout, by decide +kernel, hget, ?_, hscreens t.origin (by decide)⟩
  rw [horigins]
  decide +kernel

end Assembler

end UiRecovery
