import UiRecovery.Proofs.Coverage
import UiRecovery.Proofs.Lockstep
import UiRecovery.Proofs.Skipping

/-!
# Units that know nothing of each other

A unit writes for its own places and its own component. What is known for
other places and other components stays as it is (`beside_unit`). So a unit
that runs after others finds nothing that was meant for it, if it shares
neither a place nor the component with them: the assembler then has nothing
for it (`HasNothingFor`), as the one that the others began with had.

From there on it does what it would have done at first. The assembler that
it finds is alike, for the unit, to the one that the others began with,
under the renaming that leads past what they have made
(`AssemblesTo.twin_begin`). What all assembly keeps, and what this rests
on, is in `AssemblesTo`.
-/

namespace UiRecovery

namespace Assembler

variable {σ : Type} [DecidableEq σ]

/-! ## One unit -/

/-- What is left of one unit, as of a method, apart from the record that it
was skipped. -/
theorem assembled_unit (a : Assembler σ) (q : Query σ) (o : Oracle σ) (u : MethodUnit σ) :
    let t : Task σ := ⟨q, o, u.origin⟩
    let r := Work.run t u.sites (a.begin t u.sites)
    a.assembled (.units q o [u]) =
      match r.2 with
      | some e => { r.1.toAssembler with skipped := a.skipped ++ [skippedMethod q u.sites e] }
      | none => r.1.toAssembler.addDialogs u.origin r.1.drafts := by
  have hskipped := (untouched_run a ⟨q, o, u.origin⟩ u.sites).skipped
  show (assembleNext q o { assembler := a, stats := [], log := [] } u).assembler = _
  unfold assembleNext assembleMethod
  dsimp only
  rw [← hskipped]
  cases Work.run ⟨q, o, u.origin⟩ u.sites (a.begin ⟨q, o, u.origin⟩ u.sites) with
  | mk w failure => cases failure <;> rfl

theorem assembled_units_cons (a : Assembler σ) (q : Query σ) (o : Oracle σ) (u : MethodUnit σ)
    (units : List (MethodUnit σ)) :
    a.assembled (.units q o (u :: units)) =
      (a.assembled (.units q o [u])).assembled (.units q o units) := by
  have hnext : ∀ (r r' : UnitsRun σ) (v : MethodUnit σ), r.assembler = r'.assembler →
      (assembleNext q o r v).assembler = (assembleNext q o r' v).assembler := by
    intro r r' v hr
    unfold assembleNext
    rw [hr]
    dsimp only
    split <;> rfl
  have hunits : ∀ (vs : List (MethodUnit σ)) (r r' : UnitsRun σ), r.assembler = r'.assembler →
      (vs.foldl (assembleNext q o) r).assembler = (vs.foldl (assembleNext q o) r').assembler := by
    intro vs
    induction vs with
    | nil => exact fun r r' hr => hr
    | cons v vs ih => exact fun r r' hr => ih _ _ (hnext r r' v hr)
  exact hunits units _ _ rfl

/-! ## What is beside a unit -/

/-- The dialogs of a component, up to guids. -/
def dialogsFor (a : Assembler σ) (o : Origin) : List Dialog :=
  (a.dialogs.filter fun d => d.1 = o).map fun d => d.2.unnamed

/-- For other places and other components, `b` knows what `a` knows. -/
structure Beside (sites : List σ) (o : Origin) (a b : Assembler σ) : Prop where
  merged : ∀ key : MergeKey σ, key.site ∉ sites → b.merged.get? key = a.merged.get? key
  screens : ∀ o', o' ≠ o → b.screens o' = a.screens o'
  elements : ∀ o', o' ≠ o → b.attribution.elementsOf o' = a.attribution.elementsOf o'
  calls : ∀ o', o' ≠ o → b.attribution.callsOf o' = a.attribution.callsOf o'
  menus : ∀ o', o' ≠ o → b.menusFor o' = a.menusFor o'
  dialogs : ∀ o', o' ≠ o → b.dialogsFor o' = a.dialogsFor o'

namespace Beside

variable {sites : List σ} {o : Origin} {a b c : Assembler σ}

theorem refl (a : Assembler σ) : Beside sites o a a :=
  ⟨fun _ _ => rfl, fun _ _ => rfl, fun _ _ => rfl, fun _ _ => rfl, fun _ _ => rfl,
    fun _ _ => rfl⟩

theorem trans (h : Beside sites o a b) (h' : Beside sites o b c) : Beside sites o a c where
  merged key hkey := (h'.merged key hkey).trans (h.merged key hkey)
  screens o' ho := (h'.screens o' ho).trans (h.screens o' ho)
  elements o' ho := (h'.elements o' ho).trans (h.elements o' ho)
  calls o' ho := (h'.calls o' ho).trans (h.calls o' ho)
  menus o' ho := (h'.menus o' ho).trans (h.menus o' ho)
  dialogs o' ho := (h'.dialogs o' ho).trans (h.dialogs o' ho)

end Beside

end Assembler

namespace Work

variable {σ : Type} [DecidableEq σ] {t : Task σ} {sites : List σ}

theorem Move.beside {x y : Set Nat × Work σ} (h : Move t sites x y) :
    x.2.toAssembler.Beside sites t.origin y.2.toAssembler := by
  have hmerge : ∀ (key : MergeKey σ) (h : Nat), key.site ∈ sites → ∀ key' : MergeKey σ,
      key'.site ∉ sites → (x.2.merged.insert key h).get? key' = x.2.merged.get? key' := by
    intro key h hkey key' hkey'
    have hne : key' ≠ key := fun heq => hkey' (heq ▸ hkey)
    rw [OrderedMap.get?_insert, if_neg hne]
  have hsame : x.2.toAssembler.Beside sites t.origin x.2.toAssembler := .refl _
  cases h with
  | tag => exact { hsame with elements := fun o' ho => OrderedMap.taggedWith_tag_of_ne _ _ ho }
  | addRoots =>
      refine { hsame with screens := fun o' ho => congrArg (Option.getD · ∅) ?_ }
      exact (OrderedMap.get?_update ..).trans (if_neg ho)
  | lookup className kind hs =>
      exact { hsame with merged := hmerge (.lookup _ _) _ hs }
  | allocation className kind hs =>
      exact { hsame with merged := hmerge (.allocation _) _ hs }
  | menu =>
      refine { hsame with menus := fun o' ho => ?_ }
      have hne : t.origin ≠ o' := fun heq => ho heq.symm
      simp [Assembler.menusFor, List.filter_append, hne]
  | call => exact { hsame with calls := fun o' ho => OrderedMap.taggedWith_tag_of_ne _ _ ho }
  | _ => exact { hsame with }

theorem Moves.beside {x y : Set Nat × Work σ} (h : Moves t sites x y) :
    x.2.toAssembler.Beside sites t.origin y.2.toAssembler := by
  induction h with
  | refl => exact .refl _
  | tail _ hmove ih => exact ih.trans hmove.beside

end Work

namespace Assembler

variable {σ : Type} [DecidableEq σ]

theorem beside_unit (a : Assembler σ) (q : Query σ) (o : Oracle σ) (u : MethodUnit σ) :
    a.Beside u.sites u.origin (a.assembled (.units q o [u])) := by
  let t : Task σ := ⟨q, o, u.origin⟩
  have hwork : a.Beside u.sites t.origin (Work.run t u.sites (a.begin t u.sites)).1.toAssembler :=
    Work.Moves.beside (Work.moves_run u.sites (fun _ hs => hs) (a.begin t u.sites))
  rw [assembled_unit]
  split
  · exact { hwork with }
  · refine { hwork with dialogs := fun o' ho => ?_ }
    have hne : u.origin ≠ o' := fun heq => ho heq.symm
    rw [← hwork.dialogs o' ho]
    simp [dialogsFor, addDialogs, List.filter_append, List.filter_map, Function.comp_def, hne, t]

/-! ## What a unit finds -/

/-- Nothing is known yet for the unit. -/
structure HasNothingFor (c : Assembler σ) (u : MethodUnit σ) : Prop where
  merged : ∀ key : MergeKey σ, key.site ∈ u.sites → c.merged.get? key = none
  screens : c.screens u.origin = ∅
  elements : c.attribution.elementsOf u.origin = []
  calls : c.attribution.callsOf u.origin = []
  menus : c.menusFor u.origin = []
  dialogs : c.dialogsFor u.origin = []

theorem Prepared.hasNothingFor {a : Assembler σ} (ha : a.Prepared) (u : MethodUnit σ) :
    a.HasNothingFor u where
  merged key _ := by
    rw [ha.unassembled.1]
    rfl
  screens := by
    unfold screens
    rw [ha.unassembled.2]
    rfl
  elements := by
    rw [congrArg attribution ha.pristine]
    rfl
  calls := by
    rw [congrArg attribution ha.pristine]
    rfl
  menus := by
    unfold menusFor
    rw [congrArg Assembler.menus ha.pristine]
    rfl
  dialogs := by
    unfold dialogsFor
    rw [congrArg Assembler.dialogs ha.pristine]
    rfl

theorem HasNothingFor.not_mem_originsOfCall {c : Assembler σ} {u : MethodUnit σ}
    (hu : c.HasNothingFor u) (signature : String) :
    u.origin ∉ c.attribution.originsOfCall signature := by
  intro ho
  have hcalls : c.attribution.calls.taggedWith u.origin = [] := hu.calls
  have hmem := OrderedMap.mem_taggedWith.mpr ho
  rw [hcalls] at hmem
  cases hmem

/-- A unit that shares nothing with `u` leaves things so. -/
theorem HasNothingFor.unit {c : Assembler σ} {u v : MethodUnit σ} (hu : c.HasNothingFor u)
    (hsites : u.sites.Disjoint v.sites) (horigin : u.origin ≠ v.origin) (q : Query σ)
    (o : Oracle σ) : (c.assembled (.units q o [v])).HasNothingFor u := by
  have hbeside := c.beside_unit q o v
  exact
    { merged := fun key hkey => (hbeside.merged key (hsites hkey)).trans (hu.merged key hkey)
      screens := (hbeside.screens _ horigin).trans hu.screens
      elements := (hbeside.elements _ horigin).trans hu.elements
      calls := (hbeside.calls _ horigin).trans hu.calls
      menus := (hbeside.menus _ horigin).trans hu.menus
      dialogs := (hbeside.dialogs _ horigin).trans hu.dialogs }

theorem HasNothingFor.within {c : Assembler σ} {u : MethodUnit σ} (hu : c.HasNothingFor u) :
    c.Within (.ahead c.scene.size u.sites u.origin) c.scene where
  scene := .refl c.scene
  merged key h hkey hget := by
    rw [hu.merged key hkey] at hget
    cases hget
  roots o roots ho hget h hh := by
    obtain rfl : o = u.origin := ho
    have hempty : roots = ∅ := by
      have hscreens := hu.screens
      rwa [Assembler.screens, hget] at hscreens
    rw [hempty] at hh
    cases hh

/-- A unit that nothing is known for changes nothing that it finds, and
what it makes holds nothing of it. -/
theorem HasNothingFor.within_unit {c : Assembler σ} {u : MethodUnit σ} (hu : c.HasNothingFor u)
    (q : Query σ) (o : Oracle σ) :
    (c.assembled (.units q o [u])).Within (.ahead c.scene.size u.sites u.origin) c.scene := by
  let t : Task σ := ⟨q, o, u.origin⟩
  have hbegin : Work.Within (.ahead c.scene.size u.sites u.origin) c.scene
      (∅, c.begin t u.sites) := ⟨hu.within, nofun, nofun⟩
  have hmoves : Work.Moves t u.sites (∅, c.begin t u.sites)
      (∅, (Work.run t u.sites (c.begin t u.sites)).1) :=
    Work.moves_run u.sites (fun _ hs => hs) _
  have hwork := (hmoves.within (fun _ hs => hs) rfl hbegin).toAssembler
  rw [assembled_unit]
  split
  · exact ⟨hwork.scene, hwork.merged, hwork.roots⟩
  · exact ⟨hwork.scene, hwork.merged, hwork.roots⟩

/-! ## What goes on from the same templates -/

/-- `c` reads what `a` reads, and draws ids and guids beyond those of
`a`. -/
structure Continues (a c : Assembler σ) : Prop where
  settings : c.settings = a.settings
  layouts : c.layouts = a.layouts
  menuTemplates : c.menuTemplates = a.menuTemplates
  dynamic : c.nextDynamicId ≤ a.settings.dynamicIdStart
  issued : a.scene.mint.issued ≤ c.scene.mint.issued

end Assembler

theorem Work.Move.continues {σ : Type} [DecidableEq σ] {t : Task σ} {sites : List σ}
    {a : Assembler σ} {x y : Set Nat × Work σ} (h : Move t sites x y)
    (hx : a.Continues x.2.toAssembler) : a.Continues y.2.toAssembler := by
  have hissued : ∀ n, a.scene.mint.issued ≤ x.2.scene.mint.issued + n := fun n =>
    Nat.le_add_right_of_le hx.issued
  cases h with
  | lookup => exact { hx with issued := hissued 1 }
  | @allocation _ w =>
      exact { hx with dynamic := w.nextDynamicId_drawId_le hx.dynamic, issued := hissued 1 }
  | slot => exact { hx with issued := hissued 1 }
  | copy =>
      refine { hx with issued := ?_ }
      rw [Scene.copy_eq, Scene.mint_copyWithId]
      exact hissued _
  | menu => exact { hx with issued := hissued _ }
  | button => exact { hx with issued := hissued 1 }
  | _ => exact { hx with }

namespace Assembler

variable {σ : Type} [DecidableEq σ]

theorem kept_continues (a : Assembler σ) :
    Kept a.Continues fun x => a.Continues x.2.toAssembler where
  begins _ _ hc := hc
  moves hmove hx := hmove.continues hx
  fails _ hw := hw
  ends _ _ hw := { hw with }
  skips _ _ hc := { hc with }

/-- `c` comes from `a` by assembly. -/
structure AssemblesTo (a c : Assembler σ) : Prop extends Continues a c where
  reachable : c.Reachable
  settled : c.Settled a.scene.size a.scene

theorem Prepared.assemblesTo_self {a : Assembler σ} (ha : a.Prepared) (hrange : a.scene.InRange) :
    a.AssemblesTo a where
  settings := rfl
  layouts := rfl
  menuTemplates := rfl
  dynamic := by
    rw [congrArg nextDynamicId ha.pristine]
    exact Int32.le_refl _
  issued := le_rfl
  reachable := ha.reachable
  settled := ha.settled hrange

theorem AssemblesTo.assembled {a c : Assembler σ} (hc : a.AssemblesTo c) (call : AssemblyCall σ) :
    a.AssemblesTo (c.assembled call) where
  toContinues := (kept_continues a).assembled hc.toContinues call
  reachable := hc.reachable.assembled call
  settled := (kept_settled _ _).assembled hc.settled call

theorem AssemblesTo.size_le {a c : Assembler σ} (hc : a.AssemblesTo c) :
    a.scene.size ≤ c.scene.size :=
  hc.settled.within.scene.fresh c.scene.size le_rfl

end Assembler

/-! ## Both beginnings are alike -/

/-- What is made from `c` instead of from `a` comes behind what `c` has made
already. -/
def Renaming.past {σ : Type} (a c : Assembler σ) : Renaming where
  base := a.scene.size
  gap := c.scene.size - a.scene.size
  issued := a.scene.mint.issued
  drawn := c.scene.mint.issued - a.scene.mint.issued
  top := a.settings.dynamicIdStart

theorem Identified.guid_le {s : Scene} {outside : List Guid} (hs : Identified s outside) {h : Nat}
    (hh : h < s.size) : (s.widget h).guid.value ≤ s.mint.issued := by
  have hlength : h < s.widgets.length := hh
  rw [← Scene.getElem_widgets hlength]
  exact (hs.issued _ (List.mem_append_left _
    (List.mem_map_of_mem (List.getElem_mem hlength)))).2

namespace Assembler

variable {σ : Type} [DecidableEq σ] {a c : Assembler σ}

/-- As far as `a` goes, the scenes are the same. -/
theorem AssemblesTo.renamed (ha : a.Prepared) (hrange : a.scene.InRange) (hc : a.AssemblesTo c)
    (free : Nat → Prop) : a.scene.Renamed (.past a c) free c.scene where
  base_le := le_rfl
  size := (Nat.add_sub_of_le hc.size_le).symm
  issued_le := le_rfl
  mint := (Nat.add_sub_of_le hc.issued).symm
  named h e hh he := absurd (Scene.lt_size_of_get? he) (Nat.not_lt_of_le hh)
  copied h e he := by
    have hlt : h < a.scene.size := Scene.lt_size_of_get? he
    have hsame := hc.settled.within.scene.same h (Nat.not_le_of_lt hlt)
    have hchildren : ∀ x ∈ e.children, (Renaming.past a c).handle x = x := fun x hx =>
      Renaming.handle_of_lt (hrange h x (Scene.mem_children.mpr ⟨e, he, hx⟩))
    have hwidget : a.scene.widget h = e := by
      rw [Scene.widget, he]
      rfl
    have hguid : e.guid.value ≤ a.scene.mint.issued :=
      hwidget ▸ ha.reachable.identified.guid_le hlt
    rw [Renaming.handle_of_lt hlt, Renaming.guid_of_le hguid]
    exact ⟨e, hsame.trans he, (Widget.copyAs_self hchildren).symm, Or.inl rfl⟩

/-- A unit that nothing is known for begins alike on `a` and on what comes
from `a`. -/
theorem AssemblesTo.twin_begin (ha : a.Prepared) (hrange : a.scene.InRange) (hc : a.AssemblesTo c)
    {u : MethodUnit σ} (hu : c.HasNothingFor u) (q : Query σ) (o : Oracle σ) :
    let t : Task σ := ⟨q, o, u.origin⟩
    Work.Twin (.past a c) t u.sites a.scene ∅ (a.begin t u.sites) (c.begin t u.sites) := by
  intro t
  have hua := ha.hasNothingFor u
  -- Whatever is attributed was there before.
  have hold : ∀ g ∈ c.attribution.elements.keys, g.value ≤ c.scene.mint.issued := by
    intro g hg
    obtain ⟨h, -, hlt, rfl⟩ := hc.settled.traced g hg
    exact hc.reachable.identified.guid_le hlt
  refine ⟨⟨hua.within, nofun, nofun⟩, kept_bounded.begins a _ (ha.bounded hrange),
    fun h _ x hx => hrange h x hx, ⟨?_, fun name => by cases name <;> rfl, rfl, rfl⟩⟩
  show a.Alike (.past a c) u.sites u.origin c
  exact
    { settings := hc.settings
      layouts := hc.layouts
      menuTemplates := hc.menuTemplates
      templates := ha.layouts_inRange
      scene := hc.renamed ha hrange _
      merged := fun key hkey => by
        rw [hu.merged key hkey, hua.merged key hkey]
        rfl
      dynamic := ⟨(ha.assemblesTo_self hrange).dynamic, hc.dynamic⟩
      screens := by
        rw [hu.screens, hua.screens]
        rfl
      elements := by
        rw [hu.elements, hua.elements]
        rfl
      owned := fun g hg => by
        rw [congrArg attribution ha.pristine] at hg
        cases hg
      owned' := fun g hg hlt => by
        have hle := hold g hg
        have hissued := hc.issued
        simp only [Renaming.past] at hlt
        omega
      calls := fun signature =>
        iff_of_false (hu.not_mem_originsOfCall signature) (hua.not_mem_originsOfCall signature)
      menus := hu.menus.trans hua.menus.symm }

end Assembler

end UiRecovery
