import UiRecovery.Proofs.Handles
import UiRecovery.Proofs.Ownership
import UiRecovery.Proofs.Renaming
import UiRecovery.Proofs.Roots

/-!
# Twins

Work on a method from two states, of which one has more behind it than the
other. `Assembler.Alike k sites o a a'` says that for the places `sites` and
the component `o`, `a'` has what `a` has, under the names that the renaming
`k` gives: the same widgets, known from the same places, shown on the same
screens. What `a'` has besides, for other places and other components, does
not matter. `Work.Alike` adds the locals and the drafts.

Each operation of `Work`, done to both, leaves them alike. Only a tag asks
for more: it has to know that the widget is new, as other components may
have tagged whatever was there before. So `Work.Twin` keeps beside the
likeness where the work can reach (`Within`, `Bounded`), with the hand that
`Moves` has for it; there is one lemma for each operation, and its hand is
that of the operation's moves.
-/

namespace UiRecovery

/-! ## Without guids -/

def MenuItem.unnamed (item : MenuItem) : MenuItem := item.withGuid ⟨0⟩

def SubMenu.unnamed (sub : SubMenu) : SubMenu := ⟨sub.root.unnamed, sub.items.map MenuItem.unnamed⟩

/-- The menu up to the guids of its items. -/
def Menu.unnamed (m : Menu) : Menu :=
  { m with items := m.items.map MenuItem.unnamed, subMenu := m.subMenu.map SubMenu.unnamed }

def Button.unnamed (b : Button) : Button := b.withGuid ⟨0⟩

/-- The dialog up to the guids of its buttons. -/
def Dialog.unnamed (d : Dialog) : Dialog := { d with buttons := d.buttons.map Button.unnamed }

theorem MenuItem.map_unnamed_copyAll : ∀ (items : List MenuItem) (m : Mint),
    (copyAll items m).1.map unnamed = items.map unnamed
  | [], _ => rfl
  | item :: rest, m => congrArg (item.unnamed :: ·) (map_unnamed_copyAll rest m.draw.2)

theorem SubMenu.unnamed_copy (sub : SubMenu) (m : Mint) : (sub.copy m).1.unnamed = sub.unnamed :=
  congrArg (SubMenu.mk sub.root.unnamed) (MenuItem.map_unnamed_copyAll sub.items m.draw.2)

theorem Menu.unnamed_copy (menu : Menu) (m : Mint) : (menu.copy m).1.unnamed = menu.unnamed := by
  have hitems := MenuItem.map_unnamed_copyAll menu.items m
  unfold copy unnamed
  cases menu.subMenu with
  | none =>
      dsimp only
      rw [hitems]
  | some sub =>
      dsimp only
      rw [hitems, Option.map_some, SubMenu.unnamed_copy, Option.map_some]

/-! ## Lists and sets under a renaming -/

theorem OrderedSet.toList_insertAll_map {α β : Type} [DecidableEq α] [DecidableEq β] {f : α → β}
    (hf : Function.Injective f) :
    ∀ (as : List α) {s : OrderedSet α} {s' : OrderedSet β}, s'.toList = s.toList.map f →
      (s'.insertAll (as.map f)).toList = (s.insertAll as).toList.map f
  | [], _, _, hs => hs
  | a :: as, s, s', hs => by
      refine toList_insertAll_map hf as ?_
      have hmem : f a ∈ s' ↔ a ∈ s := by
        rw [mem_def, mem_def, hs]
        exact List.mem_map_of_injective hf
      rw [toList_insert, toList_insert]
      by_cases ha : a ∈ s
      · rw [if_pos ha, if_pos (hmem.mpr ha), hs]
      · rw [if_neg ha, if_neg (mt hmem.mp ha), hs, List.map_append]
        rfl

theorem OrderedMap.taggedWith_tag_map {κ : Type} [DecidableEq κ] {f : κ → κ}
    (hf : Function.Injective f) {m m' : OrderedMap κ (OrderedSet Origin)} {o : Origin} {key : κ}
    (hm : m'.taggedWith o = (m.taggedWith o).map f) (hkey : key ∈ m.keys → o ∈ m.tagsOf key)
    (hkey' : f key ∈ m'.keys → o ∈ m'.tagsOf (f key)) :
    (m'.tag (f key) o).taggedWith o = ((m.tag key o).taggedWith o).map f := by
  have hmem : o ∈ m'.tagsOf (f key) ↔ o ∈ m.tagsOf key := by
    rw [← mem_taggedWith, ← mem_taggedWith, hm]
    exact List.mem_map_of_injective hf
  by_cases ho : o ∈ m.tagsOf key
  · rw [tag_of_mem ho, tag_of_mem (hmem.mpr ho), hm]
  · rw [taggedWith_tag_of_not_mem (mt hkey ho),
      taggedWith_tag_of_not_mem (mt hkey' (mt hmem.mp ho)), hm, List.map_append]
    rfl

/-! ## Likeness -/

namespace Assembler

variable {σ : Type} [DecidableEq σ]

/-- A widget that was constructed at one of the sites, and has a dynamic
id. -/
def Constructed (sites : List σ) (a : Assembler σ) (h : Nat) : Prop :=
  ∃ s ∈ sites, a.merged.get? (.allocation s) = some h

/-- The menus of a component, up to guids. -/
def menusFor (a : Assembler σ) (o : Origin) : List Menu :=
  (a.menus.filter fun m => m.1 = o).map fun m => m.2.unnamed

/-- `a'` has for the sites and the component what `a` has, under the names
that `k` gives. -/
structure Alike (k : Renaming) (sites : List σ) (o : Origin) (a a' : Assembler σ) : Prop where
  settings : a'.settings = a.settings
  layouts : a'.layouts = a.layouts
  menuTemplates : a'.menuTemplates = a.menuTemplates
  templates : ∀ id layout, a.layouts.get? id = some layout → ∀ h ∈ layout.roots, h < k.base
  scene : a.scene.Renamed k (a.Constructed sites) a'.scene
  merged : ∀ key, key.site ∈ sites → a'.merged.get? key = (a.merged.get? key).map k.handle
  dynamic : a.nextDynamicId ≤ k.top ∧ a'.nextDynamicId ≤ k.top
  screens : (a'.screens o).toList = (a.screens o).toList.map k.handle
  elements : a'.attribution.elementsOf o = (a.attribution.elementsOf o).map k.guid
  /-- The widgets that came later are attributed to no other component
  alone, in `a` as in `a'`. -/
  owned : ∀ g ∈ a.attribution.elements.keys, k.issued < g.value → o ∈ a.attribution.originsOf g
  owned' : ∀ g ∈ a'.attribution.elements.keys, k.issued + k.drawn < g.value →
    o ∈ a'.attribution.originsOf g
  calls : ∀ signature, o ∈ a'.attribution.originsOfCall signature ↔
    o ∈ a.attribution.originsOfCall signature
  menus : a'.menusFor o = a.menusFor o

end Assembler

namespace Work

variable {σ : Type} [DecidableEq σ]

structure Alike (k : Renaming) (sites : List σ) (o : Origin) (w w' : Work σ) : Prop where
  toAssembler : w.toAssembler.Alike k sites o w'.toAssembler
  bound : ∀ name, w'.bound name = (w.bound name).map k.handle
  drafts : w'.drafts.map Dialog.unnamed = w.drafts.map Dialog.unnamed
  draftLocals : w'.draftLocals = w.draftLocals

namespace Alike

variable {k : Renaming} {sites : List σ} {o : Origin} {w w' : Work σ}

/-! ### Locals and logs -/

theorem report (h : Alike k sites o w w') (log log' : List LogLine)
    (selfCycles selfCycles' unknowns unknowns' : Nat) :
    Alike k sites o { w with log, selfCycles, unknowns }
      { w' with log := log', selfCycles := selfCycles', unknowns := unknowns' } :=
  ⟨h.toAssembler, h.bound, h.drafts, h.draftLocals⟩

end Alike

omit [DecidableEq σ] in
/-- Dynamic ids descend until the lowest one, which is drawn again and
again. -/
theorem nextDynamicId_drawId_le (w : Work σ) {top : Int32} (hw : w.nextDynamicId ≤ top) :
    w.drawId.2.nextDynamicId ≤ top := by
  unfold drawId
  dsimp only
  split
  · exact hw
  · rename_i hmin
    refine Int32.le_trans ?_ hw
    have hlow := Int32.le_toInt w.nextDynamicId
    have hhigh := Int32.toInt_lt w.nextDynamicId
    have hne : w.nextDynamicId.toInt ≠ -2147483648 := fun heq => hmin (Int32.toInt_inj.mp heq)
    rw [Int32.le_iff_toInt_le, Int32.toInt_sub, show (1 : Int32).toInt = 1 from rfl,
      Int.bmod_def]
    split <;> omega

namespace Alike

variable {k : Renaming} {sites : List σ} {o : Origin} {w w' : Work σ}

theorem bindLocal (h : Alike k sites o w w') (name : Option String) (hs : List Nat) :
    Alike k sites o (w.bindLocal name hs) (w'.bindLocal name (hs.map k.handle)) := by
  cases name with
  | none => exact h
  | some name =>
      refine ⟨h.toAssembler, fun name' => ?_, h.drafts, h.draftLocals⟩
      cases name' with
      | none => rfl
      | some name' =>
          rw [bound_bindLocal, bound_bindLocal]
          split
          · exact OrderedSet.toList_insertAll_map k.handle_injective hs rfl
          · exact h.bound (some name')

theorem unbindLocal (h : Alike k sites o w w') (name : Option String) :
    Alike k sites o (w.unbindLocal name) (w'.unbindLocal name) := by
  cases name with
  | none => exact h
  | some name =>
      have hforget : Alike k sites o (w.bindLocal (some name) []) (w'.bindLocal (some name) []) :=
        h.bindLocal (some name) []
      refine ⟨h.toAssembler, hforget.bound, h.drafts, ?_⟩
      exact congrArg (OrderedMap.erase · name) h.draftLocals

theorem bindDraft (h : Alike k sites o w w') (name : Option String) (draft : Nat) :
    Alike k sites o (w.bindDraft name draft) (w'.bindDraft name draft) := by
  cases name with
  | none => exact h
  | some name =>
      refine ⟨h.toAssembler, h.bound, h.drafts, ?_⟩
      exact congrArg (OrderedMap.insert · name draft) h.draftLocals

/-! ### The scene -/

/-- A change of the scenes alone. -/
theorem rescene (h : Alike k sites o w w') {scene scene' : Scene}
    (hscene : scene.Renamed k (w.toAssembler.Constructed sites) scene') :
    Alike k sites o { w with scene } { w' with scene := scene' } :=
  ⟨{ h.toAssembler with scene := hscene }, h.bound, h.drafts, h.draftLocals⟩

theorem modifyWidget (h : Alike k sites o w w') (x : Nat) {f : Widget → Widget}
    (hlearns : ∀ e : Widget, e.Learns (f e))
    (hf : ∀ (e : Widget) id guid,
      f (e.copyAs id guid k.handle) = (f e).copyAs id guid k.handle) :
    Alike k sites o (w.modifyWidget x f) (w'.modifyWidget (k.handle x) f) :=
  h.rescene (h.toAssembler.scene.modify x (fun e => ⟨(hlearns e).id, (hlearns e).guid⟩) hf)

theorem nameAfter (h : Alike k sites o w w') (x : Nat) (name : Option String) :
    Alike k sites o (w.nameAfter x name) (w'.nameAfter (k.handle x) name) := by
  cases name with
  | none => exact h
  | some name =>
      exact h.modifyWidget x (fun e => Widget.learns_nameAfter e name)
        fun e id guid => Widget.nameAfter_copyAs e id guid k.handle name

theorem attach (h : Alike k sites o w w') (parent child : Nat) :
    Alike k sites o (w.attach parent child)
      (w'.attach (k.handle parent) (k.handle child)) := by
  have hscene := h.toAssembler.scene
  have hcontains : (w'.scene.children (k.handle parent)).contains (k.handle child) =
      (w.scene.children parent).contains child := by
    rw [hscene.children, Bool.eq_iff_iff, List.contains_iff_mem, List.contains_iff_mem]
    exact List.mem_map_of_injective k.handle_injective
  rw [attach_eq, attach_eq, hcontains]
  split
  · exact h
  · cases hcontainer : w.scene.isContainer parent with
    | false =>
        rw [Scene.addChild_of_leaf hcontainer,
          Scene.addChild_of_leaf ((hscene.isContainer parent).trans hcontainer)]
        exact h
    | true =>
        obtain ⟨e, hget, he⟩ := Scene.exists_of_isContainer hcontainer
        obtain ⟨e', hget', he'⟩ :=
          Scene.exists_of_isContainer ((hscene.isContainer parent).trans hcontainer)
        rw [Scene.addChild_of_container hget he, Scene.addChild_of_container hget' he']
        by_cases hself : parent = child
        · rw [if_pos hself, if_pos (congrArg k.handle hself)]
          exact h.report _ _ _ _ _ _
        · rw [if_neg hself, if_neg fun heq => hself (k.handle_injective heq)]
          exact h.rescene (hscene.modify parent (fun _ => ⟨rfl, rfl⟩) fun e id guid =>
            Widget.appendChildren_copyAs e id guid k.handle [child])

theorem drawId (h : Alike k sites o w w') : Alike k sites o w.drawId.2 w'.drawId.2 := by
  refine ⟨{ h.toAssembler with dynamic := ?_ }, h.bound, h.drafts, h.draftLocals⟩
  exact ⟨w.nextDynamicId_drawId_le h.toAssembler.dynamic.1,
    w'.nextDynamicId_drawId_le h.toAssembler.dynamic.2⟩

theorem createWidget (h : Alike k sites o w w') (id : Int32) (className : String)
    {kind : WidgetKind} (hkind : kind.children = []) :
    Alike k sites o (w.createWidget id className kind).2 (w'.createWidget id className kind).2 :=
  h.rescene (h.toAssembler.scene.create className hkind (Or.inl rfl))

/-- The first widget for a place. Its id may differ only where it is
dynamic. -/
theorem createMerged (h : Alike k sites o w w') (key : MergeKey σ) (hkey : key.site ∈ sites)
    (hnew : w.merged.get? key = none) {id id' : Int32} (className : String) {kind : WidgetKind}
    (hkind : kind.children = [])
    (hid : id' = id ∨ (∃ s, key = .allocation s) ∧ id ≤ k.top ∧ id' ≤ k.top) :
    Alike k sites o
      { (w.createWidget id className kind).2 with
        merged := w.merged.insert key w.scene.size }
      { (w'.createWidget id' className kind).2 with
        merged := w'.merged.insert key w'.scene.size } := by
  have hold := h.toAssembler
  let after : Assembler σ := { w.toAssembler with merged := w.merged.insert key w.scene.size }
  have hmore : ∀ x, w.toAssembler.Constructed sites x → after.Constructed sites x := by
    rintro x ⟨s, hs, hx⟩
    refine ⟨s, hs, ?_⟩
    have hne : MergeKey.allocation s ≠ key := fun heq => by
      rw [heq, hnew] at hx
      cases hx
    exact (OrderedMap.get?_insert ..).trans ((if_neg hne).trans hx)
  have hscene := (hold.scene.weaken hmore).create className hkind (hid.imp_right (by
    rintro ⟨⟨s, rfl⟩, hids⟩
    exact ⟨⟨s, hkey, (OrderedMap.get?_insert ..).trans (if_pos rfl)⟩, hids⟩))
  refine ⟨{ hold with scene := hscene, merged := fun key' hkey' => ?_ }, h.bound, h.drafts,
    h.draftLocals⟩
  show (w'.merged.insert key w'.scene.size).get? key' =
    ((w.merged.insert key w.scene.size).get? key').map k.handle
  rw [OrderedMap.get?_insert, OrderedMap.get?_insert]
  split
  · exact congrArg some hold.scene.handle_size.symm
  · exact hold.merged key' hkey'

theorem copyRoot (h : Alike k sites o w w') {x : Nat} (hx : x < k.base)
    (hids : ∀ y, w.scene.Reaches x y → ¬w.toAssembler.Constructed sites y) :
    Alike k sites o (w.copyRoot x).2 (w'.copyRoot x).2 := by
  have hscene := h.toAssembler.scene.copy hids
  rw [Renaming.handle_of_lt hx] at hscene
  exact h.rescene hscene

/-! ### Attributions and screens -/

theorem tag (h : Alike k sites o w w') {x : Nat} (hlow : k.base ≤ x) (hhigh : x < w.scene.size) :
    Alike k sites o (w.tag o x) (w'.tag o (k.handle x)) := by
  have hold := h.toAssembler
  let g := (w.scene.widget x).guid
  have hguid : (w'.scene.widget (k.handle x)).guid = k.guid g := hold.scene.guid_widget x
  have hlate : k.issued < g.value := by
    refine hold.scene.named x (w.scene.widget x) hlow ?_
    rw [Scene.widget, Scene.get?, List.getElem?_eq_getElem hhigh]
    rfl
  have hlate' : k.issued + k.drawn < (k.guid g).value := by
    rw [Renaming.guid_of_lt hlate]
    exact Nat.add_lt_add_right hlate k.drawn
  have hkeys : ∀ {m : OrderedMap Guid (OrderedSet Origin)} {key : Guid} {bound : Nat},
      (∀ g ∈ m.keys, bound < g.value → o ∈ m.tagsOf g) →
      ∀ g ∈ (m.tag key o).keys, bound < g.value → o ∈ (m.tag key o).tagsOf g := by
    intro m key bound hm g hg hbound
    rw [OrderedMap.keys_tag] at hg
    rw [OrderedMap.mem_tagsOf_tag]
    by_cases hgk : g = key
    · exact Or.inr ⟨hgk, rfl⟩
    · refine Or.inl (hm g ?_ hbound)
      split at hg
      · exact hg
      · exact (List.mem_append.mp hg).resolve_right fun hmem => hgk (List.mem_singleton.mp hmem)
  refine ⟨{ hold with elements := ?_, owned := ?_, owned' := ?_ }, h.bound, h.drafts,
    h.draftLocals⟩
  · show (w'.attribution.elements.tag (w'.scene.widget (k.handle x)).guid o).taggedWith o =
      ((w.attribution.elements.tag g o).taggedWith o).map k.guid
    rw [hguid]
    exact OrderedMap.taggedWith_tag_map k.guid_injective hold.elements
      (fun hg => hold.owned g hg hlate) fun hg => hold.owned' _ hg hlate'
  · exact hkeys hold.owned
  · exact hkeys hold.owned'

theorem tagCall (h : Alike k sites o w w') (signature : String) :
    Alike k sites o { w with attribution := w.attribution.tagCall signature o }
      { w' with attribution := w'.attribution.tagCall signature o } := by
  refine ⟨{ h.toAssembler with calls := fun signature' => ?_ }, h.bound, h.drafts, h.draftLocals⟩
  show o ∈ (w'.attribution.calls.tag signature o).tagsOf signature' ↔
    o ∈ (w.attribution.calls.tag signature o).tagsOf signature'
  rw [OrderedMap.mem_tagsOf_tag, OrderedMap.mem_tagsOf_tag]
  exact or_congr_left (h.toAssembler.calls signature')

end Alike

omit [DecidableEq σ] in
theorem screens_addRoots (w : Work σ) (o : Origin) (hs : List Nat) :
    (w.addRoots o hs).screens o = (w.screens o).insertAll hs := by
  unfold addRoots
  split
  · rename_i hempty
    rw [List.isEmpty_iff.mp hempty]
    rfl
  · unfold Assembler.screens
    rw [OrderedMap.get?_update, if_pos rfl]
    rfl

namespace Alike

variable {k : Renaming} {sites : List σ} {o : Origin} {w w' : Work σ}

theorem addRoots (h : Alike k sites o w w') (hs : List Nat) :
    Alike k sites o (w.addRoots o hs) (w'.addRoots o (hs.map k.handle)) := by
  have hscreens : ((w'.addRoots o (hs.map k.handle)).screens o).toList =
      ((w.addRoots o hs).screens o).toList.map k.handle := by
    rw [screens_addRoots, screens_addRoots]
    exact OrderedSet.toList_insertAll_map k.handle_injective hs h.toAssembler.screens
  unfold Work.addRoots at hscreens ⊢
  rw [List.isEmpty_map] at hscreens ⊢
  split
  · exact h
  · rename_i hempty
    rw [if_neg hempty, if_neg hempty] at hscreens
    exact ⟨{ h.toAssembler with screens := hscreens }, h.bound, h.drafts, h.draftLocals⟩

/-! ### Menus and dialogs -/

theorem addMenu (h : Alike k sites o w w') (template : Menu) (type : MenuType)
    (listener : Option String) :
    Alike k sites o
      { w with
        scene := { w.scene with mint := (template.copy w.scene.mint).2 }
        menus := w.menus ++ [(o, { (template.copy w.scene.mint).1 with type, listener })] }
      { w' with
        scene := { w'.scene with mint := (template.copy w'.scene.mint).2 }
        menus := w'.menus ++ [(o, { (template.copy w'.scene.mint).1 with type, listener })] } := by
  have hold := h.toAssembler
  rw [template.snd_copy, template.snd_copy]
  refine ⟨{ hold with scene := hold.scene.advanceMint _, menus := ?_ }, h.bound, h.drafts,
    h.draftLocals⟩
  have hnames : Menu.unnamed { (template.copy w'.scene.mint).1 with type, listener } =
      Menu.unnamed { (template.copy w.scene.mint).1 with type, listener } := by
    have hcopies := (template.unnamed_copy w'.scene.mint).trans
      (template.unnamed_copy w.scene.mint).symm
    exact congrArg (fun m : Menu => { m with type, listener }) hcopies
  have hmenus : (w'.menus.filter fun m => m.1 = o).map (fun m => m.2.unnamed) =
      (w.menus.filter fun m => m.1 = o).map fun m => m.2.unnamed := hold.menus
  unfold Assembler.menusFor
  simp only [List.filter_append, List.map_append, hmenus, List.filter_cons, decide_true, if_true,
    List.filter_nil, List.map_cons, List.map_nil, hnames]

theorem addDraft (h : Alike k sites o w w') :
    Alike k sites o { w with drafts := w.drafts ++ [({} : Dialog)] }
      { w' with drafts := w'.drafts ++ [({} : Dialog)] } := by
  refine ⟨h.toAssembler, h.bound, ?_, h.draftLocals⟩
  show (w'.drafts ++ [({} : Dialog)]).map Dialog.unnamed =
    (w.drafts ++ [({} : Dialog)]).map Dialog.unnamed
  rw [List.map_append, List.map_append, h.drafts]

theorem length_drafts (h : Alike k sites o w w') : w'.drafts.length = w.drafts.length := by
  have hlength := congrArg List.length h.drafts
  rwa [List.length_map, List.length_map] at hlength

theorem modifyDraft (h : Alike k sites o w w') (draft : Nat) {f f' : Dialog → Dialog}
    (hf : ∀ d d' : Dialog, d'.unnamed = d.unnamed → (f' d').unnamed = (f d).unnamed) :
    Alike k sites o (w.modifyDraft draft f) (w'.modifyDraft draft f') := by
  refine ⟨h.toAssembler, h.bound, List.ext_getElem? fun i => ?_, h.draftLocals⟩
  have hdraft : (w'.drafts[i]?).map Dialog.unnamed = (w.drafts[i]?).map Dialog.unnamed := by
    rw [← List.getElem?_map, ← List.getElem?_map, h.drafts]
  simp only [Work.modifyDraft, List.getElem?_map, List.getElem?_modify]
  by_cases hi : draft = i
  · cases hd : w.drafts[i]? with
    | none =>
        rw [hd, Option.map_none, Option.map_eq_none_iff] at hdraft
        rw [hdraft]
        rfl
    | some d =>
        rw [hd, Option.map_some, Option.map_eq_some_iff] at hdraft
        obtain ⟨d', hd', hunnamed⟩ := hdraft
        rw [hd']
        simpa [hi] using hf d d' hunnamed
  · simpa [hi] using hdraft

end Alike

end Work

end UiRecovery
