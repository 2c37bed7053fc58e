import Mathlib.Data.List.Nodup
import Mathlib.Data.List.Perm.Subperm
import UiRecovery.Proofs.Histories

/-!
# Identities are unique

One mint names the widgets, the items of the menus and the buttons of the
dialogs. `Identified` is the invariant behind that: what is in use was
handed out by the scene's mint, nothing was handed out twice, and widgets
were named in the order of their handles.

A step of the work draws the next few guids. Some go to new widgets, some
to items and buttons, and some to nobody: those of a dialog whose method
fails are dropped, and those of a registered menu are never in use, as
each showing is named anew. So the invariant is about a list that loses
members as well as it gains them, and `Identified.draw` allows for both.
-/

namespace UiRecovery

/-! ## The guids in use -/

/-- The guids of all items: the menu's own, then the root of the submenu,
then its items. -/
def Menu.guids (m : Menu) : List Guid :=
  m.items.map MenuItem.guid ++
    match m.subMenu with
    | some sub => sub.root.guid :: sub.items.map MenuItem.guid
    | none => []

def Dialog.guids (d : Dialog) : List Guid := d.buttons.map Button.guid

def Scene.guids (s : Scene) : List Guid := s.widgets.map Widget.guid

/-- The guids of what is not in the scene. -/
def Assembler.guidsOutside {σ : Type} (a : Assembler σ) : List Guid :=
  a.menus.flatMap (fun e => e.2.guids) ++ a.dialogs.flatMap (fun e => e.2.guids)

def Work.guidsOutside {σ : Type} (w : Work σ) : List Guid :=
  w.toAssembler.guidsOutside ++ w.drafts.flatMap Dialog.guids

/-- The guids of all that an assembler has recovered. -/
def Assembler.guids {σ : Type} (a : Assembler σ) : List Guid :=
  a.scene.guids ++ a.guidsOutside

/-! ## Batches of guids -/

namespace Mint

/-- The next `n` guids of the mint, after the first `skipped` of them. -/
def batch (m : Mint) (skipped n : Nat) : List Guid := (List.range' skipped n).map m.nth

theorem mem_batch {m : Mint} {n : Nat} {g : Guid} :
    g ∈ m.batch 0 n ↔ m.issued < g.value ∧ g.value ≤ m.issued + n := by
  unfold batch
  rw [List.mem_map]
  constructor
  · rintro ⟨i, hi, rfl⟩
    have hlt := (List.mem_range'_1.mp hi).2
    simp only [nth]
    omega
  · rintro ⟨hlow, hhigh⟩
    refine ⟨g.value - m.issued - 1, List.mem_range'_1.mpr (by omega), ?_⟩
    cases g with
    | mk value =>
        simp only [nth, Guid.mk.injEq] at hlow ⊢
        omega

theorem pairwise_batch (m : Mint) (n : Nat) :
    (m.batch 0 n).Pairwise fun g g' => g.value < g'.value := by
  refine List.pairwise_map.mpr ((List.pairwise_lt_range' (s := 0) (n := n)).imp ?_)
  intro i j hij
  simp only [nth]
  omega

theorem batch_append (m : Mint) (skipped k n : Nat) :
    m.batch skipped k ++ m.batch (skipped + k) n = m.batch skipped (k + n) := by
  unfold batch
  rw [← List.map_append, List.range'_append_1]

theorem batch_advance (m : Mint) (k skipped n : Nat) :
    (m.advance k).batch skipped n = m.batch (k + skipped) n := by
  unfold batch
  rw [← List.map_add_range', List.map_map]
  refine List.map_congr_left fun i _ => congrArg Guid.mk ?_
  simp only [issued_advance]
  omega

/-- Things that are named in turn have the guids of a batch. -/
theorem map_guid_mapIdx {α β : Type} {guid : β → Guid} {f : Nat → α → β} {m : Mint}
    {skipped : Nat} {as : List α} (hf : ∀ i a, guid (f i a) = m.nth (skipped + i)) :
    (as.mapIdx f).map guid = m.batch skipped as.length := by
  induction as generalizing f skipped with
  | nil => rfl
  | cons a as ih =>
      have hrest : ∀ i a, guid (f (i + 1) a) = m.nth (skipped + 1 + i) := by
        intro i a
        rw [hf, Nat.add_assoc, Nat.add_comm 1 i]
      rw [List.mapIdx_cons, List.map_cons, hf, ih hrest]
      rfl

end Mint

/-- Items that are copied one after the other have the next guids of the
mint, in their order. -/
theorem MenuItem.guids_copyAll : ∀ (items : List MenuItem) (m : Mint),
    (copyAll items m).1.map guid = m.batch 0 items.length
  | [], _ => rfl
  | item :: rest, m => by
      calc (copyAll (item :: rest) m).1.map guid
        _ = m.next :: (copyAll rest (m.advance 1)).1.map guid := rfl
        _ = m.batch 0 1 ++ (m.advance 1).batch 0 rest.length := by rw [guids_copyAll rest]; rfl
        _ = m.batch 0 (item :: rest).length := by
          rw [Mint.batch_advance, Mint.batch_append, List.length_cons, Nat.add_comm]

/-- A menu that is shown has the next guids of the mint. -/
theorem Menu.guids_copy (menu : Menu) (m : Mint) :
    (menu.copy m).1.guids = m.batch 0 menu.itemCount := by
  have hitems := MenuItem.guids_copyAll menu.items m
  unfold guids itemCount copy
  cases menu.subMenu with
  | none => exact (List.append_nil _).trans hitems
  | some sub =>
      -- The submenu goes on with the mint that the own items have left.
      let left := (MenuItem.copyAll menu.items m).2
      have hleft : left = m.advance menu.items.length := MenuItem.snd_copyAll menu.items m
      have hsub : left.next :: (MenuItem.copyAll sub.items (left.advance 1)).1.map MenuItem.guid =
          left.batch 0 (sub.items.length + 1) :=
        MenuItem.guids_copyAll (sub.root :: sub.items) left
      show (MenuItem.copyAll menu.items m).1.map MenuItem.guid ++
        left.next :: (MenuItem.copyAll sub.items (left.advance 1)).1.map MenuItem.guid = _
      have happend := m.batch_append 0 menu.items.length (sub.items.length + 1)
      rw [Nat.zero_add] at happend
      rw [hitems, hsub, hleft, Mint.batch_advance, Nat.add_zero, happend]

/-! ## Guids of a scene -/

namespace Scene

theorem guids_modify (s : Scene) (h : Nat) {f : Widget → Widget}
    (hf : ∀ e : Widget, (f e).guid = e.guid) : (s.modify h f).guids = s.guids := by
  refine List.ext_getElem? fun i => ?_
  simp only [guids, modify, List.getElem?_map, List.getElem?_modify]
  cases s.widgets[i]? with
  | none => rfl
  | some e =>
      by_cases hi : h = i
      · simp [hi, hf]
      · simp [hi]

theorem guids_create (s : Scene) (id : Int32) (className : String) (kind : WidgetKind) :
    (s.create id className kind).2.guids = s.guids ++ s.mint.batch 0 1 :=
  List.map_append

theorem guids_copyWithId (s : Scene) (h : Nat) (id : Int32) :
    (s.copyWithId h id).2.guids = s.guids ++ s.mint.batch 0 (s.depthFirst h).length := by
  have hcopies : (s.copies (s.depthFirst h) h id).map Widget.guid =
      s.mint.batch 0 (s.depthFirst h).length :=
    Mint.map_guid_mapIdx fun i _ => by rw [Nat.zero_add]; rfl
  rw [← hcopies, guids, widgets_copyWithId]
  exact List.map_append

end Scene

/-! ## The invariant -/

/-- The widgets of the scene and the owners of the guids `outside` were
named by the scene's mint, no two alike, and the widgets in the order of
their handles. -/
structure Identified (s : Scene) (outside : List Guid) : Prop where
  nodup : (s.guids ++ outside).Nodup
  issued : ∀ g ∈ s.guids ++ outside, 1 ≤ g.value ∧ g.value ≤ s.mint.issued
  increasing : s.guids.Pairwise fun g g' => g.value < g'.value

namespace Identified

variable {s s' : Scene} {outside outside' : List Guid}

/-- What the mint will hand out is not in use. -/
theorem not_mem_of_mem_batch {n : Nat} {g : Guid} (h : Identified s outside)
    (hg : g ∈ s.mint.batch 0 n) : g ∉ s.guids ++ outside := by
  intro hused
  have hle := (h.issued g hused).2
  have hlt := (Mint.mem_batch.mp hg).1
  omega

/-- Draw `n` guids: `new` for widgets, the others for whom it may
concern. -/
theorem draw {new others : List Guid} {n : Nat} (h : Identified s outside)
    (hbatch : new ++ others = s.mint.batch 0 n) (hmint : s'.mint = s.mint.advance n)
    (hguids : s'.guids = s.guids ++ new) (houtside : outside'.Subperm (outside ++ others)) :
    Identified s' outside' := by
  have hlater : ∀ g ∈ s.guids ++ outside, ∀ g' ∈ s.mint.batch 0 n, g.value < g'.value := by
    intro g hg g' hg'
    have hle := (h.issued g hg).2
    have hlt := (Mint.mem_batch.mp hg').1
    omega
  -- All that is in use now was in use before or is in the batch.
  have hall : (s'.guids ++ outside').Subperm (s.guids ++ outside ++ s.mint.batch 0 n) := by
    rw [hguids, ← hbatch]
    refine ((List.subperm_append_left _).mpr houtside).trans (List.Perm.subperm ?_)
    simp only [List.append_assoc]
    exact (List.perm_append_comm_assoc ..).append_left _
  refine ⟨?_, ?_, ?_⟩
  · obtain ⟨gs, hperm, hsub⟩ := hall
    refine hperm.nodup_iff.mp (hsub.nodup (List.nodup_append.mpr ⟨h.nodup, ?_, ?_⟩))
    · exact (s.mint.pairwise_batch n).imp fun hlt heq => by simp [heq] at hlt
    · intro g hg g' hg' heq
      exact Nat.lt_irrefl _ (heq ▸ hlater g hg g' hg')
  · intro g hg
    rw [hmint, Mint.issued_advance]
    rcases List.mem_append.mp (hall.subset hg) with hg | hg
    · have hold := h.issued g hg
      omega
    · have hnew := Mint.mem_batch.mp hg
      omega
  · rw [hguids]
    have hnew : new.Sublist (s.mint.batch 0 n) := hbatch ▸ List.sublist_append_left new others
    refine List.pairwise_append.mpr ⟨h.increasing, (s.mint.pairwise_batch n).sublist hnew, ?_⟩
    intro g hg g' hg'
    exact hlater g (List.mem_append_left _ hg) g' (hnew.subset hg')

theorem lose (h : Identified s outside) (houtside : outside'.Subperm outside) :
    Identified s outside' :=
  h.draw (n := 0) (List.append_nil []) rfl (List.append_nil _).symm
    ((List.append_nil outside).symm ▸ houtside)

theorem modify (h : Identified s outside) (x : Nat) {f : Widget → Widget}
    (hf : ∀ e : Widget, (f e).guid = e.guid) : Identified (s.modify x f) outside where
  nodup := by
    rw [s.guids_modify x hf]
    exact h.nodup
  issued := by
    rw [s.guids_modify x hf]
    exact h.issued
  increasing := by
    rw [s.guids_modify x hf]
    exact h.increasing

theorem create (h : Identified s outside) (id : Int32) (className : String)
    (kind : WidgetKind) : Identified (s.create id className kind).2 outside :=
  h.draw (List.append_nil _) rfl (s.guids_create id className kind)
    ((List.append_nil outside).symm ▸ .refl _)

theorem copyWithId (h : Identified s outside) (x : Nat) (id : Int32) :
    Identified (s.copyWithId x id).2 outside :=
  h.draw (List.append_nil _) (s.mint_copyWithId x id) (s.guids_copyWithId x id)
    ((List.append_nil outside).symm ▸ .refl _)

/-- Draw guids for what is not in the scene. -/
theorem advanceMint {n : Nat} (h : Identified s outside)
    (houtside : outside'.Subperm (outside ++ s.mint.batch 0 n)) :
    Identified (s.advanceMint n) outside' :=
  h.draw (List.nil_append _) rfl (List.append_nil _).symm houtside

theorem prepares (h : Identified s outside) (hs : s.Prepares s') : Identified s' outside := by
  cases hs with
  | same => exact h
  | create id className kind => exact h.create id className kind.bare
  | attach => exact h.modify _ fun _ => rfl
  | copyWithId x id => exact h.copyWithId x id
  | revise x hid hguid => exact h.modify x hguid
  | drawGuid => exact h.advanceMint (List.sublist_append_left _ _).subperm

end Identified

/-! ## Work names what it makes -/

/-- A change of one element adds to a list of what all elements hold at
most what it adds to those of the element. -/
theorem subperm_flatMap_modify {α β : Type} {f : α → α} {g : α → List β} {new : List β}
    (hf : ∀ a, g (f a) = g a ++ new) :
    ∀ (as : List α) (i : Nat),
      ((as.modify i f).flatMap g).Subperm (as.flatMap g ++ new)
  | [], _ => by
      rw [List.modify_nil]
      exact (List.sublist_append_left _ _).subperm
  | a :: as, 0 => by
      rw [List.modify_zero_cons, List.flatMap_cons, List.flatMap_cons, hf]
      simp only [List.append_assoc]
      exact (List.perm_append_comm.append_left _).subperm
  | a :: as, i + 1 => by
      rw [List.modify_succ_cons, List.flatMap_cons, List.flatMap_cons, List.append_assoc]
      exact (List.subperm_append_left _).mpr (subperm_flatMap_modify hf as i)

namespace Work

variable {σ : Type}

theorem subperm_guidsOutside_modifyDraft (w : Work σ) (draft : Nat) {f : Dialog → Dialog}
    {new : List Guid} (hf : ∀ d, (f d).guids = d.guids ++ new) :
    (w.modifyDraft draft f).guidsOutside.Subperm (w.guidsOutside ++ new) := by
  show (w.toAssembler.guidsOutside ++ (w.drafts.modify draft f).flatMap Dialog.guids).Subperm
    (w.toAssembler.guidsOutside ++ w.drafts.flatMap Dialog.guids ++ new)
  rw [List.append_assoc]
  exact (List.subperm_append_left _).mpr (subperm_flatMap_modify hf w.drafts draft)

variable [DecidableEq σ] {t : Task σ} {sites : List σ}

theorem Move.identified {x y : Set Nat × Work σ} (h : Move t sites x y)
    (hx : Identified x.2.scene x.2.guidsOutside) :
    Identified y.2.scene y.2.guidsOutside := by
  cases h with
  | learn hh hf => exact hx.modify _ fun e => (hf e).guid
  | attach => exact hx.modify _ fun _ => rfl
  | lookup className kind => exact hx.create _ className kind.bare
  | allocation className kind => exact hx.create _ className kind.bare
  | slot className tag => exact hx.create _ className _
  | copy => exact hx.copyWithId _ _
  | @menu H w id template type hmenu =>
      have hshown : Menu.guids { (template.copy w.scene.mint).1 with
          type, listener := type.listener? } = w.scene.mint.batch 0 template.itemCount :=
        template.guids_copy w.scene.mint
      refine hx.advanceMint (List.Perm.subperm ?_)
      simp only [guidsOutside, Assembler.guidsOutside, List.flatMap_append,
        List.flatMap_singleton, hshown, List.append_assoc]
      refine List.Perm.append_left _ (List.perm_append_comm.trans (List.Perm.of_eq ?_))
      exact List.append_assoc ..
  | @draft H w =>
      refine hx.lose (List.Perm.subperm (List.Perm.of_eq ?_))
      simp [guidsOutside, Dialog.guids]
  | @describe H w draft f hdraft hf =>
      have hsame : ∀ d, (f d).guids = d.guids ++ [] := by
        intro d
        rw [List.append_nil, Dialog.guids, hf]
        rfl
      refine hx.lose ?_
      have hmodify := subperm_guidsOutside_modifyDraft w draft hsame
      rwa [List.append_nil] at hmodify
  | @button H w draft =>
      exact hx.advanceMint (subperm_guidsOutside_modifyDraft w draft fun _ => List.map_append)
  | _ => exact hx

end Work

/-! ## Every history -/

namespace Assembler

variable {σ : Type} [DecidableEq σ]

theorem kept_identified :
    Kept (fun a : Assembler σ => Identified a.scene a.guidsOutside)
      (fun x => Identified x.2.scene x.2.guidsOutside) where
  begins a _ ha := ha.lose (List.Perm.of_eq (List.append_nil a.guidsOutside)).subperm
  moves hmove hx := hmove.identified hx
  -- A method that fails takes its drafts along.
  fails _ hw := hw.lose (List.sublist_append_left _ _).subperm
  ends w o hw := by
    refine hw.lose (List.Perm.subperm (List.Perm.of_eq ?_))
    simp [addDialogs, guidsOutside, Work.guidsOutside, List.flatMap_map]
  skips _ _ ha := ha

theorem Reachable.identified {a : Assembler σ} (ha : a.Reachable) :
    Identified a.scene a.guidsOutside := by
  refine kept_identified.reachable ?_ ?_ ha
  · intro a p ha
    obtain ⟨scene, layouts, menuTemplates, hscene, hprepare⟩ := a.prepare_eq p
    rw [hprepare]
    exact ha.prepares hscene
  · intro settings start hstart
    rw [create_eq_ok hstart]
    exact ⟨List.nodup_nil, nofun, List.Pairwise.nil⟩

end Assembler

namespace Scene

theorem getElem_widgets {s : Scene} {h : Nat} (hh : h < s.widgets.length) :
    s.widgets[h] = s.widget h := by
  simp [widget, get?, hh]

theorem guid_lt_guid {s : Scene} {m n : Nat}
    (hincreasing : s.guids.Pairwise fun g g' => g.value < g'.value) (hmn : m < n)
    (hn : n < s.size) : (s.widget m).guid.value < (s.widget n).guid.value := by
  have hpairs := List.pairwise_iff_getElem.mp (List.pairwise_map.mp hincreasing)
  have hlength : n < s.widgets.length := hn
  have hlt := hpairs m n (hmn.trans hlength) hlength hmn
  rwa [getElem_widgets, getElem_widgets] at hlt

/-- Where guids are in the order of the handles, a widget is found by its
guid. -/
theorem findGuid?_guid {s : Scene} {n : Nat}
    (hincreasing : s.guids.Pairwise fun g g' => g.value < g'.value) (hn : n < s.size) :
    s.findGuid? (s.widget n).guid = some n := by
  have hlength : n < s.widgets.length := hn
  unfold findGuid?
  refine List.findIdx?_eq_some_iff_getElem.mpr ⟨hlength, ?_, ?_⟩
  · rw [getElem_widgets]
    exact decide_eq_true rfl
  · intro m hm heq
    have hlt := guid_lt_guid hincreasing hm hn
    rw [getElem_widgets, decide_eq_true_iff] at heq
    rw [heq] at hlt
    exact Nat.lt_irrefl _ hlt

end Scene

namespace Assembler

variable {σ : Type} [DecidableEq σ]

/-- Identities are unique. Whatever was asked of an assembler, no two of
the widgets, menu items and dialog buttons have the same guid, every guid
is one that the mint has handed out, later widgets have greater ones, and
each widget is found by its own. -/
theorem guids_unique {a : Assembler σ} (ha : a.Reachable) :
    a.guids.Nodup ∧
      (∀ g ∈ a.guids, 1 ≤ g.value ∧ g.value ≤ a.scene.mint.issued) ∧
      (∀ m n, m < n → n < a.scene.size →
        (a.scene.widget m).guid.value < (a.scene.widget n).guid.value) ∧
      ∀ n < a.scene.size, a.scene.findGuid? (a.scene.widget n).guid = some n := by
  have h := ha.identified
  exact ⟨h.nodup, h.issued, fun _ _ hmn hn => Scene.guid_lt_guid h.increasing hmn hn,
    fun _ hn => Scene.findGuid?_guid h.increasing hn⟩

/-- Both items of this menu claim the guid of the box. -/
def foreignMenu : Menu where
  items := [⟨7, ⟨1⟩, Attr.dynamic "title" "Save", 0, none, [], []⟩,
    ⟨8, ⟨1⟩, Attr.dynamic "title" "Quit", 0, none, [], []⟩]

/-- The box is shown, and a menu whose items have a guid that is taken. -/
def menuShown : List (Request Nat) :=
  Preparation.labelledBox.map Request.prepare ++
    [.prepare (.registerMenu 100 foreignMenu),
      .assemble (.method
        (.straightLine ["void setContentView(int)", "void inflate(int,android.view.Menu)"])
        [0, 1])]

theorem guids_unique_menuShown :
    let a := menuShown.foldl serve { settings := {}, nextDynamicId := -90000 }
    a.Reachable ∧ a.guids.map Guid.value = [1, 2, 3, 4, 5, 6] ∧ a.guids.Nodup ∧
      (∀ g ∈ a.guids, 1 ≤ g.value ∧ g.value ≤ a.scene.mint.issued) ∧
      (∀ m n, m < n → n < a.scene.size →
        (a.scene.widget m).guid.value < (a.scene.widget n).guid.value) ∧
      ∀ n < a.scene.size, a.scene.findGuid? (a.scene.widget n).guid = some n :=
  ⟨⟨{}, _, rfl, menuShown, rfl⟩, by decide +kernel,
    guids_unique ⟨{}, _, rfl, menuShown, rfl⟩⟩

end Assembler

end UiRecovery
