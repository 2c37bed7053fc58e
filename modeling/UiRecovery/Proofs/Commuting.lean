import Mathlib.Logic.Equiv.Defs
import UiRecovery.Proofs.Independence

/-!
# Independent units commute

Two units that share neither a place nor a component can be assembled in
either order. What comes out differs only in names: each unit makes what it
makes alone, behind what the other one has made, if that came first.

To compare the two orders, both are compared with the unit alone. `Embeds`
says that what the unit makes alone is found in a later assembler, under the
names of a renaming; it holds when the unit comes second
(`AssemblesTo.embeds_unit`), and it survives another unit (`Embeds.unit`).
The widgets, the roots and all else that is read from the result are then
the same up to the renaming, and the two renamings differ by an exchange of
two blocks of handles.
-/

namespace UiRecovery

/-! ## Exchanging blocks -/

/-- Exchange the `n` numbers from `base` on with the `m` numbers behind
them. -/
def exchange (base n m x : Nat) : Nat :=
  if x < base then x
  else if x < base + n then x + m
  else if x < base + n + m then x - n
  else x

theorem exchange_exchange (base n m x : Nat) : exchange base m n (exchange base n m x) = x := by
  unfold exchange
  split_ifs <;> omega

/-- What is in the first block goes to where it is if its block comes
second. -/
theorem exchange_first {σ : Type} {a s : Assembler σ} (c : Assembler σ) {h : Nat}
    (hh : h < s.scene.size) :
    exchange a.scene.size (s.scene.size - a.scene.size) (c.scene.size - a.scene.size)
        ((Renaming.past a a).handle h) = (Renaming.past a c).handle h := by
  unfold exchange Renaming.handle Renaming.past
  dsimp only
  split_ifs <;> omega

/-- What is in the second block goes to where it is if its block comes
first. -/
theorem exchange_second {σ : Type} {a s : Assembler σ} (c : Assembler σ) {h : Nat}
    (hh : h < s.scene.size) :
    exchange a.scene.size (c.scene.size - a.scene.size) (s.scene.size - a.scene.size)
        ((Renaming.past a c).handle h) = (Renaming.past a a).handle h := by
  unfold exchange Renaming.handle Renaming.past
  dsimp only
  split_ifs <;> omega

/-- The exchange of two blocks as a permutation. -/
def blockSwap (base n m : Nat) : Equiv.Perm Nat where
  toFun := exchange base n m
  invFun := exchange base m n
  left_inv := exchange_exchange base n m
  right_inv := exchange_exchange base m n

/-! ## Scenes with more in them -/

/-- What comes later holds nothing of what was there, and so frees and
attaches nothing of it. -/
theorem Scene.Within.mem_attached {old s : Scene} (hs : Within (old.size ≤ ·) old s) {x : Nat}
    (hx : x < old.size) : x ∈ s.attached ↔ x ∈ old.attached := by
  rw [Scene.mem_attached, Scene.mem_attached]
  constructor
  · rintro ⟨h, hh⟩
    by_cases hnew : old.size ≤ h
    · exact absurd hx (Nat.not_lt_of_le (hs.children h hnew x hh))
    · exact ⟨h, hs.children_eq hnew ▸ hh⟩
  · rintro ⟨h, hh⟩
    have hold : ¬old.size ≤ h := Nat.not_le_of_lt (lt_size_of_mem_children hh)
    exact ⟨h, (hs.children_eq hold).symm ▸ hh⟩

namespace Assembler

variable {σ : Type} [DecidableEq σ]

/-! ## What a unit makes, found again -/

/-- What `s` has for the unit is found in `c` under the names that `k`
gives, whatever else is in `c`. -/
structure Embeds (k : Renaming) (u : MethodUnit σ) (s c : Assembler σ) : Prop where
  lt_size : ∀ h, k.base ≤ h → h < s.scene.size → k.handle h < c.scene.size
  widget : ∀ h, k.base ≤ h → h < s.scene.size →
    let e := s.scene.widget h
    let e' := c.scene.widget (k.handle h)
    e' = e.copyAs e'.id (k.guid e.guid) k.handle ∧
      (e'.id = e.id ∨ s.Constructed u.sites h ∧ e.id ≤ k.top ∧ e'.id ≤ k.top)
  attached : ∀ h, k.base ≤ h → h < s.scene.size →
    (k.handle h ∈ c.scene.attached ↔ h ∈ s.scene.attached)
  merged : ∀ key : MergeKey σ, key.site ∈ u.sites →
    c.merged.get? key = (s.merged.get? key).map k.handle
  screens : (c.screens u.origin).toList = (s.screens u.origin).toList.map k.handle
  elements : c.attribution.elementsOf u.origin = (s.attribution.elementsOf u.origin).map k.guid
  calls : ∀ signature, signature ∈ c.attribution.callsOf u.origin ↔
    signature ∈ s.attribution.callsOf u.origin
  menus : c.menusFor u.origin = s.menusFor u.origin
  dialogs : c.dialogsFor u.origin = s.dialogsFor u.origin

omit [DecidableEq σ] in
theorem dialogsFor_addDialogs (a : Assembler σ) (o : Origin) (drafts : List Dialog) :
    (a.addDialogs o drafts).dialogsFor o = a.dialogsFor o ++ drafts.map Dialog.unnamed := by
  simp [dialogsFor, addDialogs, List.filter_append, List.filter_map, Function.comp_def]

/-- A unit does on what comes from `a` what it does on `a`, and is skipped
there for the same reason, if at all. -/
theorem AssemblesTo.alike_unit {a c : Assembler σ} (ha : a.Prepared) (hrange : a.scene.InRange)
    (hc : a.AssemblesTo c) {u : MethodUnit σ} (hu : c.HasNothingFor u) {q : Query σ} {o : Oracle σ}
    (ht : Task.IdsAbove ⟨q, o, u.origin⟩ a.settings.dynamicIdStart) :
    let s := a.assembled (.units q o [u])
    let d := c.assembled (.units q o [u])
    s.Alike (.past a c) u.sites u.origin d ∧ d.dialogsFor u.origin = s.dialogsFor u.origin ∧
      d.skipped = c.skipped ++ s.skipped := by
  intro s d
  let t : Task σ := ⟨q, o, u.origin⟩
  obtain ⟨hfailure, htwin⟩ :=
    (hc.twin_begin ha hrange hu q o).run u.sites (fun _ hs => hs) ht
  have halike := htwin.alike.toAssembler
  have hskipped : a.skipped = [] := congrArg Assembler.skipped ha.pristine
  -- As yet neither has a dialog for the unit.
  have hdialogs : (Work.run t u.sites (a.begin t u.sites)).1.dialogsFor u.origin = [] := by
    rw [dialogsFor, (untouched_run a t u.sites).dialogs]
    exact (ha.hasNothingFor u).dialogs
  have hdialogs' : (Work.run t u.sites (c.begin t u.sites)).1.dialogsFor u.origin = [] := by
    rw [dialogsFor, (untouched_run c t u.sites).dialogs]
    exact hu.dialogs
  rw [show s = _ from assembled_unit a q o u, show d = _ from assembled_unit c q o u]
  dsimp only
  rw [hfailure]
  cases (Work.run t u.sites (a.begin t u.sites)).2 with
  | some e =>
      refine ⟨{ halike with }, hdialogs'.trans hdialogs.symm, ?_⟩
      rw [hskipped]
      rfl
  | none =>
      refine ⟨{ halike with }, ?_, ?_⟩
      · rw [dialogsFor_addDialogs, dialogsFor_addDialogs, hdialogs, hdialogs',
          htwin.alike.drafts]
      · show (Work.run t u.sites (c.begin t u.sites)).1.skipped =
          c.skipped ++ (Work.run t u.sites (a.begin t u.sites)).1.skipped
        rw [(untouched_run c t u.sites).skipped, (untouched_run a t u.sites).skipped, hskipped,
          List.append_nil]

/-- A unit that comes later makes what it would have made at first. -/
theorem AssemblesTo.embeds_unit {a c : Assembler σ} (ha : a.Prepared) (hrange : a.scene.InRange)
    (hc : a.AssemblesTo c) {u : MethodUnit σ} (hu : c.HasNothingFor u) {q : Query σ} {o : Oracle σ}
    (ht : Task.IdsAbove ⟨q, o, u.origin⟩ a.settings.dynamicIdStart) :
    Embeds (.past a c) u (a.assembled (.units q o [u])) (c.assembled (.units q o [u])) := by
  let k := Renaming.past a c
  obtain ⟨halike, hdialogs, -⟩ := hc.alike_unit ha hrange hu ht
  have hwithin := (hu.within_unit q o).scene
  refine ⟨fun h hlow hhigh => ?_, fun h _ _ => halike.scene.widget h, fun h hlow _ => ?_,
    halike.merged, halike.screens, halike.elements, fun signature => ?_, halike.menus, hdialogs⟩
  · rw [Renaming.handle_of_le hlow, halike.scene.size]
    omega
  · rw [Scene.mem_attached, Scene.mem_attached]
    constructor
    · rintro ⟨x, hx⟩
      have hge : c.scene.size ≤ k.handle h := by
        have hle := hc.size_le
        rw [Renaming.handle_of_le hlow]
        simp only [Renaming.past] at hlow ⊢
        omega
      by_cases hnew : c.scene.size ≤ x
      · -- The parent was made by the unit too.
        have hparent : k.handle (x - k.gap) = x := by
          have hle := hc.size_le
          rw [Renaming.handle_of_le (by simp only [k, Renaming.past]; omega)]
          simp only [k, Renaming.past]
          omega
        rw [← hparent, halike.scene.children] at hx
        exact ⟨x - k.gap, (List.mem_map_of_injective k.handle_injective).mp hx⟩
      · -- What was there before holds nothing of what was made later.
        rw [hwithin.children_eq hnew] at hx
        exact absurd (hc.settled.bounded.scene x _ hx) (Nat.not_lt_of_le hge)
    · rintro ⟨x, hx⟩
      refine ⟨k.handle x, ?_⟩
      rw [halike.scene.children]
      exact List.mem_map_of_mem hx
  · rw [Attribution.callsOf, Attribution.callsOf, OrderedMap.mem_taggedWith,
      OrderedMap.mem_taggedWith]
    exact halike.calls signature

namespace Embeds

variable {k : Renaming} {u : MethodUnit σ} {s c : Assembler σ}

/-- What a unit has made stays when an independent unit follows. -/
theorem unit (hs : Embeds k u s c) {v : MethodUnit σ} (hv : c.HasNothingFor v)
    (hsites : u.sites.Disjoint v.sites) (horigin : u.origin ≠ v.origin) (q : Query σ)
    (o : Oracle σ) : Embeds k u s (c.assembled (.units q o [v])) := by
  have hbeside := c.beside_unit q o v
  have hwithin := (hv.within_unit q o).scene
  refine ⟨fun h hlow hhigh => ?_, fun h hlow hhigh => ?_, fun h hlow hhigh => ?_,
    fun key hkey => ?_, ?_, ?_, ?_, ?_, ?_⟩
  · exact (hs.lt_size h hlow hhigh).trans_le (hwithin.fresh _ le_rfl)
  · have hold : ¬c.scene.size ≤ k.handle h := Nat.not_le_of_lt (hs.lt_size h hlow hhigh)
    have hsame : (c.assembled (.units q o [v])).scene.widget (k.handle h) =
        c.scene.widget (k.handle h) := by
      rw [Scene.widget, Scene.widget, hwithin.same _ hold]
    dsimp only
    rw [hsame]
    exact hs.widget h hlow hhigh
  · exact (hwithin.mem_attached (hs.lt_size h hlow hhigh)).trans (hs.attached h hlow hhigh)
  · rw [hbeside.merged key (hsites hkey)]
    exact hs.merged key hkey
  · rw [hbeside.screens _ horigin]
    exact hs.screens
  · rw [hbeside.elements _ horigin]
    exact hs.elements
  · rw [hbeside.calls _ horigin]
    exact hs.calls
  · rw [hbeside.menus _ horigin]
    exact hs.menus
  · rw [hbeside.dialogs _ horigin]
    exact hs.dialogs

/-! ### What is read from it -/

section

variable {old : Scene} {outside outside' : List Guid}

theorem findGuid? (hs : Embeds k u s c) (hguids : Identified c.scene outside) {h : Nat}
    (hlow : k.base ≤ h) (hhigh : h < s.scene.size) :
    c.scene.findGuid? (k.guid (s.scene.widget h).guid) = some (k.handle h) := by
  have hguid : (c.scene.widget (k.handle h)).guid = k.guid (s.scene.widget h).guid := by
    rw [(hs.widget h hlow hhigh).1]
    rfl
  rw [← hguid]
  exact Scene.findGuid?_guid hguids.increasing (hs.lt_size h hlow hhigh)

theorem elementHandles (hs : Embeds k u s c) (hsettled : s.Settled k.base old)
    (hguids : Identified s.scene outside) (hguids' : Identified c.scene outside') :
    c.elementHandles u.origin = (s.elementHandles u.origin).map k.handle := by
  unfold Assembler.elementHandles
  rw [hs.elements, List.filterMap_map, List.map_filterMap]
  refine List.filterMap_congr fun g hg => ?_
  obtain ⟨h, hlow, hhigh, rfl⟩ :=
    hsettled.traced g (OrderedMap.mem_keys_of_mem_taggedWith hg)
  rw [Function.comp_apply, hs.findGuid? hguids' hlow hhigh,
    Scene.findGuid?_guid hguids.increasing hhigh]
  rfl

theorem parentless (hs : Embeds k u s c) (hsettled : s.Settled k.base old)
    (hguids : Identified s.scene outside) (hguids' : Identified c.scene outside') :
    c.parentless u.origin = (s.parentless u.origin).map k.handle := by
  show (c.elementHandles u.origin).filter _ = ((s.elementHandles u.origin).filter _).map k.handle
  rw [hs.elementHandles hsettled hguids hguids', List.filter_map]
  refine congrArg (List.map k.handle) (List.filter_congr fun h hh => ?_)
  have hlow := hsettled.le_of_mem_elementHandles hguids hh
  have hhigh := ((mem_elementHandles hguids).mp hh).1
  rw [Function.comp_apply, Bool.eq_iff_iff, Bool.not_eq_true', Bool.not_eq_true',
    ← Bool.not_eq_true, ← Bool.not_eq_true, List.contains_iff_mem, List.contains_iff_mem]
  exact not_congr (hs.attached h hlow hhigh)

theorem rootsOf_finish (hs : Embeds k u s c) (hsettled : s.Settled k.base old)
    (hguids : Identified s.scene outside) (hguids' : Identified c.scene outside') :
    c.finish.rootsOf u.origin = (s.finish.rootsOf u.origin).map k.handle := by
  rw [Assembler.rootsOf_finish, Assembler.rootsOf_finish, hs.parentless hsettled hguids hguids']
  exact OrderedSet.toList_insertAll_map k.handle_injective _ hs.screens

end

end Embeds

/-! ## Both orders -/

/-- `b` and `b'` have the same for the unit, up to guids, to the handles,
which `ρ` renames, and to the ids of widgets that have a dynamic one. -/
structure SameFor (u : MethodUnit σ) (ρ : Equiv.Perm Nat) (b b' : Assembler σ) : Prop where
  elements : b'.finish.elementsOf u.origin = (b.finish.elementsOf u.origin).map ρ
  widgets : ∀ h ∈ b.finish.elementsOf u.origin,
    let e := b.finish.scene.widget h
    let e' := b'.finish.scene.widget (ρ h)
    e' = e.copyAs e'.id e'.guid ρ ∧
      (e'.id = e.id ∨
        (e.id ≤ b.settings.dynamicIdStart ∧ e'.id ≤ b'.settings.dynamicIdStart) ∧
          ∃ s ∈ u.sites, b.merged.get? (.allocation s) = some h ∧
            b'.merged.get? (.allocation s) = some (ρ h))
  roots : b'.finish.rootsOf u.origin = (b.finish.rootsOf u.origin).map ρ
  menus : (b'.finish.menusOf u.origin).map Menu.unnamed =
    (b.finish.menusOf u.origin).map Menu.unnamed
  dialogs : (b'.finish.dialogsOf u.origin).map Dialog.unnamed =
    (b.finish.dialogsOf u.origin).map Dialog.unnamed
  calls : ∀ signature, signature ∈ b'.finish.attribution.callsOf u.origin ↔
    signature ∈ b.finish.attribution.callsOf u.origin

omit [DecidableEq σ] in
theorem menusOf_finish (a : Assembler σ) (o : Origin) :
    (a.finish.menusOf o).map Menu.unnamed = a.menusFor o := by
  rw [Reconstruction.menusOf, List.map_map]
  rfl

omit [DecidableEq σ] in
theorem dialogsOf_finish (a : Assembler σ) (o : Origin) :
    (a.finish.dialogsOf o).map Dialog.unnamed = a.dialogsFor o := by
  rw [Reconstruction.dialogsOf, List.map_map]
  rfl

section

variable {a c c' s b b' : Assembler σ} {u : MethodUnit σ} {ρ : Equiv.Perm Nat}

/-- The widgets that a unit has made are copies of each other. -/
theorem Embeds.eq_copyAs (hb : Embeds (.past a c) u s b) (hb' : Embeds (.past a c') u s b')
    (hs : a.AssemblesTo s)
    (hρ : ∀ h < s.scene.size, ρ ((Renaming.past a c).handle h) = (Renaming.past a c').handle h)
    {h : Nat} (hlow : a.scene.size ≤ h) (hhigh : h < s.scene.size) :
    let e := b.scene.widget ((Renaming.past a c).handle h)
    let e' := b'.scene.widget ((Renaming.past a c').handle h)
    e' = e.copyAs e'.id e'.guid ρ := by
  intro e e'
  have hcopy : e = _ := (hb.widget h hlow hhigh).1
  have hcopy' : e' = _ := (hb'.widget h hlow hhigh).1
  have hguid : e'.guid = (Renaming.past a c').guid (s.scene.widget h).guid := by
    rw [hcopy']
    rfl
  have hchildren : ∀ x ∈ (s.scene.widget h).children,
      (ρ ∘ (Renaming.past a c).handle) x = (Renaming.past a c').handle x := by
    intro x hx
    have hmem : x ∈ s.scene.children h :=
      Scene.mem_children.mpr ⟨_, Scene.get?_of_lt hhigh, hx⟩
    exact hρ x (hs.settled.bounded.scene h x hmem)
  rw [hcopy, Widget.copyAs_copyAs, Widget.copyAs_congr _ _ _ hchildren, hguid]
  exact hcopy'

/-- Where their ids differ, they are dynamic. -/
theorem Embeds.id_eq_or (hb : Embeds (.past a c) u s b) (hb' : Embeds (.past a c') u s b')
    {h : Nat} (hlow : a.scene.size ≤ h) (hhigh : h < s.scene.size) :
    let k := Renaming.past a c
    let k' := Renaming.past a c'
    let id := (b.scene.widget (k.handle h)).id
    let id' := (b'.scene.widget (k'.handle h)).id
    id' = id ∨
      (id ≤ a.settings.dynamicIdStart ∧ id' ≤ a.settings.dynamicIdStart) ∧
        ∃ site ∈ u.sites, b.merged.get? (.allocation site) = some (k.handle h) ∧
          b'.merged.get? (.allocation site) = some (k'.handle h) := by
  intro k k' id id'
  have hplace : s.Constructed u.sites h →
      ∃ site ∈ u.sites, b.merged.get? (.allocation site) = some (k.handle h) ∧
        b'.merged.get? (.allocation site) = some (k'.handle h) := by
    rintro ⟨site, hsite, hget⟩
    refine ⟨site, hsite, ?_, ?_⟩
    · rw [hb.merged (.allocation site) hsite, hget]
      rfl
    · rw [hb'.merged (.allocation site) hsite, hget]
      rfl
  rcases (hb.widget h hlow hhigh).2 with hsame | ⟨hmade, hle, hid⟩
  · rcases (hb'.widget h hlow hhigh).2 with hsame' | ⟨hmade, hle, hid'⟩
    · exact Or.inl (hsame'.trans hsame.symm)
    · exact Or.inr ⟨⟨Int32.le_trans (Int32.le_of_eq hsame) hle, hid'⟩, hplace hmade⟩
  · rcases (hb'.widget h hlow hhigh).2 with hsame' | ⟨-, -, hid'⟩
    · exact Or.inr ⟨⟨hid, Int32.le_trans (Int32.le_of_eq hsame') hle⟩, hplace hmade⟩
    · exact Or.inr ⟨⟨hid, hid'⟩, hplace hmade⟩

/-- Two assemblers in which the work of a unit is found have the same for
it. -/
theorem Embeds.sameFor (hb : Embeds (.past a c) u s b) (hb' : Embeds (.past a c') u s b')
    (hs : a.AssemblesTo s) (hub : a.AssemblesTo b) (hub' : a.AssemblesTo b')
    (hρ : ∀ h < s.scene.size, ρ ((Renaming.past a c).handle h) = (Renaming.past a c').handle h) :
    SameFor u ρ b b' := by
  have hguids := hs.reachable.identified
  have helements := hb.elementHandles hs.settled hguids hub.reachable.identified
  have helements' := hb'.elementHandles hs.settled hguids hub'.reachable.identified
  have hroots := hb.rootsOf_finish hs.settled hguids hub.reachable.identified
  have hroots' := hb'.rootsOf_finish hs.settled hguids hub'.reachable.identified
  have hmap : ∀ hs : List Nat, (∀ h ∈ hs, h < s.scene.size) →
      hs.map (Renaming.past a c').handle = (hs.map (Renaming.past a c).handle).map ρ := by
    intro hs hlt
    rw [List.map_map]
    exact List.map_congr_left fun h hh => (hρ h (hlt h hh)).symm
  refine ⟨?_, fun x hx => ?_, ?_, ?_, ?_, ?_⟩
  · rw [elementsOf_finish, elementsOf_finish, helements, helements']
    exact hmap _ fun h hh => ((mem_elementHandles hguids).mp hh).1
  · rw [elementsOf_finish, helements] at hx
    obtain ⟨h, hh, rfl⟩ := List.mem_map.mp hx
    have hlow := hs.settled.le_of_mem_elementHandles hguids hh
    have hhigh := ((mem_elementHandles hguids).mp hh).1
    rw [hρ h hhigh, hub.settings, hub'.settings]
    exact ⟨hb.eq_copyAs hb' hs hρ hlow hhigh, hb.id_eq_or hb' hlow hhigh⟩
  · rw [hroots, hroots']
    exact hmap _ fun h hh => (hs.settled.of_mem_rootsOf hguids hh).2
  · rw [menusOf_finish, menusOf_finish]
    exact hb'.menus.trans hb.menus.symm
  · rw [dialogsOf_finish, dialogsOf_finish]
    exact hb'.dialogs.trans hb.dialogs.symm
  · exact fun signature => (hb'.calls signature).trans (hb.calls signature).symm

end

/-- Independent units commute. On a prepared assembler, with code that
speaks of no dynamic id, two units that share neither a place nor a
component come to the same in either order, and each is skipped in both
orders or in none, for the reason for which it is skipped alone. -/
theorem independent_units_commute {a : Assembler σ} (ha : a.Prepared) (hrange : a.scene.InRange)
    (hstart : a.settings.dynamicIdStart < -1) (q : Query σ) (o : Oracle σ)
    (hints : ∀ ref s, ∀ i ∈ (o ref s).ints, -1 ≤ i) {u v : MethodUnit σ}
    (hsites : u.sites.Disjoint v.sites) (horigin : u.origin ≠ v.origin) :
    let alone := fun w => (a.assemble q o [w]).assembler
    let b := (a.assemble q o [u, v]).assembler
    let b' := (a.assemble q o [v, u]).assembler
    b.finish.skipped = (alone u).finish.skipped ++ (alone v).finish.skipped ∧
      b'.finish.skipped = (alone v).finish.skipped ++ (alone u).finish.skipped ∧
      ∃ ρ : Equiv.Perm Nat, SameFor u ρ b b' ∧ SameFor v ρ b b' := by
  intro alone b b'
  have hb : b = (alone u).assembled (.units q o [v]) := assembled_units_cons a q o u [v]
  have hb' : b' = (alone v).assembled (.units q o [u]) := assembled_units_cons a q o v [u]
  have habove : ∀ w : MethodUnit σ, Task.IdsAbove ⟨q, o, w.origin⟩ a.settings.dynamicIdStart :=
    fun w => Task.idsAbove hstart hints
  have hleads : ∀ w, a.AssemblesTo (alone w) := fun w =>
    (ha.assemblesTo_self hrange).assembled (.units q o [w])
  have hu : (alone v).HasNothingFor u := (ha.hasNothingFor u).unit hsites horigin q o
  have hv : (alone u).HasNothingFor v := (ha.hasNothingFor v).unit hsites.symm horigin.symm q o
  have hfirst : ∀ w, Embeds (.past a a) w (alone w) (alone w) := fun w =>
    (ha.assemblesTo_self hrange).embeds_unit ha hrange (ha.hasNothingFor w) (habove w)
  refine ⟨?_, ?_, blockSwap a.scene.size ((alone u).scene.size - a.scene.size)
    ((alone v).scene.size - a.scene.size), ?_, ?_⟩
  · rw [hb]
    exact ((hleads u).alike_unit ha hrange hv (habove v)).2.2
  · rw [hb']
    exact ((hleads v).alike_unit ha hrange hu (habove u)).2.2
  · rw [hb, hb']
    refine ((hfirst u).unit hv hsites horigin q o).sameFor
      ((hleads v).embeds_unit ha hrange hu (habove u)) (hleads u) ((hleads u).assembled _)
      ((hleads v).assembled _) fun h hh => ?_
    exact exchange_first (alone v) hh
  · rw [hb, hb']
    refine ((hleads u).embeds_unit ha hrange hv (habove v)).sameFor
      ((hfirst v).unit hu hsites.symm horigin.symm q o) (hleads v) ((hleads u).assembled _)
      ((hleads v).assembled _) fun h hh => ?_
    exact exchange_second (alone u) hh

/-- A box and a list are shown for one screen. For another one a list is
made by code that does not get to its end. The lists have dynamic ids,
which go to whoever comes first. -/
theorem independent_units_commute_labelledBox :
    let calls := ["void setContentView(int)", "android.widget.ListView getListView()",
      "android.widget.ListView getListView()", "android.view.View findViewById(int)"]
    let t := Task.straightLine calls
    let u : MethodUnit Nat := ⟨[0, 1], t.origin⟩
    let v : MethodUnit Nat := ⟨[2, 3], .activity "Other" ""⟩
    let b := (labelledBox.assemble t.query t.oracle [u, v]).assembler
    let b' := (labelledBox.assemble t.query t.oracle [v, u]).assembler
    (labelledBox.Prepared ∧ labelledBox.scene.InRange ∧
      labelledBox.settings.dynamicIdStart < -1 ∧
      (∀ ref s, ∀ i ∈ (t.oracle ref s).ints, -1 ≤ i) ∧
      u.sites.Disjoint v.sites ∧ u.origin ≠ v.origin) ∧
    b.finish.rootsOf u.origin = [2, 4] ∧ b'.finish.rootsOf u.origin = [3, 5] ∧
      (b.finish.scene.widget 4).id = -90000 ∧ (b'.finish.scene.widget 5).id = -90001 ∧
      b.finish.skipped.length = 1 ∧ b'.finish.skipped.length = 1 ∧
      ∃ ρ : Equiv.Perm Nat, SameFor u ρ b b' ∧ SameFor v ρ b b' := by
  intro calls t u v b b'
  have hints : ∀ ref s, ∀ i ∈ (t.oracle ref s).ints, -1 ≤ i := by
    intro ref s i hi
    rw [show i = 100 from List.mem_singleton.mp hi]
    decide
  have hsites : u.sites.Disjoint v.sites := by
    have hall : ∀ s ∈ [0, 1], s ∉ [2, 3] := by decide
    exact fun s hs hs' => hall s hs hs'
  have horigin : u.origin ≠ v.origin := by decide
  obtain ⟨-, -, hsame⟩ := independent_units_commute prepared_labelledBox inRange_labelledBox
    (by decide) t.query t.oracle hints hsites horigin
  exact ⟨⟨prepared_labelledBox, inRange_labelledBox, by decide, hints, hsites, horigin⟩,
    by decide +kernel, by decide +kernel, by decide +kernel, by decide +kernel,
    by decide +kernel, by decide +kernel, hsame⟩

end Assembler

end UiRecovery
