import UiRecovery.Proofs.Evidence
import UiRecovery.Proofs.CopyLoop

/-!
# Scenes that differ by a renaming

Two recoveries that do the same, one of them after other work, come to
scenes of the same shape. The widgets that both began with have the same
handles and guids; those that came later have handles and guids that differ
by what the other work has used up. `Scene.Renamed k` says this of two
scenes. Of the dynamic ids nothing is kept but that they are dynamic.

Whatever is read from such scenes differs by the renaming only: the
children of a widget, the walks from it (`depthFirst`, `breadthFirst`), and
what a search by id finds, as long as no dynamic id is searched for
(`find?`). And whatever is done to both in the same way leaves them so
(`modify`, `create`, `copy`).
-/

namespace UiRecovery

/-! ## Renamings -/

/-- How the widgets of one recovery are named in another one that has done
more. What both began with keeps its name. -/
structure Renaming where
  /-- The handles below are those that both began with. -/
  base : Nat
  gap : Nat
  /-- The guids up to here were issued before both began. -/
  issued : Nat
  drawn : Nat
  /-- Dynamic ids begin here and descend. -/
  top : Int32

namespace Renaming

variable {k : Renaming} {h : Nat} {g : Guid}

def handle (k : Renaming) (h : Nat) : Nat := if h < k.base then h else h + k.gap

def guid (k : Renaming) (g : Guid) : Guid :=
  ⟨if g.value ≤ k.issued then g.value else g.value + k.drawn⟩

theorem handle_of_lt (hh : h < k.base) : k.handle h = h := if_pos hh

theorem handle_of_le (hh : k.base ≤ h) : k.handle h = h + k.gap := if_neg (Nat.not_lt_of_le hh)

theorem guid_of_le (hg : g.value ≤ k.issued) : k.guid g = g := by
  simp [guid, hg]

theorem guid_of_lt (hg : k.issued < g.value) : k.guid g = ⟨g.value + k.drawn⟩ := by
  simp [guid, Nat.not_le_of_lt hg]

theorem handle_injective (k : Renaming) : Function.Injective k.handle := by
  intro x y hxy
  unfold handle at hxy
  split at hxy <;> split at hxy <;> omega

theorem guid_injective (k : Renaming) : Function.Injective k.guid := by
  intro g g' hgg
  have hvalue := congrArg Guid.value hgg
  simp only [guid] at hvalue
  cases g with
  | mk value =>
      cases g' with
      | mk value' =>
          rw [Guid.mk.injEq]
          split at hvalue <;> split at hvalue <;> dsimp only at * <;> omega

end Renaming

/-! ## Evidence does not depend on names -/

theorem WidgetKind.mapChildren_of_children_eq_nil {kind : WidgetKind} {rename : Nat → Nat}
    (hkind : kind.children = []) : kind.mapChildren (List.map rename) = kind := by
  cases kind with
  | view => rfl
  | text masks => rfl
  | group children =>
      obtain rfl : children = [] := hkind
      rfl
  | fragment children source tag =>
      obtain rfl : children = [] := hkind
      rfl

namespace Widget

variable (e : Widget) (id : Int32) (guid : Guid) (rename : Nat → Nat)

theorem addText_copyAs (a : Attr) :
    (e.copyAs id guid rename).addText a = (e.addText a).copyAs id guid rename := rfl

theorem addListener_copyAs (l : String) :
    (e.copyAs id guid rename).addListener l = (e.addListener l).copyAs id guid rename := rfl

theorem addOther_copyAs (name : String) (a : Attr) :
    (e.copyAs id guid rename).addOther name a = (e.addOther name a).copyAs id guid rename := by
  unfold addOther
  show (if e.others.contains name then _ else _) = _
  split <;> rfl

theorem addImage_copyAs (value : String) :
    (e.copyAs id guid rename).addImage value = (e.addImage value).copyAs id guid rename := by
  unfold addImage
  show (if e.hasImage value then _ else _) = _
  split
  · rfl
  · exact addOther_copyAs e id guid rename _ _

theorem addMask_copyAs (mask : Int32) :
    (e.copyAs id guid rename).addMask mask = (e.addMask mask).copyAs id guid rename := by
  obtain ⟨id', guid', className, texts, others, markupCallback, listeners, idVariable, kind⟩ := e
  cases kind <;> rfl

theorem nameAfter_copyAs (name : String) :
    (e.copyAs id guid rename).nameAfter name = (e.nameAfter name).copyAs id guid rename := by
  unfold nameAfter
  show (if e.idVariable = "" then _ else _) = _
  split <;> rfl

theorem appendChildren_copyAs (cs : List Nat) :
    (e.copyAs id guid rename).appendChildren (cs.map rename) =
      (e.appendChildren cs).copyAs id guid rename := by
  obtain ⟨id', guid', className, texts, others, markupCallback, listeners, idVariable, kind⟩ := e
  cases kind <;> simp [copyAs, appendChildren, mapChildren, WidgetKind.mapChildren]

theorem foldl_copyAs {α : Type} {f : Widget → α → Widget}
    (hf : ∀ (e : Widget) (a : α),
      f (e.copyAs id guid rename) a = (f e a).copyAs id guid rename) :
    ∀ (as : List α) (e : Widget),
      as.foldl f (e.copyAs id guid rename) = (as.foldl f e).copyAs id guid rename
  | [], _ => rfl
  | a :: as, e => by
      rw [List.foldl_cons, List.foldl_cons, hf]
      exact foldl_copyAs hf as (f e a)

/-- Copies of copies are copies. -/
theorem copyAs_copyAs (id' : Int32) (guid' : Guid) (rename' : Nat → Nat) :
    (e.copyAs id guid rename).copyAs id' guid' rename' =
      e.copyAs id' guid' (rename' ∘ rename) := by
  obtain ⟨id₀, guid₀, className, texts, others, markupCallback, listeners, idVariable, kind⟩ := e
  cases kind <;> simp [copyAs, mapChildren, WidgetKind.mapChildren]

/-- Only what becomes of the children matters to a copy. -/
theorem copyAs_congr {e : Widget} {rename' : Nat → Nat}
    (hchildren : ∀ c ∈ e.children, rename c = rename' c) :
    e.copyAs id guid rename = e.copyAs id guid rename' := by
  obtain ⟨id₀, guid₀, className, texts, others, markupCallback, listeners, idVariable, kind⟩ := e
  cases kind with
  | view => rfl
  | text masks => rfl
  | group children =>
      have hmap : children.map rename = children.map rename' := List.map_congr_left hchildren
      simp only [copyAs, mapChildren, WidgetKind.mapChildren, hmap]
  | fragment children source tag =>
      have hmap : children.map rename = children.map rename' := List.map_congr_left hchildren
      simp only [copyAs, mapChildren, WidgetKind.mapChildren, hmap]

theorem copyAs_self {e : Widget} {rename : Nat → Nat} (hchildren : ∀ c ∈ e.children, rename c = c) :
    e.copyAs e.id e.guid rename = e := by
  have hsame : e.copyAs e.id e.guid rename = e.copyAs e.id e.guid fun c => c :=
    copyAs_congr e.id e.guid rename hchildren
  rw [hsame]
  obtain ⟨id₀, guid₀, className, texts, others, markupCallback, listeners, idVariable, kind⟩ := e
  cases kind <;> simp [copyAs, mapChildren, WidgetKind.mapChildren]

end Widget

/-! ## Renamed scenes -/

namespace Scene

/-- `s'` has the widgets of `s` under the names that `k` gives them, and
others besides. The ids of the widgets in `free` are dynamic in both. -/
structure Renamed (k : Renaming) (free : Nat → Prop) (s s' : Scene) : Prop where
  base_le : k.base ≤ s.size
  size : s'.size = s.size + k.gap
  issued_le : k.issued ≤ s.mint.issued
  mint : s'.mint.issued = s.mint.issued + k.drawn
  named : ∀ h e, k.base ≤ h → s.get? h = some e → k.issued < e.guid.value
  copied : ∀ h e, s.get? h = some e → ∃ e', s'.get? (k.handle h) = some e' ∧
    e' = e.copyAs e'.id (k.guid e.guid) k.handle ∧
    (e'.id = e.id ∨ free h ∧ e.id ≤ k.top ∧ e'.id ≤ k.top)

namespace Renamed

variable {k : Renaming} {free : Nat → Prop} {s s' : Scene} {h : Nat}

theorem weaken (hs : Renamed k free s s') {free' : Nat → Prop} (hfree : ∀ h, free h → free' h) :
    Renamed k free' s s' :=
  { hs with
    copied := fun h e he => by
      obtain ⟨e', he', hcopy, hid⟩ := hs.copied h e he
      refine ⟨e', he', hcopy, hid.imp_right ?_⟩
      rintro ⟨hh, hids⟩
      exact ⟨hfree h hh, hids⟩ }

theorem get?_eq_none (hs : Renamed k free s s') (hh : s.get? h = none) :
    s'.get? (k.handle h) = none := by
  rw [get?_eq_none_iff] at hh ⊢
  rw [Renaming.handle_of_le (Nat.le_trans hs.base_le hh), hs.size]
  omega

/-- The next free handles correspond. -/
theorem handle_size (hs : Renamed k free s s') : k.handle s.size = s'.size := by
  rw [Renaming.handle_of_le hs.base_le, hs.size]

theorem guid_nth (hs : Renamed k free s s') (i : Nat) : k.guid (s.mint.nth i) = s'.mint.nth i := by
  have hlt : k.issued < (s.mint.nth i).value := by
    have hle := hs.issued_le
    simp only [Mint.nth]
    omega
  rw [Renaming.guid_of_lt hlt]
  simp only [Mint.nth, hs.mint, Guid.mk.injEq]
  omega

/-! ### What is read -/

/-- As `copied`, with a blank widget behind the handles that were not
issued. -/
theorem widget (hs : Renamed k free s s') (h : Nat) :
    s'.widget (k.handle h) =
        (s.widget h).copyAs (s'.widget (k.handle h)).id (k.guid (s.widget h).guid) k.handle ∧
      ((s'.widget (k.handle h)).id = (s.widget h).id ∨
        free h ∧ (s.widget h).id ≤ k.top ∧ (s'.widget (k.handle h)).id ≤ k.top) := by
  unfold Scene.widget
  cases hget : s.get? h with
  | none =>
      have hblank : k.guid (default : Widget).guid = (default : Widget).guid :=
        Renaming.guid_of_le (Nat.zero_le _)
      rw [hs.get?_eq_none hget, Option.getD_none, hblank]
      exact ⟨rfl, Or.inl rfl⟩
  | some e =>
      obtain ⟨e', he', hcopy⟩ := hs.copied h e hget
      rw [he']
      exact hcopy

theorem children (hs : Renamed k free s s') (h : Nat) :
    s'.children (k.handle h) = (s.children h).map k.handle := by
  unfold Scene.children
  rw [(hs.widget h).1]
  exact Widget.children_copyAs ..

theorem isContainer (hs : Renamed k free s s') (h : Nat) :
    s'.isContainer (k.handle h) = s.isContainer h := by
  unfold Scene.isContainer
  rw [(hs.widget h).1]
  exact Widget.isContainer_copyAs ..

theorem guid_widget (hs : Renamed k free s s') (h : Nat) :
    (s'.widget (k.handle h)).guid = k.guid (s.widget h).guid := by
  rw [(hs.widget h).1]
  rfl

theorem className_widget (hs : Renamed k free s s') (h : Nat) :
    (s'.widget (k.handle h)).className = (s.widget h).className := by
  rw [(hs.widget h).1]
  rfl

theorem id_widget (hs : Renamed k free s s') (hh : ¬free h) :
    (s'.widget (k.handle h)).id = (s.widget h).id :=
  (hs.widget h).2.resolve_right fun hid => hh hid.1

/-- The walks have different bounds, as the scenes have different sizes. A
common bound is enough for both. -/
theorem depthFirst (hs : Renamed k free s s') (h : Nat) :
    s'.depthFirst (k.handle h) = (s.depthFirst h).map k.handle := by
  rw [depthFirst_eq (Nat.le_max_right s.walkBound s'.walkBound),
    depthFirst_eq (Nat.le_max_left s.walkBound s'.walkBound)]
  exact explore_map (P := fun _ => True) (fun _ _ _ _ heq => k.handle_injective heq)
    (fun x _ => hs.children x) (fun _ _ _ _ => trivial) placeLast_perm (placeLast_map k.handle) _
    [h] [h]
    (fun _ _ => trivial) fun _ _ => trivial

theorem breadthFirst (hs : Renamed k free s s') (h : Nat) :
    s'.breadthFirst (k.handle h) = (s.breadthFirst h).map k.handle := by
  rw [breadthFirst_eq (Nat.le_max_right s.walkBound s'.walkBound),
    breadthFirst_eq (Nat.le_max_left s.walkBound s'.walkBound)]
  exact explore_map (P := fun _ => True) (fun _ _ _ _ heq => k.handle_injective heq)
    (fun x _ => hs.children x) (fun _ _ _ _ => trivial) placeFirst_perm (placeFirst_map k.handle) _
    [h] [h]
    (fun _ _ => trivial) fun _ _ => trivial

/-- An id that is not dynamic is found at corresponding places. -/
theorem find? (hs : Renamed k free s s') (h : Nat) {id : Int32} (hid : k.top < id) :
    s'.find? (k.handle h) id = (s.find? h id).map k.handle := by
  have hsame : ∀ x, (s'.widget (k.handle x)).id = id ↔ (s.widget x).id = id := by
    intro x
    rcases (hs.widget x).2 with heq | ⟨-, hleft, hright⟩
    · rw [heq]
    · have hne : (s.widget x).id ≠ id := Int32.ne_of_lt (Int32.lt_of_le_of_lt hleft hid)
      have hne' : (s'.widget (k.handle x)).id ≠ id :=
        Int32.ne_of_lt (Int32.lt_of_le_of_lt hright hid)
      exact ⟨fun heq => absurd heq hne', fun heq => absurd heq hne⟩
  rw [find?_eq, find?_eq, hs.isContainer]
  split
  · rw [hs.breadthFirst, List.find?_map]
    refine congrArg (Option.map k.handle) (congrArg (List.find? · _) (funext fun x => ?_))
    exact decide_eq_decide.mpr (hsame x)
  · rfl

theorem findSome? (hs : Renamed k free s s') {id : Int32} (hid : k.top < id) :
    ∀ hs : List Nat, ((hs.map k.handle).findSome? fun h => s'.find? h id) =
      (hs.findSome? fun h => s.find? h id).map k.handle
  | [] => rfl
  | h :: rest => by
      rw [List.map_cons, List.findSome?_cons, List.findSome?_cons, hs.find? h hid]
      cases s.find? h id with
      | none => exact hs.findSome? hid rest
      | some x => rfl

/-! ### What is done -/

theorem modify (hs : Renamed k free s s') (h : Nat) {f f' : Widget → Widget}
    (hf : ∀ e : Widget, (f e).id = e.id ∧ (f e).guid = e.guid)
    (hf' : ∀ (e : Widget) id guid, f' (e.copyAs id guid k.handle) = (f e).copyAs id guid k.handle) :
    Renamed k free (s.modify h f) (s'.modify (k.handle h) f') where
  base_le := by rw [size_modify]; exact hs.base_le
  size := by rw [size_modify, size_modify]; exact hs.size
  issued_le := hs.issued_le
  mint := hs.mint
  named x e hx he := by
    rw [get?_modify] at he
    split at he
    · obtain ⟨d, hd, rfl⟩ := Option.map_eq_some_iff.mp he
      rw [(hf d).2]
      exact hs.named x d hx hd
    · exact hs.named x e hx he
  copied x e he := by
    rw [get?_modify] at he ⊢
    by_cases hx : h = x
    · rw [if_pos hx] at he
      rw [if_pos (congrArg k.handle hx)]
      obtain ⟨d, hd, rfl⟩ := Option.map_eq_some_iff.mp he
      obtain ⟨d', hd', hcopy, hid⟩ := hs.copied x d hd
      rw [hd', Option.map_some]
      have hdone : f' d' = (f d).copyAs d'.id (k.guid d.guid) k.handle :=
        (congrArg f' hcopy).trans (hf' d _ _)
      have hsame : (f' d').id = d'.id := by rw [hdone]; rfl
      exact ⟨f' d', rfl, by rw [hsame, (hf d).2]; exact hdone, by rw [hsame, (hf d).1]; exact hid⟩
    · rw [if_neg hx] at he
      rw [if_neg fun heq => hx (k.handle_injective heq)]
      exact hs.copied x e he

theorem create (hs : Renamed k free s s') {id id' : Int32} (className : String)
    {kind : WidgetKind} (hkind : kind.children = [])
    (hid : id' = id ∨ free s.size ∧ id ≤ k.top ∧ id' ≤ k.top) :
    Renamed k free (s.create id className kind).2 (s'.create id' className kind).2 where
  base_le := by
    rw [size_create]
    exact Nat.le_succ_of_le hs.base_le
  size := by
    rw [size_create, size_create, hs.size]
    omega
  issued_le := Nat.le_succ_of_le hs.issued_le
  mint := by
    show s'.mint.issued + 1 = s.mint.issued + 1 + k.drawn
    rw [hs.mint]
    omega
  named x e hx he := by
    rw [get?_create] at he
    split at he
    · obtain rfl := Option.some.inj he
      have hle := hs.issued_le
      show k.issued < s.mint.issued + 0 + 1
      omega
    · exact hs.named x e hx he
  copied x e he := by
    rw [get?_create] at he ⊢
    by_cases hx : x = s.size
    · rw [if_pos hx] at he
      obtain rfl := Option.some.inj he
      rw [if_pos (by rw [hx, hs.handle_size])]
      refine ⟨_, rfl, ?_, hx ▸ hid⟩
      show _ = Widget.copyAs _ _ (k.guid (s.mint.nth 0)) _
      rw [hs.guid_nth]
      simp only [Widget.copyAs, Widget.mapChildren,
        WidgetKind.mapChildren_of_children_eq_nil hkind]
      rfl
    · rw [if_neg hx] at he
      have hne : k.handle x ≠ s'.size := fun heq =>
        hx (k.handle_injective (heq.trans hs.handle_size.symm))
      rw [if_neg hne]
      exact hs.copied x e he

theorem advanceMint (hs : Renamed k free s s') (n : Nat) :
    Renamed k free (s.advanceMint n) (s'.advanceMint n) :=
  { hs with
    issued_le := Nat.le_add_right_of_le hs.issued_le
    mint := by
      show s'.mint.issued + n = s.mint.issued + n + k.drawn
      rw [hs.mint]
      omega }

end Renamed

end Scene

/-! ## Copies -/

theorem idxOf_map_of_injective {rename : Nat → Nat} (hrename : Function.Injective rename)
    (x : Nat) : ∀ xs : List Nat, (xs.map rename).idxOf (rename x) = xs.idxOf x
  | [] => rfl
  | y :: xs => by
      by_cases hxy : y = x
      · subst hxy
        rw [List.map_cons, List.idxOf_cons_self, List.idxOf_cons_self]
      · have hne : rename y ≠ rename x := fun heq => hxy (hrename heq)
        rw [List.map_cons, List.idxOf_cons_ne _ hne, List.idxOf_cons_ne _ hxy,
          idxOf_map_of_injective hrename x xs]

namespace Scene.Renamed

variable {k : Renaming} {free : Nat → Prop} {s s' : Scene} {h : Nat}

/-- Corresponding widgets are copied to corresponding handles. -/
theorem copyHandle (hs : Renamed k free s s') (h x : Nat) :
    s'.copyHandle (s'.depthFirst (k.handle h)) (k.handle x) =
      k.handle (s.copyHandle (s.depthFirst h) x) := by
  have hle : k.base ≤ s.copyHandle (s.depthFirst h) x :=
    Nat.le_add_right_of_le hs.base_le
  rw [Renaming.handle_of_le hle, hs.depthFirst]
  unfold Scene.copyHandle
  rw [idxOf_map_of_injective k.handle_injective, hs.size]
  omega

/-- A copy of widgets that have ids of their own. -/
theorem copy (hs : Renamed k free s s') (hids : ∀ x, s.Reaches h x → ¬free x) :
    Renamed k free (s.copy h).2 (s'.copy (k.handle h)).2 := by
  have hlength : (s'.depthFirst (k.handle h)).length = (s.depthFirst h).length := by
    rw [hs.depthFirst, List.length_map]
  have hroot : (s'.widget (k.handle h)).id = (s.widget h).id := hs.id_widget (hids h .refl)
  rw [copy_eq, copy_eq, hroot]
  refine ⟨?_, ?_, ?_, ?_, ?_, ?_⟩
  · rw [size_copyWithId]
    exact Nat.le_add_right_of_le hs.base_le
  · rw [size_copyWithId, size_copyWithId, hlength, hs.size]
    omega
  · rw [mint_copyWithId]
    exact Nat.le_add_right_of_le hs.issued_le
  · rw [mint_copyWithId, mint_copyWithId, hlength]
    show s'.mint.issued + _ = s.mint.issued + _ + k.drawn
    rw [hs.mint]
    omega
  · intro x e hx he
    by_cases hlt : x < s.size
    · rw [get?_copyWithId_of_lt s _ hlt] at he
      exact hs.named x e hx he
    · obtain ⟨i, rfl⟩ := Nat.exists_eq_add_of_le (Nat.le_of_not_lt hlt)
      rw [get?_copyWithId_add] at he
      obtain ⟨y, -, rfl⟩ := Option.map_eq_some_iff.mp he
      have hle := hs.issued_le
      show k.issued < s.mint.issued + i + 1
      omega
  · intro x e he
    by_cases hlt : x < s.size
    · rw [get?_copyWithId_of_lt s _ hlt] at he
      obtain ⟨e', he', hcopy⟩ := hs.copied x e he
      have hlt' : k.handle x < s'.size := by
        by_contra hle
        rw [get?_eq_none_iff.mpr (Nat.le_of_not_lt hle)] at he'
        cases he'
      rw [get?_copyWithId_of_lt s' _ hlt']
      exact ⟨e', he', hcopy⟩
    · obtain ⟨i, rfl⟩ := Nat.exists_eq_add_of_le (Nat.le_of_not_lt hlt)
      have hplace : k.handle (s.size + i) = s'.size + i := by
        rw [Renaming.handle_of_le (Nat.le_add_right_of_le hs.base_le), hs.size]
        omega
      rw [get?_copyWithId_add] at he
      obtain ⟨y, hy, rfl⟩ := Option.map_eq_some_iff.mp he
      have hreach : s.Reaches h y := reaches_of_mem_depthFirst (List.mem_of_getElem? hy)
      have hy' : (s'.depthFirst (k.handle h))[i]? = some (k.handle y) := by
        rw [hs.depthFirst, List.getElem?_map, hy]
        rfl
      have hid :
          (if k.handle y = k.handle h then (s.widget h).id else (s'.widget (k.handle y)).id) =
          if y = h then (s.widget h).id else (s.widget y).id := by
        rw [hs.id_widget (hids y hreach)]
        simp only [k.handle_injective.eq_iff]
      rw [hplace, get?_copyWithId_add, hy', Option.map_some, hid, (hs.widget y).1,
        Widget.copyAs_copyAs]
      refine ⟨_, rfl, ?_, Or.inl rfl⟩
      -- Both are copies of the widget at `y`, and their children are the
      -- copies of its children.
      show _ = (Widget.copyAs _ _ _ _).copyAs _ (k.guid (s.mint.nth i)) _
      rw [hs.guid_nth, Widget.copyAs_copyAs]
      refine congrArg (Widget.copyAs _ _ _) (funext fun c => ?_)
      exact hs.copyHandle h c

end Scene.Renamed

end UiRecovery
