import UiRecovery.Proofs.Findings
import UiRecovery.Proofs.Ownership

/-!
# What later states keep

Two relations between states of the recovery. `Assembler.Keeps a b` says
that `b` is later than `a`, however much came in between: widgets have
grown, places keep their widgets and screens their content. Beyond growth
it asks that what is `Known` of a widget stays known, and that is what
makes evidence that is given again without effect. `Assembler.Still a b`
says that the recovered interface is the same in both states, down to the
order of everything in it.
-/

namespace UiRecovery

/-! ## Widgets -/

theorem WidgetKind.Grows.isContainer_eq {k k' : WidgetKind} (h : Grows k k') :
    k'.isContainer = k.isContainer := by
  cases h <;> rfl

/-- Nothing that was settled about `e` is open in `e'`. -/
structure Widget.Keeps (e e' : Widget) : Prop where
  grows : e.Grows e'
  known : ∀ x : Finding, x.Known e → x.Known e'

namespace Widget

theorem Keeps.refl (e : Widget) : Keeps e e := ⟨.refl e, fun _ hx => hx⟩

theorem Keeps.trans {e e' e'' : Widget} (h : Keeps e e') (h' : Keeps e' e'') :
    Keeps e e'' where
  grows := h.grows.trans h'.grows
  known x hx := h'.known x (h.known x hx)

theorem keeps_record (e : Widget) (x : Finding) : e.Keeps (e.record x) where
  grows := (e.learns_record x).grows
  known _ hy := hy.record x

theorem keeps_recordAll (e : Widget) (xs : List Finding) : e.Keeps (e.recordAll xs) := by
  induction xs generalizing e with
  | nil => exact .refl e
  | cons x xs ih => exact (e.keeps_record x).trans (ih (e.record x))

/-- Children and evidence have nothing in common but the kind of the
widget, and a text field takes no children. -/
theorem keeps_appendChildren (e : Widget) (cs : List Nat) : e.Keeps (e.appendChildren cs) := by
  refine ⟨e.grows_appendChildren cs, ?_⟩
  intro x hx
  cases x with
  | mask m =>
      intro masks hkind
      cases hk : e.kind with
      | text ms =>
          simp only [appendChildren, mapChildren, WidgetKind.mapChildren, hk] at hkind
          exact hx masks (hk.trans hkind)
      | _ => simp [appendChildren, mapChildren, WidgetKind.mapChildren, hk] at hkind
  | _ => exact hx

theorem mem_appendChildren {e : Widget} (hcontainer : e.isContainer = true) {cs : List Nat}
    {c : Nat} (hc : c ∈ cs) : c ∈ (e.appendChildren cs).children := by
  rw [e.children_appendChildren hcontainer]
  exact List.mem_append_right _ hc

end Widget

/-! ## Scenes -/

def Scene.Keeps (s s' : Scene) : Prop :=
  ∀ h e, s.get? h = some e → ∃ e', s'.get? h = some e' ∧ e.Keeps e'

namespace Scene

variable {s s' s'' : Scene}

theorem Keeps.refl (s : Scene) : s.Keeps s := fun _ e hget => ⟨e, hget, .refl e⟩

theorem Keeps.trans (h : s.Keeps s') (h' : s'.Keeps s'') : s.Keeps s'' := by
  intro x e hget
  obtain ⟨e', hget', hkeep⟩ := h x e hget
  obtain ⟨e'', hget'', hkeep'⟩ := h' x e' hget'
  exact ⟨e'', hget'', hkeep.trans hkeep'⟩

theorem Keeps.className_widget (h : s.Keeps s') {x : Nat} (hx : x < s.size) :
    (s'.widget x).className = (s.widget x).className := by
  obtain ⟨e', hget, hkeep⟩ := h x _ (get?_of_lt hx)
  rw [widget, hget]
  exact hkeep.grows.className

theorem keeps_modify (s : Scene) (h : Nat) {f : Widget → Widget}
    (hf : ∀ e : Widget, e.Keeps (f e)) :
    s.Keeps (s.modify h f) := by
  intro x e hget
  rw [get?_modify, hget]
  by_cases hx : h = x
  · exact ⟨f e, by rw [if_pos hx]; rfl, hf e⟩
  · exact ⟨e, by rw [if_neg hx], .refl e⟩

theorem keeps_create (s : Scene) (id : Int32) (className : String) (kind : WidgetKind) :
    s.Keeps (s.create id className kind).2 := by
  intro x e hget
  have hx : x < s.size := lt_size_of_get? hget
  exact ⟨e, by rw [get?_create, if_neg (Nat.ne_of_lt hx), hget], .refl e⟩

theorem modify_eq_self {h : Nat} {e : Widget} {f : Widget → Widget} (hget : s.get? h = some e)
    (hf : f e = e) : s.modify h f = s := by
  have hwidgets : s.widgets.modify h f = s.widgets := by
    apply List.ext_getElem?
    intro x
    rw [List.getElem?_modify]
    by_cases hx : h = x
    · subst hx
      have hget' : s.widgets[h]? = some e := hget
      simp [hget', hf]
    · simp [hx]
  unfold modify
  rw [hwidgets]

/-- The widget `c` is a child of `p`, or it never will be. -/
def Joined (s : Scene) (p c : Nat) : Prop :=
  ∃ e, s.get? p = some e ∧ (c ∈ e.children ∨ p = c ∨ e.isContainer = false)

theorem Joined.keeps {p c : Nat} (h : s.Joined p c) (hkeep : s.Keeps s') : s'.Joined p c := by
  obtain ⟨e, hget, hjoin⟩ := h
  obtain ⟨e', hget', hkeep⟩ := hkeep p e hget
  refine ⟨e', hget', ?_⟩
  rcases hjoin with hchild | hself | hleaf
  · exact Or.inl (hkeep.grows.kind.children_subset hchild)
  · exact Or.inr (Or.inl hself)
  · exact Or.inr (Or.inr (hkeep.grows.kind.isContainer_eq.trans hleaf))

end Scene

/-! ## Assemblers -/

namespace Assembler

section

variable {σ : Type} {a b c : Assembler σ}

/-- The two states show the same interface. Guids that were drawn, who
uses what, menus and dialogs are left out. -/
structure Still (a b : Assembler σ) : Prop where
  settings : b.settings = a.settings
  widgets : b.scene.widgets = a.scene.widgets
  merged : b.merged = a.merged
  roots : b.roots = a.roots
  nextDynamicId : b.nextDynamicId = a.nextDynamicId

theorem Still.refl (a : Assembler σ) : a.Still a := ⟨rfl, rfl, rfl, rfl, rfl⟩

theorem Still.trans (h : a.Still b) (h' : b.Still c) : a.Still c :=
  ⟨h'.settings.trans h.settings, h'.widgets.trans h.widgets, h'.merged.trans h.merged,
    h'.roots.trans h.roots, h'.nextDynamicId.trans h.nextDynamicId⟩

theorem Still.get? (h : a.Still b) (x : Nat) : b.scene.get? x = a.scene.get? x := by
  unfold Scene.get?
  rw [h.widgets]

theorem Still.size (h : a.Still b) : b.scene.size = a.scene.size := by
  unfold Scene.size
  rw [h.widgets]

end

variable {σ : Type} [DecidableEq σ] {a b c : Assembler σ}

/-- `b` is a later state than `a`. -/
structure Keeps (a b : Assembler σ) : Prop where
  settings : b.settings = a.settings
  scene : a.scene.Keeps b.scene
  merged : ∀ key h, a.merged.get? key = some h → b.merged.get? key = some h
  roots : ∀ o hs, a.roots.get? o = some hs → ∃ hs', b.roots.get? o = some hs' ∧ ∀ h ∈ hs, h ∈ hs'

theorem Keeps.refl (a : Assembler σ) : a.Keeps a :=
  ⟨rfl, .refl _, fun _ _ hget => hget, fun _ hs hget => ⟨hs, hget, fun _ hh => hh⟩⟩

theorem Keeps.trans (h : a.Keeps b) (h' : b.Keeps c) : a.Keeps c where
  settings := h'.settings.trans h.settings
  scene := h.scene.trans h'.scene
  merged key x hget := h'.merged key x (h.merged key x hget)
  roots o hs hget := by
    obtain ⟨hs', hget', hsub⟩ := h.roots o hs hget
    obtain ⟨hs'', hget'', hsub'⟩ := h'.roots o hs' hget'
    exact ⟨hs'', hget'', fun x hx => hsub' x (hsub x hx)⟩

theorem Still.keeps (h : a.Still b) : a.Keeps b where
  settings := h.settings
  scene x e hget := ⟨e, (h.get? x).trans hget, .refl e⟩
  merged key x hget := by
    rw [h.merged]
    exact hget
  roots o hs hget := by
    rw [h.roots]
    exact ⟨hs, hget, fun _ hx => hx⟩

end Assembler

end UiRecovery
