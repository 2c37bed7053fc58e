import UiRecovery.Proofs.Loops
import UiRecovery.Widget

/-!
# Evidence only adds

`Widget.Learns e e'` says that `e'` is the widget `e` with more evidence:
the same identity, class, callback and structure, and in each collection
the old evidence first, in its old order. Every way in which code adds to
a widget is such a change, so all that later proofs need to know of it is
one `Learns`. Those that tell whether the evidence was new tell whether
there was a change.
-/

namespace UiRecovery

/-! ## Appending to ordered sets and maps -/

theorem OrderedSet.insert_eq_self_iff {α : Type} [DecidableEq α] {s : OrderedSet α} {a : α} :
    s.insert a = s ↔ a ∈ s :=
  ⟨fun h => h ▸ mem_insert.mpr (Or.inr rfl), insert_of_mem⟩

theorem OrderedMap.updateEntries_of_not_mem {κ ν : Type} [DecidableEq κ] {k : κ}
    (f : Option ν → ν) :
    ∀ {l : List (κ × ν)}, k ∉ l.map Prod.fst →
      updateEntries k f l = l ++ [(k, f none)]
  | [], _ => rfl
  | (k', v) :: l, h => by
      rw [List.map_cons, List.mem_cons, not_or] at h
      have hne : k' ≠ k := fun heq => h.1 heq.symm
      rw [updateEntries, if_neg hne, updateEntries_of_not_mem f h.2]
      rfl

theorem OrderedMap.entries_insert_of_not_contains {κ ν : Type} [DecidableEq κ]
    {m : OrderedMap κ ν} {k : κ} (v : ν) (h : m.contains k = false) :
    (m.insert k v).entries = m.entries ++ [(k, v)] := by
  have hget : m.get? k = none := by simpa [contains] using h
  exact updateEntries_of_not_mem _ (get?_eq_none_iff.mp hget)

/-! ## Growth of a widget -/

/-- The same kind, with further masks if it is a text field. -/
inductive WidgetKind.Learns : WidgetKind → WidgetKind → Prop
  | same (k : WidgetKind) : Learns k k
  | masks {ms ms' : OrderedSet Int32} (h : ms.toList <+: ms'.toList) :
      Learns (.text ms) (.text ms')

namespace WidgetKind.Learns

theorem trans {k k' k'' : WidgetKind} (h : Learns k k') (h' : Learns k' k'') :
    Learns k k'' := by
  cases h with
  | same => exact h'
  | masks hms =>
      cases h' with
      | same => exact .masks hms
      | masks hms' => exact .masks (hms.trans hms')

theorem children_eq {k k' : WidgetKind} (h : Learns k k') :
    k'.children = k.children := by
  cases h <;> rfl

end WidgetKind.Learns

namespace Widget

/-- `e'` is `e` with more evidence. -/
structure Learns (e e' : Widget) : Prop where
  id : e'.id = e.id
  guid : e'.guid = e.guid
  className : e'.className = e.className
  markupCallback : e'.markupCallback = e.markupCallback
  texts : e.texts.toList <+: e'.texts.toList
  others : e.others.entries <+: e'.others.entries
  listeners : e.listeners.toList <+: e'.listeners.toList
  idVariable : e.idVariable ≠ "" → e'.idVariable = e.idVariable
  kind : e.kind.Learns e'.kind

namespace Learns

theorem refl (e : Widget) : Learns e e where
  id := rfl
  guid := rfl
  className := rfl
  markupCallback := rfl
  texts := List.prefix_rfl
  others := List.prefix_rfl
  listeners := List.prefix_rfl
  idVariable _ := rfl
  kind := .same e.kind

theorem trans {e e' e'' : Widget} (h : Learns e e') (h' : Learns e' e'') :
    Learns e e'' where
  id := h'.id.trans h.id
  guid := h'.guid.trans h.guid
  className := h'.className.trans h.className
  markupCallback := h'.markupCallback.trans h.markupCallback
  texts := h.texts.trans h'.texts
  others := h.others.trans h'.others
  listeners := h.listeners.trans h'.listeners
  idVariable hne := by
    have hfirst := h.idVariable hne
    exact (h'.idVariable (hfirst ▸ hne)).trans hfirst
  kind := h.kind.trans h'.kind

instance : IsPreorder Widget Learns where
  refl := refl
  trans _ _ _ := trans

theorem children_eq {e e' : Widget} (h : Learns e e') : e'.children = e.children :=
  h.kind.children_eq

end Learns

/-! ## The ways to add evidence -/

theorem learns_addText (e : Widget) (a : Attr) : Learns e (e.addText a) :=
  { Learns.refl e with texts := OrderedSet.prefix_insert e.texts a }

theorem learns_addListener (e : Widget) (l : String) : Learns e (e.addListener l) :=
  { Learns.refl e with listeners := OrderedSet.prefix_insert e.listeners l }

theorem learns_addOther (e : Widget) (name : String) (a : Attr) :
    Learns e (e.addOther name a) := by
  unfold addOther
  split
  · exact Learns.refl e
  · rename_i hnew
    refine { Learns.refl e with others := ?_ }
    show e.others.entries <+: (e.others.insert name a).entries
    rw [OrderedMap.entries_insert_of_not_contains a (Bool.not_eq_true _ ▸ hnew)]
    exact List.prefix_append ..

theorem learns_addImage (e : Widget) (value : String) : Learns e (e.addImage value) := by
  unfold addImage
  split
  · exact Learns.refl e
  · exact learns_addOther e _ _

theorem learns_addMask (e : Widget) (mask : Int32) : Learns e (e.addMask mask) := by
  unfold addMask
  split
  · rename_i masks hkind
    refine { Learns.refl e with kind := ?_ }
    show e.kind.Learns (.text (masks.insert mask))
    rw [hkind]
    exact .masks (OrderedSet.prefix_insert masks mask)
  · exact Learns.refl e

/-- A local gives its name only to a widget that has none. -/
theorem learns_nameAfter (e : Widget) (name : String) : Learns e (e.nameAfter name) := by
  unfold nameAfter
  split
  · rename_i hempty
    exact { Learns.refl e with idVariable := fun hne => absurd hempty hne }
  · exact Learns.refl e

/-! ## Whether evidence was new

The answer is true exactly if the widget has changed. -/

theorem fst_addTextNew (e : Widget) (a : Attr) :
    (e.addTextNew a).1 = true ↔ (e.addTextNew a).2 ≠ e := by
  have hsame : e.addText a = e ↔ e.texts.insert a = e.texts :=
    ⟨fun h => congrArg texts h, fun h => by rw [addText, h]⟩
  simp only [addTextNew, decide_eq_true_eq, ne_eq, hsame, OrderedSet.insert_eq_self_iff]

theorem fst_addListenerNew (e : Widget) (l : String) :
    (e.addListenerNew l).1 = true ↔ (e.addListenerNew l).2 ≠ e := by
  have hsame : e.addListener l = e ↔ e.listeners.insert l = e.listeners :=
    ⟨fun h => congrArg listeners h, fun h => by rw [addListener, h]⟩
  simp only [addListenerNew, decide_eq_true_eq, ne_eq, hsame, OrderedSet.insert_eq_self_iff]

theorem fst_addOtherNew (e : Widget) (name : String) (a : Attr) :
    (e.addOtherNew name a).1 = true ↔ (e.addOtherNew name a).2 ≠ e := by
  show (!e.others.contains name) = true ↔ e.addOther name a ≠ e
  cases hcontains : e.others.contains name with
  | true => simp [addOther, hcontains]
  | false =>
    refine ⟨fun _ hsame => ?_, fun _ => rfl⟩
    have hentries := congrArg (·.others.entries) hsame
    simp only [addOther, hcontains, Bool.false_eq_true, if_false,
      OrderedMap.entries_insert_of_not_contains a hcontains] at hentries
    exact List.cons_ne_nil _ _ (List.append_right_eq_self.mp hentries)

theorem fst_addMaskNew (e : Widget) (mask : Int32) :
    (e.addMaskNew mask).1 = true ↔ (e.addMaskNew mask).2 ≠ e := by
  show (e.masks?.any fun masks => mask ∉ masks) = true ↔ e.addMask mask ≠ e
  unfold masks? addMask
  split
  · rename_i masks hkind
    have hsame : { e with kind := .text (masks.insert mask) } = e ↔ masks.insert mask = masks :=
      ⟨fun h => WidgetKind.text.inj ((congrArg kind h).trans hkind), fun h => by rw [h, ← hkind]⟩
    simp only [Option.any_some, decide_eq_true_eq, ne_eq, hsame, OrderedSet.insert_eq_self_iff]
  · simp

end Widget

end UiRecovery
