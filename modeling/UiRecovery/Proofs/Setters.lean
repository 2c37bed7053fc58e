import UiRecovery.Proofs.Repeating

/-!
# What a setter changes

A call outside all idioms is for a dialog, if its receiver denotes a draft,
and else for the widgets that its receiver denotes. Either way no other
widget changes (`get?_step_call`). A setter that is recognised records what
it says (`Setter.findings`) on each of its targets, and that is all that it
does to the scene (`get?_step_setter`).

The targets are listed without repetition, as what a local denotes is. So a
widget is told once, and what it becomes can be read off from what it was.
-/

namespace UiRecovery

/-! ## Recognised setters -/

/-- What a setter says of a widget, when this is known of its argument. -/
def Setter.findings (r : Resolution) : Setter → List Finding
  | .text attr => r.labels.map fun v => .text (Attr.dynamic attr v)
  | .listener => r.labels.map .listener
  | .inputType => (r.ints.filterMap word32?).map .mask
  | .image => r.labels.map .image

theorem Setter.ofSignature?_of_mem_imageSetters {signature : String}
    (himage : signature ∈ Toolkit.imageSetters) : ofSignature? signature = some .image := by
  have hall : ∀ signature ∈ Toolkit.imageSetters, ofSignature? signature = some .image := by
    decide +kernel
  exact hall signature himage

namespace Query

variable {σ : Type} {q : Query σ} {s : σ} {signature : String}

theorem callAction_eq_call (hother : signature ∉ [Toolkit.showLayout, Toolkit.inflateMenu] ++
    Toolkit.showWidget ++ Toolkit.fragmentTransaction) :
    (callAction signature : Action σ) = .call signature := by
  simp only [List.mem_append, List.mem_cons, List.not_mem_nil, or_false, not_or] at hother
  obtain ⟨⟨⟨hlayout, hmenu⟩, hwidget⟩, hfragment⟩ := hother
  unfold callAction
  simp [hlayout, hmenu, hwidget, hfragment]

/-- The calls that have an action of their own set nothing. -/
theorem callAction_of_setter {setter : Setter}
    (hsetter : Setter.ofSignature? signature = some setter) :
    (callAction signature : Action σ) = .call signature := by
  have hnone : ∀ other ∈ [Toolkit.showLayout, Toolkit.inflateMenu] ++ Toolkit.showWidget ++
      Toolkit.fragmentTransaction, Setter.ofSignature? other = none := by
    decide +kernel
  refine callAction_eq_call fun hmem => ?_
  rw [hnone signature hmem] at hsetter
  cases hsetter

theorem action_of_setter [DecidableEq σ] {setter : Setter} (hidiom : q.dispatch s = none)
    (hcall : q.callSignature s = some signature)
    (hsetter : Setter.ofSignature? signature = some setter) :
    q.action s = .ok (.call signature) := by
  unfold action
  rw [hidiom, hcall]
  exact congrArg Except.ok (callAction_of_setter hsetter)

end Query

namespace Work

variable {σ : Type} {t : Task σ} {s : σ} {signature : String} {w : Work σ} {x : Nat}

/-! ## Several widgets -/

theorem nodup_bound (w : Work σ) (name : Option String) : (w.bound name).Nodup := by
  unfold bound
  split
  · rename_i hs _
    exact hs.nodup
  · exact List.nodup_nil

theorem get?_modifyWidgets {f : Widget → Widget} :
    ∀ {hs : List Nat} (w : Work σ), hs.Nodup →
      (w.modifyWidgets hs f).scene.get? x =
        if x ∈ hs then (w.scene.get? x).map f else w.scene.get? x
  | [], _, _ => by simp [modifyWidgets_eq]
  | h :: hs, w, hnodup => by
      obtain ⟨hh, hnodup⟩ := List.nodup_cons.mp hnodup
      rw [modifyWidgets_eq, List.foldl_cons, ← modifyWidgets_eq,
        get?_modifyWidgets (w.modifyWidget h f) hnodup]
      simp only [modifyWidget_eq, Scene.get?_modify, List.mem_cons]
      by_cases hx : h = x
      · subst hx
        simp [hh]
      · simp [hx, Ne.symm hx]

/-! ## Calls outside all idioms -/

theorem bound_noteCall (w : Work σ) (t : Task σ) (s : σ) (name : Option String) :
    (w.noteCall t s).bound name = w.bound name :=
  (quiet_noteCall s).names.bound name

theorem draftOf?_noteCall (w : Work σ) (t : Task σ) (s : σ) (name : Option String) :
    (w.noteCall t s).draftOf? name = w.draftOf? name := by
  unfold draftOf?
  rw [(quiet_noteCall s).names.draftLocals]

theorem get?_noteCall (w : Work σ) (t : Task σ) (s : σ) (x : Nat) :
    (w.noteCall t s).scene.get? x = w.scene.get? x :=
  (quiet_noteCall s).still.get? x

theorem setterTargets_noteCall (w : Work σ) (t : Task σ) (s : σ) :
    (w.noteCall t s).setterTargets t s = w.setterTargets t s := by
  rw [setterTargets_eq, setterTargets_eq, bound_noteCall, (quiet_noteCall s).still.settings]
  simp only [Scene.widget, get?_noteCall]

theorem mem_setterTargets :
    x ∈ w.setterTargets t s ↔ x ∈ w.bound (t.query.receiver s) ∧
      w.settings.isIgnored (w.scene.widget x).className = false := by
  rw [setterTargets_eq, List.mem_filter, Bool.not_eq_true']

/-- A setter asks for its value, and then tells its targets. -/
theorem setterCall_of_setter {setter : Setter}
    (hsetter : Setter.ofSignature? signature = some setter) (w : Work σ) :
    ∃ v, Quiet w v ∧ w.setterCall t s signature = v.modifyWidgets (w.setterTargets t s)
      (·.recordAll (setter.findings (t.oracle (.arg 0) s))) := by
  rw [setterCall_eq_setOn]
  split
  · rename_i hempty
    rw [List.isEmpty_iff.mp hempty]
    exact ⟨w, .refl w, rfl⟩
  · unfold setOn
    rw [hsetter]
    cases setter with
    | inputType => exact ⟨_, quiet_askInts (.arg 0) s, rfl⟩
    | _ => exact ⟨_, quiet_askLabels (.arg 0) s, rfl⟩

theorem get?_setterCall_of_setter {setter : Setter}
    (hsetter : Setter.ofSignature? signature = some setter) (w : Work σ) :
    (w.setterCall t s signature).scene.get? x =
      if x ∈ w.setterTargets t s then
        (w.scene.get? x).map (·.recordAll (setter.findings (t.oracle (.arg 0) s)))
      else w.scene.get? x := by
  have hnodup : (w.setterTargets t s).Nodup := by
    rw [setterTargets_eq]
    exact (w.nodup_bound _).filter _
  obtain ⟨v, hquiet, heq⟩ := setterCall_of_setter (t := t) (s := s) hsetter w
  rw [heq, get?_modifyWidgets v hnodup, hquiet.still.get?]

theorem setterCall_of_none (hsetter : Setter.ofSignature? signature = none) (w : Work σ) :
    w.setterCall t s signature = w := by
  rw [setterCall_eq_setOn]
  split
  · rfl
  · unfold setOn
    rw [hsetter]

variable [DecidableEq σ]

theorem step_of_call (haction : t.query.action s = .ok (.call signature)) (w : Work σ) :
    w.step t s = ((w.noteCall t s).call t s signature, none) :=
  step_of_action haction w

/-- A call on a local that denotes a draft changes no widget. -/
theorem get?_step_dialogCall (haction : t.query.action s = .ok (.call signature)) {draft : Nat}
    (hdraft : w.draftOf? (t.query.receiver s) = some draft) :
    (w.step t s).1.scene.get? x = w.scene.get? x := by
  rw [← draftOf?_noteCall w t s] at hdraft
  rw [step_of_call haction, call_eq, hdraft]
  refine ((quiet_dialogCall s signature draft).still.get? x).trans ?_
  rw [scene_bindDraft]
  exact get?_noteCall w t s x

/-- A setter tells its targets what it says, and nobody else. -/
theorem get?_step_setter {setter : Setter} (haction : t.query.action s = .ok (.call signature))
    (hsetter : Setter.ofSignature? signature = some setter)
    (hdraft : w.draftOf? (t.query.receiver s) = none) :
    (w.step t s).1.scene.get? x =
      if x ∈ w.setterTargets t s then
        (w.scene.get? x).map (·.recordAll (setter.findings (t.oracle (.arg 0) s)))
      else w.scene.get? x := by
  rw [← draftOf?_noteCall w t s] at hdraft
  rw [step_of_call haction, call_eq, hdraft, get?_setterCall_of_setter hsetter,
    setterTargets_noteCall, get?_noteCall]

/-- A call outside all idioms changes no widget but those that its receiver
denotes. -/
theorem get?_step_call (haction : t.query.action s = .ok (.call signature))
    (hx : x ∉ w.bound (t.query.receiver s)) : (w.step t s).1.scene.get? x = w.scene.get? x := by
  cases hdraft : w.draftOf? (t.query.receiver s) with
  | some draft => exact get?_step_dialogCall haction hdraft
  | none =>
      cases hsetter : Setter.ofSignature? signature with
      | some setter =>
          rw [get?_step_setter haction hsetter hdraft, if_neg]
          exact fun htarget => hx (mem_setterTargets.mp htarget).1
      | none =>
          rw [← draftOf?_noteCall w t s] at hdraft
          rw [step_of_call haction, call_eq, hdraft]
          show (setterCall t s signature _).scene.get? x = _
          rw [setterCall_of_none hsetter, get?_noteCall]

end Work

end UiRecovery
