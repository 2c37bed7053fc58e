import UiRecovery.Proofs.Dispatch
import UiRecovery.Proofs.Lookups
import UiRecovery.Proofs.Touches

/-!
# Constructions

What the local of a construction denotes afterwards depends on the class.
A dialog builder gives it a draft, a widget class the widget of the place,
and any other class takes everything from it. The widgets and the draft
that a local denotes are kept apart, and the first two cases see to one of
them only. So a local that has been used for both denotes the old draft
next to the new widget, or the old widgets next to the new draft. As calls
go to the draft if there is one, a setter on the new widget has an effect
just if the local denoted no draft before.
-/

namespace UiRecovery

/-- A construction outside all pairs. -/
theorem Query.action_of_newExpression {σ : Type} [DecidableEq σ] {q : Query σ} {s : σ}
    {className : String} (hlookup : q.isFindViewById s = false)
    (hchild : q.isGetChildAt s = false) (hassign : q.isAssignment s = true)
    (hrhs : q.rhs s = some (.new className)) : q.action s = .ok (.allocate className) := by
  have hnew : q.isNewExpression s = true := by
    unfold isNewExpression isConstruction
    rw [hassign, hrhs]
    rfl
  unfold action constructedClass
  rw [dispatch_eq_newExpression_iff.mpr ⟨hlookup, hchild, hnew⟩, hrhs]
  rfl

theorem Settings.isDialogBuilder_of_isWidgetClass {settings : Settings} {className : String}
    (hwidget : settings.isWidgetClass className = true) :
    settings.isDialogBuilder className = false := by
  cases hbuilder : settings.isDialogBuilder className with
  | false => rfl
  | true => simp [isWidgetClass, formOf?, hbuilder] at hwidget

namespace Work

variable {σ : Type} [DecidableEq σ] {t : Task σ} {s : σ} {name className : String} {w : Work σ}

/-! ## The three kinds of classes -/

theorem allocate_of_builder (hname : t.query.definedLocal s = some name)
    (hbuilder : w.settings.isDialogBuilder className = true) :
    (w.allocate t s className).drafts = w.drafts ++ [({} : Dialog)] ∧
      (w.allocate t s className).denotes name = (w.bound (some name), some w.drafts.length) := by
  rw [allocate_of_isDialogBuilder hbuilder, hname]
  have hget : (w.draftLocals.insert name w.drafts.length).get? name = some w.drafts.length := by
    rw [OrderedMap.get?_insert, if_pos rfl]
  exact ⟨rfl, congrArg (w.bound (some name), ·) hget⟩

theorem allocate_of_other (hname : t.query.definedLocal s = some name)
    (hbuilder : w.settings.isDialogBuilder className = false)
    (hwidget : w.settings.isWidgetClass className = false) :
    (w.allocate t s className).denotes name = ([], none) := by
  rw [allocate_eq]
  rw [hname, hbuilder, hwidget]
  have hbound : (w.bindLocal (some name) []).bound (some name) = [] := by
    rw [bound_bindLocal, if_pos rfl]
    rfl
  have hget : (w.draftLocals.erase name).get? name = none := by
    rw [OrderedMap.get?_erase, if_pos rfl]
  exact Prod.ext hbound hget

/-- The widget that a place of a construction stands for, and the state in
which it does. -/
def constructed (w : Work σ) (s : σ) (className : String) : Nat × Work σ :=
  w.mergedOr (.allocation s) fun w => w.createDynamic className (w.kindOf className)

theorem merged_constructed (w : Work σ) (s : σ) (className : String) :
    (w.constructed s className).2.merged.get? (.allocation s) =
      some (w.constructed s className).1 := by
  unfold constructed mergedOr
  cases hget : w.merged.get? (.allocation s) with
  | some h => exact hget
  | none => exact (OrderedMap.get?_insert ..).trans (if_pos rfl)

theorem get?_constructed_of_new (hnew : w.merged.get? (.allocation s) = none)
    (className : String) :
    ∃ e, (w.constructed s className).2.scene.get? (w.constructed s className).1 = some e ∧
      e.className = className := by
  unfold constructed mergedOr
  rw [hnew]
  exact ⟨_, (Scene.get?_create ..).trans (if_pos rfl), rfl⟩

theorem allocate_of_widget (hname : t.query.definedLocal s = some name)
    (hwidget : w.settings.isWidgetClass className = true) :
    let r := w.constructed s className
    w.allocate t s className =
      ((r.2.nameAfter r.1 (some name)).tag t.origin r.1).bindLocal (some name) [r.1] := by
  intro r
  rw [allocate_eq]
  rw [Settings.isDialogBuilder_of_isWidgetClass hwidget, hwidget, hname]
  rfl

theorem denotes_allocate_of_widget (hname : t.query.definedLocal s = some name)
    (hwidget : w.settings.isWidgetClass className = true) :
    (w.allocate t s className).denotes name =
      ([(w.constructed s className).1], w.draftOf? (some name)) := by
  have hmade : Touches [] [] w (w.constructed s className).2 :=
    touches_mergedOr _ (touches_createDynamic _ _ _)
  have hnamed := hmade.trans (touches_nameAfter _ (w.constructed s className).1 (some name))
  have hdraft := congrArg Prod.snd (hnamed.denotes name List.not_mem_nil)
  rw [allocate_of_widget hname hwidget]
  refine Prod.ext ?_ hdraft
  show (bindLocal _ _ _).bound _ = _
  rw [bound_bindLocal, if_pos rfl]
  rfl

theorem merged_allocate_of_widget (hname : t.query.definedLocal s = some name)
    (hwidget : w.settings.isWidgetClass className = true) :
    (w.allocate t s className).merged.get? (.allocation s) =
      some (w.constructed s className).1 := by
  have hnamed := (w.constructed s className).2.merged_nameAfter (w.constructed s className).1
    (some name)
  rw [allocate_of_widget hname hwidget]
  exact (congrArg (·.get? (.allocation s)) hnamed).trans (merged_constructed w s className)

theorem className_allocate_of_new (hname : t.query.definedLocal s = some name)
    (hwidget : w.settings.isWidgetClass className = true)
    (hnew : w.merged.get? (.allocation s) = none) :
    ((w.allocate t s className).scene.widget (w.constructed s className).1).className =
      className := by
  obtain ⟨e, he, hclass⟩ := get?_constructed_of_new hnew className
  rw [allocate_of_widget hname hwidget]
  show (Scene.widget ((w.constructed s className).2.scene.modify _ _) _).className = _
  rw [Scene.widget, Scene.get?_modify, if_pos rfl, he]
  refine Eq.trans ?_ hclass
  exact (e.learns_nameAfter name).className

/-! ## The next setter -/

/-- A setter on a local that denotes one widget tells this widget, unless
the local denotes a draft too or the widget takes no attributes. -/
theorem get?_step_setter_of_denotes {h : Nat} {draft : Option Nat} {signature : String}
    {setter : Setter} (hdenotes : w.denotes name = ([h], draft))
    (hreceiver : t.query.receiver s = some name)
    (haction : t.query.action s = .ok (.call signature))
    (hsetter : Setter.ofSignature? signature = some setter) (x : Nat) :
    (w.step t s).1.scene.get? x =
      if x = h ∧ draft = none ∧ w.settings.isIgnored (w.scene.widget h).className = false then
        (w.scene.get? h).map (·.recordAll (setter.findings (t.oracle (.arg 0) s)))
      else w.scene.get? x := by
  obtain ⟨hbound, hdraft⟩ := Prod.mk.inj hdenotes
  rw [← hreceiver] at hbound hdraft
  cases draft with
  | some d =>
      rw [get?_step_dialogCall haction hdraft, if_neg]
      rintro ⟨-, hnone, -⟩
      cases hnone
  | none =>
      rw [get?_step_setter haction hsetter hdraft]
      simp only [mem_setterTargets, hbound, List.mem_singleton, true_and]
      by_cases hx : x = h
      · rw [hx]
      · rw [if_neg fun hboth => hx hboth.1, if_neg fun hboth => hx hboth.1]

/-- The same, until the local is assigned again. -/
theorem get?_setter_after_run {h : Nat} {draft : Option Nat} {between : List σ} {before : Work σ}
    {signature : String} {setter : Setter} (hdenotes : w.denotes name = ([h], draft))
    (hh : h < w.scene.size) (hrun : run t between w = (before, none))
    (hbetween : ∀ b ∈ between, some name ∉ t.query.assigned b)
    (hreceiver : t.query.receiver s = some name)
    (haction : t.query.action s = .ok (.call signature))
    (hsetter : Setter.ofSignature? signature = some setter) (x : Nat) :
    (before.step t s).1.scene.get? x =
      if x = h ∧ draft = none ∧ w.settings.isIgnored (w.scene.widget h).className = false then
        (before.scene.get? h).map (·.recordAll (setter.findings (t.oracle (.arg 0) s)))
      else before.scene.get? x := by
  have hkept := denotes_run hbetween w
  have hmoves : Moves t between (∅, w) (∅, (run t between w).1) :=
    moves_run between (fun _ hb => hb) w
  rw [hrun] at hkept hmoves
  have hsettings : before.settings = w.settings := hmoves.untouched.settings
  have hclass := (hmoves.grows.scene.widget hh).className
  rw [get?_step_setter_of_denotes (hkept.trans hdenotes) hreceiver haction hsetter x, hsettings,
    hclass]

theorem step_of_newExpression (hlookup : t.query.isFindViewById s = false)
    (hchild : t.query.isGetChildAt s = false) (hassign : t.query.isAssignment s = true)
    (hrhs : t.query.rhs s = some (.new className)) (w : Work σ) :
    w.step t s = ((w.noteCall t s).allocate t s className, none) :=
  step_of_action (Query.action_of_newExpression hlookup hchild hassign hrhs) w

/-- A construction outside all pairs does not fail. Its local comes to
denote the draft that is made for a dialog builder, next to the widgets
that it denoted; or the widget of the place, next to the draft that it
denoted; or nothing. Until the local is assigned again, setters that are
called on it tell the widget just if it denoted no draft before, and no
other widget. -/
theorem allocation_rebinds (hw : w.Underway) (hlookup : t.query.isFindViewById s = false)
    (hchild : t.query.isGetChildAt s = false) (hassign : t.query.isAssignment s = true)
    (hrhs : t.query.rhs s = some (.new className)) (hname : t.query.definedLocal s = some name) :
    let next := (w.step t s).1
    (w.step t s).2 = none ∧
      (w.settings.isDialogBuilder className = true →
        next.drafts = w.drafts ++ [({} : Dialog)] ∧
          next.denotes name = (w.bound (some name), some w.drafts.length)) ∧
      (w.settings.isWidgetClass className = true →
        ∃ h, next.merged.get? (.allocation s) = some h ∧ h < next.scene.size ∧
          (w.merged.get? (.allocation s) = none →
            (next.scene.widget h).className = className) ∧
          next.denotes name = ([h], w.draftOf? (some name)) ∧
          ∀ (between : List σ) (before : Work σ) (s' : σ) (signature : String) (setter : Setter),
            run t between next = (before, none) →
            (∀ b ∈ between, some name ∉ t.query.assigned b) →
            t.query.receiver s' = some name → t.query.action s' = .ok (.call signature) →
            Setter.ofSignature? signature = some setter →
            ∀ x, (before.step t s').1.scene.get? x =
              if x = h ∧ w.draftOf? (some name) = none ∧
                  w.settings.isIgnored (next.scene.widget h).className = false then
                (before.scene.get? h).map
                  (·.recordAll (setter.findings (t.oracle (.arg 0) s')))
              else before.scene.get? x) ∧
      (w.settings.isDialogBuilder className = false →
        w.settings.isWidgetClass className = false → next.denotes name = ([], none)) := by
  intro next
  have hstep := step_of_newExpression hlookup hchild hassign hrhs w
  have hnext : next = (w.noteCall t s).allocate t s className := congrArg Prod.fst hstep
  have hmoves : Moves t [s] (∅, w) (∅, next) := moves_step w List.mem_cons_self
  obtain ⟨attribution, hnote⟩ := w.noteCall_eq t s
  rw [hnote] at hnext
  refine ⟨by rw [hstep], ?_, ?_, ?_⟩
  · intro hbuilder
    rw [hnext]
    exact allocate_of_builder hname hbuilder
  · intro hwidget
    let noted : Work σ := { w with attribution }
    have hmerged : next.merged.get? (.allocation s) = some (noted.constructed s className).1 := by
      rw [hnext]
      exact merged_allocate_of_widget hname hwidget
    have hdenotes : next.denotes name =
        ([(noted.constructed s className).1], w.draftOf? (some name)) := by
      rw [hnext]
      exact denotes_allocate_of_widget hname hwidget
    have hmerges := (Assembler.precedes_of_moves hmoves).merges 0 hw.merges
    have hlt := (hmerges.range _ _ hmerged).2
    refine ⟨_, hmerged, hlt, ?_, hdenotes, ?_⟩
    · intro hnew
      rw [hnext]
      exact className_allocate_of_new hname hwidget hnew
    · intro between before s' signature setter hrun hbetween hreceiver haction hsetter x
      have hsettings : next.settings = w.settings := hmoves.untouched.settings
      rw [← hsettings]
      exact get?_setter_after_run hdenotes hlt hrun hbetween hreceiver haction hsetter x
  · intro hbuilder hwidget
    rw [hnext]
    exact allocate_of_other hname hbuilder hwidget

end Work

/-! ## Locals that are used again -/

/-- Code that constructs objects, each for a local, and then sets the text
of what a local named `view` denotes. -/
def Query.constructing (objects : List (String × String)) : Query Nat :=
  { Query.straightLine [] with
    containsCall := fun s => decide (s = objects.length)
    callSignature := fun s =>
      if s = objects.length then some "void setText(java.lang.CharSequence)" else none
    isAssignment := fun s => decide (s < objects.length)
    rhs := fun s => (objects[s]?).map fun object => .new object.2
    definedLocal := fun s => (objects[s]?).map fun object => object.1 }

def Task.constructing (objects : List (String × String)) : Task Nat where
  query := .constructing objects
  oracle _ _ := .known (.ofList [.str "Send"])
  origin := .activity "Main" ""

/-- A local is used for a text, and then for a button. A dialog is begun
before the button gets its text. -/
def Task.buttonAndDialog : Task Nat :=
  .constructing [("view", "java.lang.String"), ("view", "android.widget.Button"),
    ("dialog", "android.app.AlertDialog$Builder")]

def Work.buttonAndDialog : Work Nat :=
  (run .buttonAndDialog [0] (Assembler.labelledBox.begin .buttonAndDialog [0, 1, 2, 3])).1

theorem Work.underway_buttonAndDialog : buttonAndDialog.Underway :=
  underway_run Assembler.lawful_labelledBox ⟨[1, 2, 3], rfl⟩ (by decide +kernel)

theorem Work.allocation_rebinds_buttonAndDialog :
    let t := Task.buttonAndDialog
    let w := Work.buttonAndDialog
    let next := (w.step t 1).1
    let before := (run t [2] next).1
    w.Underway ∧ next.denotes "view" = ([2], none) ∧ before.denotes "dialog" = ([], some 0) ∧
      (before.step t 3).1.scene.get? 2 = (before.scene.get? 2).map
        (·.recordAll [.text (Attr.dynamic "text" "Send")]) := by
  intro t w next before
  have hview : next.denotes "view" = ([2], none) := by decide +kernel
  have hdialog : before.denotes "dialog" = ([], some 0) := by decide +kernel
  have hrun : (run t [2] next).2 = none := by decide +kernel
  have hclass : w.settings.isIgnored (next.scene.widget 2).className = false := by decide +kernel
  obtain ⟨-, -, hwidget, -⟩ := allocation_rebinds (t := t) (s := 1) underway_buttonAndDialog
    (by decide +kernel) (by decide +kernel) (by decide +kernel) rfl rfl
  obtain ⟨h, -, -, -, hdenotes, hsetter⟩ := hwidget (by decide +kernel)
  obtain ⟨hh, hdraft⟩ := Prod.mk.inj (hview.symm.trans hdenotes)
  obtain rfl : 2 = h := (List.cons.inj hh).1
  have htext := hsetter [2] before 3 "void setText(java.lang.CharSequence)" (.text "text")
    (Prod.ext rfl hrun) (by decide +kernel) rfl (by decide +kernel) (by decide +kernel) 2
  rw [if_pos ⟨rfl, hdraft.symm, hclass⟩] at htext
  exact ⟨underway_buttonAndDialog, hview, hdialog, htext⟩

/-- A dialog and then a button, or a button and then a dialog: the local
denotes both. The text of the button is lost. -/
theorem Work.allocation_keeps_stale :
    let t := Task.constructing [("view", "android.app.AlertDialog$Builder"),
      ("view", "android.widget.Button")]
    let w := (run t [0, 1] (Assembler.labelledBox.begin t [0, 1, 2])).1
    let t' := Task.constructing [("view", "android.widget.Button"),
      ("view", "android.app.AlertDialog$Builder")]
    let w' := (run t' [0, 1] (Assembler.labelledBox.begin t' [0, 1, 2])).1
    w.denotes "view" = ([2], some 0) ∧ ((w.step t 2).1.scene.widget 2).texts.toList = [] ∧
      w'.denotes "view" = ([2], some 0) := by
  decide +kernel

end UiRecovery
