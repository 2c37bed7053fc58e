import Mathlib.Data.List.GetD
import UiRecovery.Proofs.Shown
import UiRecovery.Proofs.Dispatch
import UiRecovery.Proofs.Setters
import UiRecovery.Proofs.Signatures
import UiRecovery.Proofs.Visits

/-!
# What is said of a dialog

A method begins a draft where it constructs a builder, and what it calls on
the builder is evidence of the dialog. A draft is reached through the local
that denotes it, by position, and a position that no draft has would make
evidence vanish. So it is shown first that there is none (`Aliased`, kept by
every move).

Then the evidence is accounted for. `Visit.labelsFor` and
`Visit.buttonsFor` say what a visit has to say of the draft with a given
number, by its call, its oracle and its locals alone. A visit adds this to
the drafts and nothing else, and begins a draft just if it constructs a
builder (`getD_drafts_next`, `length_drafts_next`). Over a run the visits
add up: a dialog has what the visits of the method say of it, in their
order, and the drafts are numbered in the order of the constructions.
-/

namespace UiRecovery

/-! ## The parts of a dialog -/

/-- The texts of a dialog. An icon goes by its name. -/
inductive DialogText where
  | title
  | message
  | icon
deriving DecidableEq

namespace DialogText

def all : List DialogText := [.title, .message, .icon]

/-- The calls by which the text is set. -/
def calls : DialogText → List String
  | .title => Toolkit.dialogTitle
  | .message => Toolkit.dialogMessage
  | .icon => Toolkit.dialogIcon

def candidates (d : Dialog) : DialogText → OrderedSet String
  | .title => d.titles
  | .message => d.messages
  | .icon => d.icons

/-- Add candidates for the text. -/
def add (labels : List String) (d : Dialog) : DialogText → Dialog
  | .title => { d with titles := d.titles.insertAll labels }
  | .message => { d with messages := d.messages.insertAll labels }
  | .icon => { d with icons := d.icons.insertAll labels }

theorem candidates_add (labels : List String) (d : Dialog) (text text' : DialogText) :
    candidates (add labels d text) text' =
      (candidates d text').insertAll (if text' = text then labels else []) := by
  cases text <;> cases text' <;> rfl

@[simp]
theorem buttons_add (labels : List String) (d : Dialog) (text : DialogText) :
    (add labels d text).buttons = d.buttons := by
  cases text <;> rfl

end DialogText

/-- All calls that are evidence of a dialog. -/
def Toolkit.dialogCalls : List String :=
  DialogText.all.flatMap DialogText.calls ++ Toolkit.dialogButton

/-- Add a button behind the others. -/
def Dialog.addButton (d : Dialog) (b : Button) : Dialog := { d with buttons := d.buttons ++ [b] }

theorem Dialog.ext_parts {d d' : Dialog}
    (htexts : ∀ text, DialogText.candidates d text = DialogText.candidates d' text)
    (hbuttons : d.buttons = d'.buttons) : d = d' := by
  have htitles : d.titles = d'.titles := htexts .title
  have hmessages : d.messages = d'.messages := htexts .message
  have hicons : d.icons = d'.icons := htexts .icon
  cases d
  cases d'
  simp_all

namespace DialogText

theorem mem_all (text : DialogText) : text ∈ all := by
  cases text <;> decide

theorem mem_dialogCalls {signature : String} : signature ∈ Toolkit.dialogCalls ↔
    (∃ text : DialogText, signature ∈ text.calls) ∨ signature ∈ Toolkit.dialogButton := by
  simp [Toolkit.dialogCalls, mem_all]

/-- No call is in two of the tables. -/
theorem calls_disjoint {text : DialogText} {signature : String} (hcall : signature ∈ text.calls) :
    signature ∉ Toolkit.dialogButton ∧
      ∀ text' : DialogText, signature ∈ text'.calls ↔ text' = text := by
  have hdisjoint : ∀ text ∈ all, ∀ signature ∈ text.calls, signature ∉ Toolkit.dialogButton ∧
      ∀ text' ∈ all, signature ∈ text'.calls → text' = text := by
    decide +kernel
  obtain ⟨hbutton, htexts⟩ := hdisjoint text text.mem_all signature hcall
  exact ⟨hbutton, fun text' => ⟨htexts text' text'.mem_all, fun heq => heq ▸ hcall⟩⟩

end DialogText

/-- The builders of which the calls that add a button are known. -/
def Toolkit.buttonBuilders : List String :=
  ["android.app.AlertDialog$Builder", "android.support.v7.app.AlertDialog$Builder"]

/-- There is a call for each role, each way to give the label, and each
builder. -/
theorem Toolkit.dialogButton_eq : dialogButton = ButtonRole.all.flatMap fun role =>
    ["int", "java.lang.CharSequence"].flatMap fun label => buttonBuilders.map fun builder =>
      builder ++ " " ++ role.methodName ++ "(" ++
        (label ++ ",android.content.DialogInterface$OnClickListener)") := by
  decide +kernel

/-- The role of a button is known from the call that adds it. -/
theorem ButtonRole.ofMethodName?_of_mem {signature : String}
    (hcall : signature ∈ Toolkit.dialogButton) :
    ∃ role, ofMethodName? (Signature.callName signature) = some role ∧
      role.methodName = Signature.callName signature := by
  have hbuilders : ∀ builder ∈ Toolkit.buttonBuilders, '(' ∉ builder.toList := by decide +kernel
  have hmethods : ∀ role ∈ all, '(' ∉ role.methodName.toList ∧ ' ' ∉ role.methodName.toList := by
    decide +kernel
  rw [Toolkit.dialogButton_eq] at hcall
  obtain ⟨role, hrole, hcall⟩ := List.mem_flatMap.mp hcall
  obtain ⟨label, -, hcall⟩ := List.mem_flatMap.mp hcall
  obtain ⟨builder, hbuilder, rfl⟩ := List.mem_map.mp hcall
  have hname := Signature.callName_append
    (label ++ ",android.content.DialogInterface$OnClickListener)")
    (hbuilders builder hbuilder) (hmethods role hrole).1 (hmethods role hrole).2
  rw [hname]
  cases hfind : ofMethodName? role.methodName with
  | none => exact absurd (decide_eq_true rfl) (List.find?_eq_none.mp hfind role hrole)
  | some role' =>
      have hsame := List.find?_some (show all.find? _ = some role' from hfind)
      exact ⟨role', rfl, of_decide_eq_true hsame⟩

theorem Query.callAction_of_dialogCall {σ : Type} {signature : String}
    (hcall : signature ∈ Toolkit.dialogCalls) :
    (callAction signature : Action σ) = .call signature := by
  have hother : ∀ signature ∈ Toolkit.dialogCalls, signature ∉ [Toolkit.showLayout,
      Toolkit.inflateMenu] ++ Toolkit.showWidget ++ Toolkit.fragmentTransaction := by
    decide +kernel
  exact callAction_eq_call (hother signature hcall)

theorem modify_eq_set_of_getElem? {α : Type} {l : List α} {k : Nat} {a : α} (h : l[k]? = some a)
    (f : α → α) : l.modify k f = l.set k (f a) := by
  rw [List.modify_eq_set_getElem?, h]
  rfl

/-! ## A call on a builder -/

namespace Work

variable {σ : Type} {t : Task σ} {s : σ} {w : Work σ} {signature : String} {draft : Nat}

theorem drafts_dialogCall_text {text : DialogText} (hcall : signature ∈ text.calls) :
    (w.dialogCall t s signature draft).drafts =
      w.drafts.modify draft fun d => text.add (t.oracle (.arg 0) s).labels d := by
  have hasked := (w.keepsShown_askLabels t (.arg 0) s).drafts
  have hmem : ∀ text' : DialogText, text'.calls.contains signature = decide (text' = text) := by
    intro text'
    rw [List.contains_eq_mem, decide_eq_decide]
    exact (DialogText.calls_disjoint hcall).2 text'
  have htitle : Toolkit.dialogTitle.contains signature = _ := hmem .title
  have hmessage : Toolkit.dialogMessage.contains signature = _ := hmem .message
  have hicon : Toolkit.dialogIcon.contains signature = _ := hmem .icon
  unfold dialogCall
  rw [(keepsShown_bindDraft _ _ _).drafts, htitle, hmessage, hicon]
  cases text <;> simp [modifyDraft, hasked, DialogText.add]

/-- The button that a call adds, if its role is known. -/
def buttonAt (t : Task σ) (s : σ) (w : Work σ) (role : ButtonRole) : Button :=
  ⟨w.scene.mint.next, .ofList (t.oracle (.arg 0) s).labels, role,
    .ofList (t.oracle (.arg 1) s).labels⟩

theorem drafts_dialogCall_button {role : ButtonRole} (hcall : signature ∈ Toolkit.dialogButton)
    (hrole : ButtonRole.ofMethodName? (Signature.callName signature) = some role) :
    (w.dialogCall t s signature draft).drafts =
      w.drafts.modify draft (·.addButton (w.buttonAt t s role)) := by
  have hasked :=
    ((w.keepsShown_askLabels t (.arg 0) s).trans (keepsShown_askLabels _ t (.arg 1) s)).drafts
  have hmem : ∀ text : DialogText, text.calls.contains signature = false := by
    intro text
    rw [List.contains_eq_mem, decide_eq_false_iff_not]
    exact fun htext => (DialogText.calls_disjoint htext).1 hcall
  have htitle : Toolkit.dialogTitle.contains signature = false := hmem .title
  have hmessage : Toolkit.dialogMessage.contains signature = false := hmem .message
  have hicon : Toolkit.dialogIcon.contains signature = false := hmem .icon
  unfold dialogCall
  rw [(keepsShown_bindDraft _ _ _).drafts, htitle, hmessage, hicon]
  simp [hcall, hrole, modifyDraft, hasked, Dialog.addButton, buttonAt]

theorem drafts_dialogCall_other (hcall : signature ∉ Toolkit.dialogCalls) :
    (w.dialogCall t s signature draft).drafts = w.drafts := by
  rw [DialogText.mem_dialogCalls, not_or, not_exists] at hcall
  obtain ⟨htexts, hbutton⟩ := hcall
  have htitle : signature ∉ Toolkit.dialogTitle := htexts .title
  have hmessage : signature ∉ Toolkit.dialogMessage := htexts .message
  have hicon : signature ∉ Toolkit.dialogIcon := htexts .icon
  unfold dialogCall
  rw [(keepsShown_bindDraft _ _ _).drafts]
  simp [htitle, hmessage, hicon, hbutton]

/-! ## Aliases -/

/-- Every local that denotes a draft denotes one that there is. -/
def Aliased (w : Work σ) : Prop :=
  ∀ name draft, w.draftLocals.get? name = some draft → draft < w.drafts.length

theorem Aliased.lt_of_draftOf? (hw : w.Aliased) {name : Option String}
    (hdraft : w.draftOf? name = some draft) : draft < w.drafts.length := by
  obtain ⟨name, -, hget⟩ := Option.bind_eq_some_iff.mp hdraft
  exact hw name draft hget

theorem Move.aliased [DecidableEq σ] {sites : List σ} {x y : Set Nat × Work σ}
    (h : Move t sites x y) (hx : x.2.Aliased) : y.2.Aliased := by
  cases h with
  | draft =>
      intro name draft hget
      rw [List.length_append]
      exact (hx name draft hget).trans_le (Nat.le_add_right _ _)
  | @bindDraft H w name new hnew =>
      intro name' draft hget
      rw [OrderedMap.get?_insert] at hget
      split at hget
      · cases hget
        rcases hnew with hlast | ⟨other, hother⟩
        · show new < w.drafts.length
          omega
        · exact hx other new hother
      · exact hx name' draft hget
  | forgetDraft name =>
      intro name' draft hget
      rw [OrderedMap.get?_erase] at hget
      split at hget
      · cases hget
      · exact hx name' draft hget
  | describe =>
      intro name draft hget
      rw [List.length_modify]
      exact hx name draft hget
  | button =>
      intro name draft hget
      rw [List.length_modify]
      exact hx name draft hget
  | _ => exact hx

end Work

theorem Assembler.kept_aliased {σ : Type} [DecidableEq σ] :
    Kept (fun _ : Assembler σ => True) (fun x => x.2.Aliased) where
  begins _ _ _ := nofun
  moves hmove hx := hmove.aliased hx
  fails _ _ := trivial
  ends _ _ _ := trivial
  skips _ _ _ := trivial

/-! ## Constructions and calls -/

namespace Query

variable {σ : Type} {q : Query σ} {s : σ}

theorem dispatch_of_allocate [DecidableEq σ] {className : String}
    (haction : q.action s = .ok (.allocate className)) :
    q.dispatch s = some .newExpression ∧ className = q.constructedClass s := by
  rcases action_cases haction with ⟨signature, -, -, hcall⟩ | ⟨hnew, hclass⟩ | hshown
  · unfold callAction at hcall
    split_ifs at hcall
  · exact ⟨hnew, Action.allocate.inj hclass⟩
  · exact hshown.elim

theorem callSignature_of_call [DecidableEq σ] {signature : String}
    (haction : q.action s = .ok (.call signature)) :
    q.dispatch s = none ∧ q.callSignature s = some signature := by
  rcases action_cases haction with ⟨signature', hidiom, hsignature, hcall⟩ | ⟨-, hnew⟩ | hshown
  · unfold callAction at hcall
    split_ifs at hcall
    cases hcall
    exact ⟨hidiom, hsignature⟩
  · cases hnew
  · exact hshown.elim

end Query

/-! ## What a visit says -/

namespace Visit

variable {σ : Type} {v : Visit σ} {k : Nat} {signature : String}

/-- The visit constructs a dialog builder, outside all pairs. -/
def begins (v : Visit σ) : Bool :=
  let q := v.task.query
  !q.isFindViewById v.site && !q.isGetChildAt v.site && q.isNewExpression v.site &&
    v.work.settings.isDialogBuilder (q.constructedClass v.site)

/-- What is called, outside all idioms, on the builder of the `k`-th
draft. -/
def callOn? (v : Visit σ) (k : Nat) : Option String :=
  let q := v.task.query
  if q.primaryIdiom? v.site = none ∧ v.work.draftOf? (q.receiver v.site) = some k then
    q.callSignature v.site
  else none

/-- What the visit says about a text of the `k`-th draft. -/
def labelsFor (v : Visit σ) (text : DialogText) (k : Nat) : List String :=
  if (v.callOn? k).any text.calls.contains then (v.task.oracle (.arg 0) v.site).labels else []

/-- What the visit says about the buttons of the `k`-th draft. -/
def buttonsFor (v : Visit σ) (k : Nat) : List Button :=
  match v.callOn? k with
  | some signature =>
    if signature ∈ Toolkit.dialogButton then
      ((ButtonRole.ofMethodName? (Signature.callName signature)).map
        (v.work.buttonAt v.task v.site)).toList
    else []
  | none => []

theorem callOn?_eq_some_iff : v.callOn? k = some signature ↔
    v.task.query.primaryIdiom? v.site = none ∧
      v.work.draftOf? (v.task.query.receiver v.site) = some k ∧
      v.task.query.callSignature v.site = some signature := by
  unfold callOn?
  simp [and_assoc]

/-- A visit speaks of one draft at most. -/
theorem callOn?_unique {k' : Nat} {signature' : String} (h : v.callOn? k = some signature)
    (h' : v.callOn? k' = some signature') : k' = k ∧ signature' = signature := by
  obtain ⟨-, hdraft, hcall⟩ := callOn?_eq_some_iff.mp h
  obtain ⟨-, hdraft', hcall'⟩ := callOn?_eq_some_iff.mp h'
  exact ⟨Option.some.inj (hdraft'.symm.trans hdraft), Option.some.inj (hcall'.symm.trans hcall)⟩

theorem begins_iff : v.begins = true ↔
    v.task.query.dispatch v.site = some .newExpression ∧
      v.work.settings.isDialogBuilder (v.task.query.constructedClass v.site) = true := by
  rw [Query.dispatch_eq_newExpression_iff]
  simp [begins, and_assoc]

/-- Four kinds of visits: those that begin a draft, those that speak of a
text or of a button, and those that say nothing. -/
theorem begins_or_speaks (v : Visit σ) :
    (v.begins = true ∧ ∀ k, v.callOn? k = none) ∨
      v.begins = false ∧
        ((∃ k signature text, v.callOn? k = some signature ∧ signature ∈ DialogText.calls text) ∨
          (∃ k signature role, v.callOn? k = some signature ∧ signature ∈ Toolkit.dialogButton ∧
            ButtonRole.ofMethodName? (Signature.callName signature) = some role) ∨
          ∀ k signature, v.callOn? k = some signature → signature ∉ Toolkit.dialogCalls) := by
  cases hbegins : v.begins with
  | true =>
      refine Or.inl ⟨rfl, fun k => Option.eq_none_iff_forall_ne_some.mpr ?_⟩
      intro signature hcall
      have hidiom := (Query.dispatch_eq_none_iff _ _).mpr (callOn?_eq_some_iff.mp hcall).1
      rw [(begins_iff.mp hbegins).1] at hidiom
      cases hidiom
  | false =>
      refine Or.inr ⟨rfl, ?_⟩
      by_cases hspeaks : ∃ k signature,
        v.callOn? k = some signature ∧ signature ∈ Toolkit.dialogCalls
      · obtain ⟨k, signature, hcall, hdialog⟩ := hspeaks
        rcases DialogText.mem_dialogCalls.mp hdialog with ⟨text, htext⟩ | hbutton
        · exact Or.inl ⟨k, signature, text, hcall, htext⟩
        · obtain ⟨role, hrole, -⟩ := ButtonRole.ofMethodName?_of_mem hbutton
          exact Or.inr (Or.inl ⟨k, signature, role, hcall, hbutton, hrole⟩)
      · refine Or.inr (Or.inr fun k signature hcall hdialog => ?_)
        exact hspeaks ⟨k, signature, hcall, hdialog⟩

/-! ## The account of a visit -/

/-- The `k`-th draft, with what the visit says of it. -/
def told (v : Visit σ) (k : Nat) (d : Dialog) : Dialog where
  titles := d.titles.insertAll (v.labelsFor .title k)
  messages := d.messages.insertAll (v.labelsFor .message k)
  icons := d.icons.insertAll (v.labelsFor .icon k)
  buttons := d.buttons ++ v.buttonsFor k

theorem candidates_told (v : Visit σ) (k : Nat) (d : Dialog) (text : DialogText) :
    DialogText.candidates (v.told k d) text =
      (DialogText.candidates d text).insertAll (v.labelsFor text k) := by
  cases text <;> rfl

theorem told_of_text {text : DialogText} (hcall : v.callOn? k = some signature)
    (htext : signature ∈ text.calls) (d : Dialog) :
    v.told k d = text.add (v.task.oracle (.arg 0) v.site).labels d := by
  obtain ⟨hbutton, htexts⟩ := DialogText.calls_disjoint htext
  refine Dialog.ext_parts ?_ ?_
  · intro text'
    rw [candidates_told, DialogText.candidates_add, labelsFor, hcall]
    simp [htexts text']
  · rw [DialogText.buttons_add, told, buttonsFor, hcall]
    simp [hbutton]

theorem told_of_button {role : ButtonRole} (hcall : v.callOn? k = some signature)
    (hbutton : signature ∈ Toolkit.dialogButton)
    (hrole : ButtonRole.ofMethodName? (Signature.callName signature) = some role) (d : Dialog) :
    v.told k d = d.addButton (v.work.buttonAt v.task v.site role) := by
  refine Dialog.ext_parts ?_ ?_
  · intro text
    have htext : signature ∉ text.calls := fun htext => (DialogText.calls_disjoint htext).1 hbutton
    rw [candidates_told, labelsFor, hcall]
    cases text <;> simp [htext, Dialog.addButton, DialogText.candidates]
  · simp [told, buttonsFor, hcall, hbutton, hrole, Dialog.addButton]

theorem told_of_silent (hsilent : ∀ signature, v.callOn? k = some signature →
    signature ∉ Toolkit.dialogCalls) (d : Dialog) : v.told k d = d := by
  cases hcall : v.callOn? k with
  | none => simp [told, labelsFor, buttonsFor, hcall]
  | some signature =>
      have hother := hsilent signature hcall
      rw [DialogText.mem_dialogCalls, not_or, not_exists] at hother
      refine Dialog.ext_parts ?_ ?_
      · intro text
        simp [candidates_told, labelsFor, hcall, hother.1 text]
      · simp [told, buttonsFor, hcall, hother.2]

theorem candidates_foldl_told (k : Nat) (text : DialogText) : ∀ (vs : List (Visit σ)) (d : Dialog),
    DialogText.candidates (vs.foldl (fun d v => v.told k d) d) text =
      (DialogText.candidates d text).insertAll (vs.flatMap (·.labelsFor text k))
  | [], _ => rfl
  | v :: vs, d => by
      rw [List.foldl_cons, candidates_foldl_told k text vs, candidates_told, List.flatMap_cons]
      exact (List.foldl_append ..).symm

theorem buttons_foldl_told (k : Nat) : ∀ (vs : List (Visit σ)) (d : Dialog),
    (vs.foldl (fun d v => v.told k d) d).buttons = d.buttons ++ vs.flatMap (·.buttonsFor k)
  | [], _ => (List.append_nil _).symm
  | v :: vs, d => by
      rw [List.foldl_cons, buttons_foldl_told k vs, List.flatMap_cons, ← List.append_assoc]
      rfl

theorem settings_noteCall (v : Visit σ) :
    (v.work.noteCall v.task v.site).settings = v.work.settings :=
  (Work.quiet_noteCall v.site).still.settings

variable [DecidableEq σ]

theorem action_of_begins (hbegins : v.begins = true) :
    v.task.query.action v.site = .ok (.allocate (v.task.query.constructedClass v.site)) := by
  unfold Query.action
  rw [(begins_iff.mp hbegins).1]
  rfl

theorem action_of_callOn? (hcall : v.callOn? k = some signature)
    (hdialog : signature ∈ Toolkit.dialogCalls) :
    v.task.query.action v.site = .ok (.call signature) := by
  obtain ⟨hidiom, -, hsignature⟩ := callOn?_eq_some_iff.mp hcall
  unfold Query.action
  rw [(Query.dispatch_eq_none_iff _ _).mpr hidiom, hsignature]
  exact congrArg Except.ok (Query.callAction_of_dialogCall hdialog)

/-! ## What a visit does to the drafts -/

theorem drafts_next_of_begins (hbegins : v.begins = true) :
    v.next.drafts = v.work.drafts ++ [({} : Dialog)] := by
  have hbuilder := (begins_iff.mp hbegins).2
  rw [← settings_noteCall] at hbuilder
  unfold next
  rw [Work.step_of_action (action_of_begins hbegins), Work.perform,
    Work.allocate_of_isDialogBuilder hbuilder, (Work.keepsShown_bindDraft _ _ _).drafts,
    (v.work.keepsShown_noteCall v.task v.site).drafts]

/-- A call on a builder, outside all idioms. -/
theorem next_of_callOn? (hcall : v.callOn? k = some signature)
    (hdialog : signature ∈ Toolkit.dialogCalls) :
    v.next = (v.work.noteCall v.task v.site).dialogCall v.task v.site signature k := by
  obtain ⟨-, hdraft, -⟩ := callOn?_eq_some_iff.mp hcall
  rw [← Work.draftOf?_noteCall v.work v.task v.site] at hdraft
  unfold next
  rw [Work.step_of_call (action_of_callOn? hcall hdialog), Work.call_eq, hdraft]

theorem drafts_next_of_text {text : DialogText} (hcall : v.callOn? k = some signature)
    (htext : signature ∈ text.calls) :
    v.next.drafts =
      v.work.drafts.modify k fun d => text.add (v.task.oracle (.arg 0) v.site).labels d := by
  rw [next_of_callOn? hcall (DialogText.mem_dialogCalls.mpr (Or.inl ⟨text, htext⟩)),
    Work.drafts_dialogCall_text htext, (v.work.keepsShown_noteCall v.task v.site).drafts]

theorem drafts_next_of_button {role : ButtonRole} (hcall : v.callOn? k = some signature)
    (hbutton : signature ∈ Toolkit.dialogButton)
    (hrole : ButtonRole.ofMethodName? (Signature.callName signature) = some role) :
    v.next.drafts = v.work.drafts.modify k (·.addButton (v.work.buttonAt v.task v.site role)) := by
  obtain ⟨attribution, hnote⟩ := v.work.noteCall_eq v.task v.site
  rw [next_of_callOn? hcall (DialogText.mem_dialogCalls.mpr (Or.inr hbutton)),
    Work.drafts_dialogCall_button hbutton hrole, hnote]
  rfl

/-- A visit that neither begins a draft nor speaks of one leaves them
alone. -/
theorem drafts_next_of_silent (hbegins : v.begins = false)
    (hsilent : ∀ k signature, v.callOn? k = some signature → signature ∉ Toolkit.dialogCalls) :
    v.next.drafts = v.work.drafts := by
  have hnoted := (v.work.keepsShown_noteCall v.task v.site).drafts
  unfold next
  rw [Work.step_eq]
  cases haction : v.task.query.action v.site with
  | error e => exact hnoted
  | ok action =>
      refine Eq.trans ?_ hnoted
      cases action with
      | showLayout => exact (Work.keepsShown_showLayout _ v.site).choose_spec.drafts
      | showWidget => exact (Work.keepsShown_showWidget _ v.site).choose_spec.drafts
      | inflateMenu => exact (Work.keepsShown_inflateMenu _ v.site).choose_spec.drafts
      | allocate className =>
          obtain ⟨hnew, rfl⟩ := Query.dispatch_of_allocate haction
          refine (Work.keepsShown_allocate_other ?_ v.site).drafts
          rw [settings_noteCall, ← Bool.not_eq_true]
          intro hbuilder
          rw [begins_iff.mpr ⟨hnew, hbuilder⟩] at hbegins
          cases hbegins
      | call signature =>
          obtain ⟨hidiom, hcall⟩ := Query.callSignature_of_call haction
          show (Work.call v.task v.site signature _).drafts = _
          rw [Work.call_eq]
          split
          · rename_i k hdraft
            rw [Work.draftOf?_noteCall] at hdraft
            have hcallOn := callOn?_eq_some_iff.mpr
              ⟨(Query.dispatch_eq_none_iff _ _).mp hidiom, hdraft, hcall⟩
            exact Work.drafts_dialogCall_other (hsilent k signature hcallOn)
          · exact (Work.keepsShown_setterCall _ v.site signature).drafts
      | _ => exact (Work.keepsShown_perform _ v.site (by trivial)).drafts

theorem length_drafts_next (v : Visit σ) :
    v.next.drafts.length = v.work.drafts.length + if v.begins then 1 else 0 := by
  rcases v.begins_or_speaks with ⟨hbegins, -⟩ | ⟨hbegins, ⟨k, signature, text, hcall, htext⟩ |
    ⟨k, signature, role, hcall, hbutton, hrole⟩ | hsilent⟩
  · rw [drafts_next_of_begins hbegins, hbegins, List.length_append]
    rfl
  · rw [drafts_next_of_text hcall htext, hbegins, List.length_modify]
    rfl
  · rw [drafts_next_of_button hcall hbutton hrole, hbegins, List.length_modify]
    rfl
  · rw [drafts_next_of_silent hbegins hsilent, hbegins]
    rfl

/-- What a visit says of a draft is what it adds to it. -/
theorem getD_drafts_next (hw : v.work.Aliased) (k : Nat) :
    v.next.drafts.getD k {} = v.told k (v.work.drafts.getD k {}) := by
  -- A change of the draft that the call is made on, which there is.
  have hmodify : ∀ {k' signature} {f : Dialog → Dialog}, v.callOn? k' = some signature →
      v.next.drafts = v.work.drafts.modify k' f → (∀ d, v.told k' d = f d) →
        v.next.drafts.getD k {} = v.told k (v.work.drafts.getD k {}) := by
    intro k' signature f hcall hnext htold
    rw [hnext]
    by_cases hk : k' = k
    · subst hk
      have hlt := hw.lt_of_draftOf? (callOn?_eq_some_iff.mp hcall).2.1
      simp [htold, List.getD_eq_getElem?_getD, hlt]
    · have hother : v.told k (v.work.drafts.getD k {}) = v.work.drafts.getD k {} :=
        told_of_silent (fun _ hcall' => absurd (callOn?_unique hcall' hcall).1 hk) _
      rw [hother]
      simp [List.getD_eq_getElem?_getD, hk]
  rcases v.begins_or_speaks with ⟨hbegins, hnone⟩ | ⟨hbegins, ⟨k', signature, text, hcall, htext⟩ |
    ⟨k', signature, role, hcall, hbutton, hrole⟩ | hsilent⟩
  · have hsame : v.told k (v.work.drafts.getD k {}) = v.work.drafts.getD k {} :=
      told_of_silent (fun signature hcall => by simp [hnone k] at hcall) _
    rw [hsame, drafts_next_of_begins hbegins]
    by_cases hlt : k < v.work.drafts.length
    · exact List.getD_append _ _ _ _ hlt
    · have hle := Nat.le_of_not_lt hlt
      rw [List.getD_append_right _ _ _ _ hle, List.getD_eq_default _ _ hle]
      simp
  · exact hmodify hcall (drafts_next_of_text hcall htext) (told_of_text hcall htext)
  · exact hmodify hcall (drafts_next_of_button hcall hbutton hrole)
      (told_of_button hcall hbutton hrole)
  · rw [drafts_next_of_silent hbegins hsilent, told_of_silent (hsilent k)]

end Visit

/-! ## The account of a run -/

namespace Work

variable {σ : Type} [DecidableEq σ] {t : Task σ}

/-- After a run there are as many drafts more as builders were constructed,
and each has what was said of it. -/
theorem drafts_run : ∀ (sites : List σ) {w : Work σ}, w.Aliased → (run t sites w).2 = none →
    (run t sites w).1.drafts.length = w.drafts.length + (visits t sites w).countP Visit.begins ∧
      ∀ k, (run t sites w).1.drafts.getD k {} =
        (visits t sites w).foldl (fun d v => v.told k d) (w.drafts.getD k {})
  | [], _, _, _ => ⟨rfl, fun _ => rfl⟩
  | s :: rest, w, hw, hrun => by
      have hlength := (⟨t, w, s⟩ : Visit σ).length_drafts_next
      have hgetD := fun k => (⟨t, w, s⟩ : Visit σ).getD_drafts_next hw k
      have hnext := Assembler.kept_aliased.of_moves
        (moves_step (t := t) w (List.mem_singleton_self s)) hw
      unfold Visit.next at hlength hgetD
      rw [run] at hrun ⊢
      rw [visits]
      cases hstep : w.step t s with
      | mk w' failure =>
          rw [hstep] at hrun hlength hgetD hnext
          cases failure with
          | some e => cases hrun
          | none =>
              obtain ⟨hlength', hgetD'⟩ := drafts_run rest hnext hrun
              refine ⟨?_, fun k => (hgetD' k).trans ?_⟩
              · rw [List.countP_cons]
                dsimp only at hlength hlength' ⊢
                omega
              · rw [List.foldl_cons, ← hgetD k]

end Work

/-! ## Methods -/

namespace Assembler

variable {σ : Type} [DecidableEq σ] {a : Assembler σ} {t : Task σ} {sites : List σ}

theorem run_of_result_ok {stats : MethodStats}
    (hdone : (a.assembleMethod t sites).result = .ok stats) :
    (Work.run t sites (a.begin t sites)).2 = none := by
  unfold assembleMethod at hdone
  cases hrun : Work.run t sites (a.begin t sites) with
  | mk w failure =>
      rw [hrun] at hdone
      cases failure with
      | none => rfl
      | some e => cases hdone

/-- What a method hands over at its end. -/
theorem dialogs_assembleMethod (hrun : (Work.run t sites (a.begin t sites)).2 = none) :
    (a.assembleMethod t sites).assembler.dialogs = a.dialogs ++
      (Work.run t sites (a.begin t sites)).1.drafts.map (fun d => (t.origin, d)) := by
  have hmoves := Work.moves_run (t := t) sites (fun _ hs => hs) (a.begin t sites)
  have hsame : (Work.run t sites (a.begin t sites)).1.dialogs = a.dialogs :=
    hmoves.untouched.dialogs
  rw [assembler_assembleMethod, hrun]
  exact congrArg (· ++ _) hsame

/-- Evidence of dialogs is conserved. A method that succeeds visits all of
its sites and leaves, for its component, one dialog for each visit that
constructs a builder outside all pairs, in the order of these visits. The
candidates for a text of a dialog are all labels that were called for it, and
its buttons those that were called for. At every visit the locals denote
drafts that there are. A construction of a builder begins an empty draft; a
call on the builder of a draft, outside all idioms, adds to this draft just
one button, with a guid that is not in use and the role of the method, or all
labels of a text; and no other visit changes a draft. -/
theorem dialog_evidence_conserved {a : Assembler σ} (ha : a.Reachable) {t : Task σ} {sites : List σ}
    {stats : MethodStats} (hdone : (a.assembleMethod t sites).result = .ok stats) :
    let vs := Work.visits t sites (a.begin t sites)
    vs.map Visit.site = sites ∧
      (∃ drafts : List Dialog,
        (a.assembleMethod t sites).assembler.dialogs =
            a.dialogs ++ drafts.map (fun d => (t.origin, d)) ∧
          drafts.length = vs.countP Visit.begins ∧
          ∀ k d, drafts[k]? = some d →
            (∀ text, DialogText.candidates d text = .ofList (vs.flatMap (·.labelsFor text k))) ∧
              d.buttons = vs.flatMap (·.buttonsFor k)) ∧
      ∀ before v after, vs = before ++ v :: after →
        v.work.Aliased ∧ v.next.Aliased ∧
          v.work.drafts.length = before.countP Visit.begins ∧
          (v.begins = true → v.next.drafts = v.work.drafts ++ [({} : Dialog)]) ∧
          (∀ k signature, v.callOn? k = some signature →
            ∃ d, v.work.drafts[k]? = some d ∧
              (signature ∈ Toolkit.dialogButton →
                ∃ role : ButtonRole, role.methodName = Signature.callName signature ∧
                  let b := v.work.buttonAt v.task v.site role
                  b.guid ∉ v.work.scene.guids ++ v.work.guidsOutside ∧
                    v.next.drafts = v.work.drafts.set k (d.addButton b)) ∧
              ∀ text : DialogText, signature ∈ text.calls →
                v.next.drafts =
                  v.work.drafts.set k (text.add (v.task.oracle (.arg 0) v.site).labels d)) ∧
          (v.begins = false →
            (∀ k signature, v.callOn? k = some signature → signature ∉ Toolkit.dialogCalls) →
            v.next.drafts = v.work.drafts) := by
  intro vs
  have hrun := run_of_result_ok hdone
  have hbegin : (a.begin t sites).Aliased := nofun
  obtain ⟨hlength, hgetD⟩ := Work.drafts_run sites hbegin hrun
  refine ⟨Work.map_site_visits hrun, ⟨_, dialogs_assembleMethod hrun, ?_, ?_⟩, ?_⟩
  · exact hlength.trans (Nat.zero_add _)
  · intro k d hd
    have htold := hgetD k
    rw [List.getD_eq_getElem?_getD, hd, Option.getD_some] at htold
    rw [htold]
    refine ⟨fun text => ?_, (Visit.buttons_foldl_told k vs {}).trans (List.nil_append _)⟩
    rw [Visit.candidates_foldl_told]
    cases text <;> rfl
  · intro before v after hsplit
    have hv : v ∈ vs := by
      rw [hsplit]
      exact List.mem_append_right _ List.mem_cons_self
    have haliased : v.work.Aliased := kept_aliased.of_mem_visits trivial hv
    have hidentified : Identified v.work.scene v.work.guidsOutside :=
      kept_identified.of_mem_visits ha.identified hv
    obtain ⟨-, hbefore, hreached, -⟩ := Work.visits_split hsplit
    have hcount := (Work.drafts_run (before.map Visit.site) hbegin (congrArg Prod.snd hreached)).1
    rw [hbefore, hreached] at hcount
    refine ⟨haliased, kept_aliased.of_moves v.moves haliased, hcount.trans (Nat.zero_add _),
      Visit.drafts_next_of_begins, ?_, Visit.drafts_next_of_silent⟩
    intro k signature hcall
    have hlt := haliased.lt_of_draftOf? (Visit.callOn?_eq_some_iff.mp hcall).2.1
    have hd := List.getElem?_eq_getElem hlt
    refine ⟨_, hd, ?_, ?_⟩
    · intro hbutton
      obtain ⟨role, hrole, hname⟩ := ButtonRole.ofMethodName?_of_mem hbutton
      refine ⟨role, hname, hidentified.not_mem_of_mem_batch (n := 1) List.mem_cons_self, ?_⟩
      rw [Visit.drafts_next_of_button hcall hbutton hrole, modify_eq_set_of_getElem? hd]
    · intro text htext
      rw [Visit.drafts_next_of_text hcall htext, modify_eq_set_of_getElem? hd]

end Assembler

/-- Two dialogs are begun. The local of the second is then assigned what a
call on the first returns, so that the button is for the first. -/
def Program.twoDialogs : Program where
  methods :=
    [{ signature := "void onBackPressed()"
       instructions :=
        [⟨some "first", .new "android.app.AlertDialog$Builder"⟩,
          ⟨some "second", .new "android.app.AlertDialog$Builder"⟩,
          ⟨some "second", .call ⟨"android.app.AlertDialog$Builder setTitle(int)", some "first",
            [.int 1]⟩⟩,
          ⟨none, .call
            ⟨"android.app.AlertDialog$Builder " ++
              "setNeutralButton(int,android.content.DialogInterface$OnClickListener)",
              some "second", [.int 1, .null]⟩⟩] }]

def Task.twoDialogs : Task Site where
  query := Program.twoDialogs.query
  oracle _ _ := .known (.ofList [.str "Leave"])
  origin := .activity "Main" ""

theorem Assembler.dialog_evidence_conserved_twoDialogs :
    let start : Assembler Site := { settings := {}, nextDynamicId := -90000 }
    let sites := Program.twoDialogs.sites 0
    let done := start.assembleMethod .twoDialogs sites
    start.Reachable ∧ done.result = .ok ⟨"void onBackPressed()", 4, 0, 0, 0⟩ ∧
      ∃ first second : Dialog,
        done.assembler.dialogs = [first, second].map (fun d => (Origin.activity "Main" "", d)) ∧
          first.titles = .ofList ["Leave"] ∧ first.buttons.map Button.role = [.neutral] ∧
          second.titles = ∅ ∧ second.buttons = [] := by
  intro start sites
  have hstart : start.Reachable := ⟨{}, start, rfl, [], rfl⟩
  have hdone : (start.assembleMethod .twoDialogs sites).result =
      .ok ⟨"void onBackPressed()", 4, 0, 0, 0⟩ := by decide +kernel
  obtain ⟨-, ⟨drafts, hdialogs, hlength, htold⟩, -⟩ := dialog_evidence_conserved hstart hdone
  have haccount :
      let vs := Work.visits .twoDialogs sites (start.begin .twoDialogs sites)
      vs.countP Visit.begins = 2 ∧ vs.flatMap (·.labelsFor .title 0) = ["Leave"] ∧
        (vs.flatMap (·.buttonsFor 0)).map Button.role = [.neutral] ∧
        vs.flatMap (·.labelsFor .title 1) = [] ∧ vs.flatMap (·.buttonsFor 1) = [] := by
    decide +kernel
  obtain ⟨hcount, htitle, hrole, htitle', hbuttons'⟩ := haccount
  obtain ⟨first, second, rfl⟩ := List.length_eq_two.mp (hlength.trans hcount)
  have hfirst := htold 0 first rfl
  have hsecond := htold 1 second rfl
  refine ⟨hstart, hdone, first, second, hdialogs, (hfirst.1 .title).trans (congrArg _ htitle), ?_,
    (hsecond.1 .title).trans (congrArg _ htitle'), hsecond.2.trans hbuttons'⟩
  rw [hfirst.2, hrole]

end UiRecovery
