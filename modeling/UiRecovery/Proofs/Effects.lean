import UiRecovery.Assembly.Run
import UiRecovery.Proofs.Decisions
import UiRecovery.Proofs.Loops

/-!
# What the operations come to

An operation of the assembly is given an `Access`, and much that is said of
it does not depend on which. So every operation has a name here for what it
comes to with the plainest of them, and an equation that says what that is
in terms of the operations it calls.

That the assembly, which can fail, comes to the same is shown once all of
them are known to be made up of moves (`Accesses`).
-/

namespace UiRecovery

/-- Behind a handle that was never issued there is a blank widget, and
errors are passed over. -/
def Access.plain {σ : Type} : Access σ Id where
  look := Look.blank
  fail _ w := w

namespace Scene

/-- An attachment is done, or it is of no effect: because the parent is a
leaf, or because the child is the parent itself. -/
theorem addChild_cases (s : Scene) (parent child : Nat) :
    s.addChild parent child = (.ok false, s) ∨
      (∃ e, s.get? parent = some e ∧ parent = child ∧
        s.addChild parent child = (.error (.selfCycle e.guid e.id), s)) ∨
      (parent ≠ child ∧
        s.addChild parent child = (.ok true, s.modify parent (·.appendChildren [child]))) := by
  unfold addChild
  cases s.get? parent with
  | none => exact Or.inl rfl
  | some e =>
      dsimp only
      split
      · exact Or.inl rfl
      · split
        · exact Or.inr (Or.inl ⟨e, rfl, ‹_›, rfl⟩)
        · exact Or.inr (Or.inr ⟨‹_›, rfl⟩)

end Scene

namespace Work

variable {σ : Type}

/-! ## Widgets -/

def modifyWidget (w : Work σ) (h : Nat) (f : Widget → Widget) : Work σ :=
  w.modifyWidgetM .plain h f

theorem modifyWidget_eq (w : Work σ) (h : Nat) (f : Widget → Widget) :
    w.modifyWidget h f = { w with scene := w.scene.modify h f } := rfl

def modifyWidgets (w : Work σ) (hs : List Nat) (f : Widget → Widget) : Work σ :=
  w.modifyWidgetsM .plain hs f

theorem modifyWidgets_eq (w : Work σ) (hs : List Nat) (f : Widget → Widget) :
    w.modifyWidgets hs f = hs.foldl (fun w h => w.modifyWidget h f) w :=
  foldlM_id (fun (w : Work σ) h => w.modifyWidget h f) hs w

def nameAfter (w : Work σ) (h : Nat) (name : Option String) : Work σ :=
  w.nameAfterM .plain h name

def tag (w : Work σ) (o : Origin) (h : Nat) : Work σ := w.tagM .plain o h

def tagTree (w : Work σ) (o : Origin) (h : Nat) : Work σ := w.tagTreeM .plain o h

theorem tagTree_eq (w : Work σ) (o : Origin) (h : Nat) :
    w.tagTree o h = (w.scene.depthFirst h).foldl (fun w x => w.tag o x) w :=
  foldlM_id (fun (w : Work σ) x => w.tag o x) (w.scene.depthFirst h) w

def attach (w : Work σ) (parent child : Nat) : Work σ := w.attachM .plain parent child

/-- The only error that there can be is passed over, and leaves the scene
as it was. -/
theorem attach_eq (w : Work σ) (parent child : Nat) :
    w.attach parent child =
      if (w.scene.children parent).contains child then w
      else
        match w.scene.addChild parent child with
        | (.ok _, scene) => { w with scene }
        | (.error e, _) =>
          { w.note (.warn ("Skipping attachment: " ++ e.message)) with
            selfCycles := w.selfCycles + 1 } := by
  rcases w.scene.addChild_cases parent child with hadd | ⟨e, -, -, hadd⟩ | ⟨-, hadd⟩
  all_goals
    unfold attach attachM
    rw [hadd]
    rfl

/-- An attachment does not fail: a widget that was to become its own child
is passed over, and there is no other error. -/
theorem attachM_eq {m : Type → Type} [Monad m] [LawfulMonad m] {acc : Access σ m} {w : Work σ}
    {parent : Nat} (hlook : acc.look w.scene.widgets parent = pure (w.scene.widget parent))
    (child : Nat) : w.attachM acc parent child = pure (w.attach parent child) := by
  unfold attachM Access.widget
  rw [hlook, pure_bind, attach_eq]
  unfold Scene.children
  split
  · rfl
  · rcases w.scene.addChild_cases parent child with hadd | ⟨e, -, -, hadd⟩ | ⟨-, hadd⟩
    · rw [hadd]
    · rw [hadd]
      rfl
    · rw [hadd]

def attachAll (w : Work σ) (parents children : List Nat) : Work σ :=
  w.attachAllM .plain parents children

theorem attachAll_eq (w : Work σ) (parents children : List Nat) :
    w.attachAll parents children =
      parents.foldl (fun w p => children.foldl (fun w c => w.attach p c) w) w := by
  have hinner : ∀ (p : Nat) (w : Work σ),
      List.foldlM (m := Id) (fun w c => w.attachM .plain p c) w children =
        children.foldl (fun w c => w.attach p c) w :=
    fun p w => foldlM_id (fun w c => w.attach p c) children w
  unfold attachAll attachAllM
  simp only [hinner]
  exact foldlM_id _ parents w

/-! ## Several at once -/

section

variable {α : Type}

/-- What no turn changes is not changed by a loop. -/
theorem foldl_keeps {β : Type} {f : Work σ → β} {step : Work σ → α → Work σ}
    (hstep : ∀ w a, f (step w a) = f w) (as : List α) (w : Work σ) :
    f (as.foldl step w) = f w := by
  have : IsPreorder (Work σ) fun w w' => f w' = f w :=
    { refl := fun _ => rfl, trans := fun _ _ _ h h' => h'.trans h }
  exact foldl_related (R := fun w w' => f w' = f w) (fun a _ w => hstep w a) w

def collect (step : Work σ → α → Nat × Work σ) (as : List α) (w : Work σ) : List Nat × Work σ :=
  collectM (m := Id) step as w

def collectAll (step : Work σ → α → List Nat × Work σ) (as : List α) (w : Work σ) :
    List Nat × Work σ :=
  collectAllM (m := Id) step as w

theorem collect_nil (step : Work σ → α → Nat × Work σ) (w : Work σ) :
    collect step [] w = ([], w) := rfl

theorem collect_cons (step : Work σ → α → Nat × Work σ) (a : α) (as : List α) (w : Work σ) :
    collect step (a :: as) w =
      let (h, w) := step w a
      let (hs, w) := collect step as w
      (h :: hs, w) := rfl

theorem collectAll_nil (step : Work σ → α → List Nat × Work σ) (w : Work σ) :
    collectAll step [] w = ([], w) := rfl

theorem collectAll_cons (step : Work σ → α → List Nat × Work σ) (a : α) (as : List α)
    (w : Work σ) :
    collectAll step (a :: as) w =
      let (hs, w) := step w a
      let (hs', w) := collectAll step as w
      (hs ++ hs', w) := rfl

variable {R : Work σ → Work σ → Prop} [IsPreorder (Work σ) R]

theorem collect_related {step : Work σ → α → Nat × Work σ} (hstep : ∀ w a, R w (step w a).2) :
    ∀ (as : List α) (w : Work σ), R w (collect step as w).2
  | [], w => refl_of R w
  | a :: as, w => trans_of R (hstep w a) (collect_related hstep as (step w a).2)

theorem collectAll_related {step : Work σ → α → List Nat × Work σ}
    (hstep : ∀ w a, R w (step w a).2) :
    ∀ (as : List α) (w : Work σ), R w (collectAll step as w).2
  | [], w => refl_of R w
  | a :: as, w => trans_of R (hstep w a) (collectAll_related hstep as (step w a).2)

end

def copyRoot (w : Work σ) (h : Nat) : Nat × Work σ := w.copyRootM .plain h

def materialize (o : Origin) (w : Work σ) (layoutId : Int64) : List Nat × Work σ :=
  w.materializeM .plain o layoutId

theorem materialize_eq (o : Origin) (w : Work σ) (layoutId : Int64) :
    w.materialize o layoutId =
      match (word32? layoutId).bind w.layouts.get? with
      | none =>
        ([], w.note (.debug ("No layout registered for id " ++ toString layoutId.toInt)))
      | some layout =>
        let (copies, w) := collect copyRoot layout.roots w
        (copies, copies.foldl (fun w c => w.tagTree o c) w) := by
  unfold materialize materializeM
  cases (word32? layoutId).bind w.layouts.get? with
  | none => rfl
  | some layout =>
      let made := collect copyRoot layout.roots w
      exact congrArg (Prod.mk made.1) (foldlM_id (fun w c => w.tagTree o c) made.1 made.2)

/-! ## Sites -/

variable [DecidableEq σ]

def lookupOne (t : Task σ) (s : σ) (className : String) (containers : List Nat) (w : Work σ)
    (id : Int32) : Nat × Work σ :=
  w.lookupOneM .plain t s className containers id

theorem lookupOne_eq (t : Task σ) (s : σ) (className : String) (containers : List Nat)
    (w : Work σ) (id : Int32) :
    lookupOne t s className containers w id =
      let (h, w) :=
        match containers.findSome? fun c => w.scene.find? c id with
        | some h => (h, w)
        | none =>
          w.mergedOr (.lookup s id) fun w => w.createWidget id className (w.kindOf className)
      (h, (w.nameAfter h (t.query.definedLocal s)).tag t.origin h) := by
  rw [← findSomeM?_id fun c => w.scene.find? c id]
  rfl

def lookup (t : Task σ) (s call : σ) (className : String) (w : Work σ) : Work σ :=
  w.lookupM .plain t s call className

theorem lookup_eq (t : Task σ) (s call : σ) (className : String) (w : Work σ) :
    w.lookup t s call className =
      let (ints, w) := w.askInts t (.arg 0) call
      let containers := w.bound (t.query.receiver call)
      let (hs, w) := collect (lookupOne t s className containers) (lookupIds ints) w
      (w.bindLocal (t.query.definedLocal call) hs).bindLocal (t.query.definedLocal s) hs := rfl

def childAt (t : Task σ) (s call : σ) (w : Work σ) : Work σ := w.childAtM .plain t s call

omit [DecidableEq σ] in
theorem childAt_eq (t : Task σ) (s call : σ) (w : Work σ) :
    w.childAt t s call =
      let hs := (w.bound (t.query.receiver call)).flatMap w.scene.children
      (w.bindLocal (t.query.definedLocal call) hs).bindLocal (t.query.definedLocal s) hs := by
  rw [List.flatMap_def, ← mapM_id]
  rfl

def allocate (t : Task σ) (s : σ) (className : String) (w : Work σ) : Work σ :=
  w.allocateM .plain t s className

theorem allocate_eq (t : Task σ) (s : σ) (className : String) (w : Work σ) :
    w.allocate t s className =
      let name := t.query.definedLocal s
      if w.settings.isDialogBuilder className then
        ({ w with drafts := w.drafts ++ [({} : Dialog)] }).bindDraft name w.drafts.length
      else if w.settings.isWidgetClass className then
        let (h, w) :=
          w.mergedOr (.allocation s) fun w => w.createDynamic className (w.kindOf className)
        ((w.nameAfter h name).tag t.origin h).bindLocal name [h]
      else w.unbindLocal name := rfl

def listView (t : Task σ) (s : σ) (w : Work σ) : Work σ := w.listViewM .plain t s

theorem listView_eq (t : Task σ) (s : σ) (w : Work σ) :
    w.listView t s =
      let (h, w) :=
        w.mergedOr (.allocation s) fun w => w.createDynamic Toolkit.listClass (.group [])
      (w.tag t.origin h).bindLocal (t.query.definedLocal s) [h] := rfl

def adapterRow (t : Task σ) (s : σ) (signature : String) (w : Work σ) : Work σ :=
  w.adapterRowM .plain t s signature

theorem adapterRow_eq (t : Task σ) (s : σ) (signature : String) (w : Work σ) :
    w.adapterRow t s signature =
      let (h, w) := w.mergedOr (.allocation s) fun w => w.createDynamic Toolkit.viewClass .view
      let w := w.tag t.origin h
      let parents := w.containerArg t s (Signature.callParams signature)
      (w.attachAll parents [h]).bindLocal (t.query.definedLocal s) [h] := rfl

def inflate (t : Task σ) (s : σ) (signature : String) (w : Work σ) : Work σ :=
  w.inflateM .plain t s signature

omit [DecidableEq σ] in
theorem inflate_eq (t : Task σ) (s : σ) (signature : String) (w : Work σ) :
    w.inflate t s signature =
      let params := Signature.callParams signature
      match params.idxOf? Toolkit.intParam with
      | none => w
      | some i =>
        let parents := w.containerArg t s params
        let (ids, w) := w.askInts t (.arg i) s
        let (hs, w) := collectAll (materialize t.origin) ids w
        let w := if attaches t s params then w.attachAll parents hs else w
        w.bindLocal (t.query.definedLocal s) hs := by
  unfold inflate inflateM
  dsimp only
  cases (Signature.callParams signature).idxOf? Toolkit.intParam with
  | none => rfl
  | some i => cases attaches t s (Signature.callParams signature) <;> rfl

def showLayout (t : Task σ) (s : σ) (w : Work σ) : Work σ := w.showLayoutM .plain t s

omit [DecidableEq σ] in
theorem showLayout_eq (t : Task σ) (s : σ) (w : Work σ) :
    w.showLayout t s =
      let (ids, w) := w.askInts t (.arg 0) s
      let (hs, w) := collectAll (materialize t.origin) ids w
      (w.addRoots t.origin hs).bindLocal (t.query.receiver s) hs := rfl

def addView (t : Task σ) (s : σ) (w : Work σ) : Work σ := w.addViewM .plain t s

omit [DecidableEq σ] in
theorem addView_eq (t : Task σ) (s : σ) (w : Work σ) :
    w.addView t s =
      w.attachAll (w.bound (t.query.receiver s)) (w.bound (t.query.argLocal s 0)) := rfl

def showWidget (t : Task σ) (s : σ) (w : Work σ) : Work σ := w.showWidgetM .plain t s

omit [DecidableEq σ] in
theorem showWidget_eq (t : Task σ) (s : σ) (w : Work σ) :
    w.showWidget t s =
      let hs := w.bound (t.query.argLocal s 0)
      let w := hs.foldl (fun w h => w.tagTree t.origin h) w
      (w.addRoots t.origin hs).bindLocal (t.query.receiver s) hs := by
  dsimp only
  rw [← foldlM_id]
  rfl

def slotContainers (t : Task σ) (w : Work σ) (ids : List Int64) : List Nat :=
  w.slotContainersM .plain t ids

omit [DecidableEq σ] in
theorem slotContainers_eq (t : Task σ) (w : Work σ) (ids : List Int64) :
    w.slotContainers t ids =
      (ids.filterMap word32?).flatMap fun id =>
        (w.screens t.origin).toList.filterMap fun h => w.scene.find? h id := by
  have hinner : ∀ id : Int32,
      List.mapM (m := Id) (fun h => w.scene.findM (.plain : Access σ Id).look h id)
        (w.screens t.origin).toList = (w.screens t.origin).toList.map fun h => w.scene.find? h id :=
    fun id => mapM_id (fun h => w.scene.find? h id) _
  unfold slotContainers slotContainersM
  simp only [hinner]
  rw [mapM_id]
  simp only [bind, pure, List.flatMap_map, List.filterMap_map, Function.comp_def]

def addFragment (t : Task σ) (tag : String) (containers : List Nat) (w : Work σ)
    (className : String) : Work σ :=
  w.addFragmentM .plain t tag containers className

omit [DecidableEq σ] in
theorem addFragment_eq (t : Task σ) (tag : String) (containers : List Nat) (w : Work σ)
    (className : String) :
    addFragment t tag containers w className =
      let (h, w) := w.createWidget Widget.missingId className (.fragment [] .transaction tag)
      (w.tag t.origin h).attachAll containers [h] := rfl

def fragment (t : Task σ) (s : σ) (signature : String) (w : Work σ) : Work σ :=
  w.fragmentM .plain t s signature

omit [DecidableEq σ] in
theorem fragment_eq (t : Task σ) (s : σ) (signature : String) (w : Work σ) :
    w.fragment t s signature =
      let params := Signature.callParams signature
      match params.findIdx? fun p => p ≠ Toolkit.intParam ∧ p ≠ Toolkit.stringParam with
      | none => w
      | some i =>
        let (labels, w) := w.askLabels t (.arg i) s
        let classes := if labels.isEmpty then [params.getD i ""] else labels
        let (tags, w) := w.askLabelsAt t (params.idxOf? Toolkit.stringParam) s
        let slot := if params.head? = some Toolkit.intParam then some 0 else none
        let (ids, w) := w.askIntsAt t slot s
        classes.foldl (addFragment t (tags.headD "") (w.slotContainers t ids)) w := by
  simp only [← foldlM_id]
  rfl

def setterTargets (t : Task σ) (s : σ) (w : Work σ) : List Nat := w.setterTargetsM .plain t s

omit [DecidableEq σ] in
theorem setterTargets_eq (t : Task σ) (s : σ) (w : Work σ) :
    w.setterTargets t s =
      (w.bound (t.query.receiver s)).filter fun h =>
        !w.settings.isIgnored (w.scene.widget h).className := by
  have hread : List.mapM (m := Id) (fun h => return (h, ← Access.plain.widget w h))
      (w.bound (t.query.receiver s)) =
        (w.bound (t.query.receiver s)).map fun h => (h, w.scene.widget h) :=
    mapM_id (fun h => (h, w.scene.widget h)) _
  unfold setterTargets setterTargetsM
  rw [hread]
  simp only [bind, pure, List.filter_map, List.map_map, Function.comp_def, List.map_id']

def setterCall (t : Task σ) (s : σ) (signature : String) (w : Work σ) : Work σ :=
  w.setterCallM .plain t s signature

omit [DecidableEq σ] in
theorem setterCall_eq (t : Task σ) (s : σ) (signature : String) (w : Work σ) :
    w.setterCall t s signature =
      let targets := w.setterTargets t s
      if targets.isEmpty then w
      else
        match Setter.ofSignature? signature with
        | none => w
        | some (.text attr) =>
          let (values, w) := w.askLabels t (.arg 0) s
          w.modifyWidgets targets fun e =>
            values.foldl (fun e v => e.addText (Attr.dynamic attr v)) e
        | some .listener =>
          let (values, w) := w.askLabels t (.arg 0) s
          w.modifyWidgets targets fun e => values.foldl Widget.addListener e
        | some .inputType =>
          let (ints, w) := w.askInts t (.arg 0) s
          w.modifyWidgets targets fun e => (ints.filterMap word32?).foldl Widget.addMask e
        | some .image =>
          let (values, w) := w.askLabels t (.arg 0) s
          w.modifyWidgets targets fun e => values.foldl Widget.addImage e := by
  cases hsetter : Setter.ofSignature? signature with
  | none =>
      unfold setterCall setterCallM
      rw [hsetter]
      rfl
  | some setter =>
      unfold setterCall setterCallM
      rw [hsetter]
      cases setter <;> rfl

def call (t : Task σ) (s : σ) (signature : String) (w : Work σ) : Work σ :=
  w.callM .plain t s signature

omit [DecidableEq σ] in
theorem call_eq (t : Task σ) (s : σ) (signature : String) (w : Work σ) :
    w.call t s signature =
      match w.draftOf? (t.query.receiver s) with
      | some draft => w.dialogCall t s signature draft
      | none => w.setterCall t s signature := by
  unfold call callM
  cases w.draftOf? (t.query.receiver s) <;> rfl

/-! ## All sites -/

/-- What an action does. -/
def perform (t : Task σ) (s : σ) (w : Work σ) : Action σ → Work σ
  | .await => w
  | .lookup c className => w.lookup t s c className
  | .childAt c => w.childAt t s c
  | .clear => w.unbindLocal (t.query.definedLocal s)
  | .allocate className => w.allocate t s className
  | .inflate signature => w.inflate t s signature
  | .addView => w.addView t s
  | .adapterRow signature => w.adapterRow t s signature
  | .listView => w.listView t s
  | .showLayout => w.showLayout t s
  | .showWidget => w.showWidget t s
  | .inflateMenu => w.inflateMenu t s
  | .fragment signature => w.fragment t s signature
  | .call signature => w.call t s signature
  | .nothing => w

end Work

end UiRecovery
