import UiRecovery.Assembly.Dispatch
import UiRecovery.Assembly.Work

/-!
# Work at a site

What is done to the state of a method at each kind of site. What cannot be done is left out, and at
most noted. Only a pair of instructions that do not fit together is an error, and what happens then
is up to the `Access`.
-/

namespace UiRecovery

/-- A call that sets something of a widget. -/
inductive Setter where
  | text (attr : String)
  | listener
  | inputType
  | image
deriving DecidableEq, Repr

/-- The attribute that is set by the text setter of the given name. -/
def Setter.textAttr (setter : String) : String :=
  let name := setter.toList
  let name := ("set".toList.isPrefixOf? name).getD name
  let name := ("KeepState".toList.isSuffixOf? name).getD name
  match name with
  | [] => setter
  | c :: cs => String.ofList (c.toLower :: cs)

def Setter.ofSignature? (signature : String) : Option Setter :=
  if Toolkit.textSetters.contains signature then
    some (.text (textAttr (Signature.callName signature)))
  else if Toolkit.listenerSetters.contains signature then some .listener
  else if Toolkit.inputTypeSetters.contains signature then some .inputType
  else if Toolkit.imageSetters.contains signature then some .image
  else none

namespace Work

variable {σ : Type} [DecidableEq σ] {m : Type → Type} [Monad m] (acc : Access σ m)

/-! ## Widgets from code -/

/-- The widget that is meant by one id of a lookup: the one that a container holds under this id,
else the one that the place stands for. -/
def lookupOneM (t : Task σ) (s : σ) (className : String) (containers : List Nat) (w : Work σ)
    (id : Int32) : m (Nat × Work σ) := do
  let found ← containers.findSomeM? fun c => w.scene.findM acc.look c id
  let (h, w) := match found with
    | some h => (h, w)
    | none => w.mergedOr (.lookup s id) fun w => w.createWidget id className (w.kindOf className)
  let w ← w.nameAfterM acc h (t.query.definedLocal s)
  return (h, ← w.tagM acc t.origin h)

/-- The ids of a lookup. A lookup of which no id is known looks for a widget without one. -/
def lookupIds (ints : List Int64) : List Int32 :=
  match ints.filterMap word32? with
  | [] => [Widget.missingId]
  | ids => ids

/-- Look up the widgets whose ids are passed to `call`, and take those that are met for the first
time for widgets of the given class. -/
def lookupM (t : Task σ) (s call : σ) (className : String) (w : Work σ) : m (Work σ) := do
  let (ints, w) := w.askInts t (.arg 0) call
  let containers := w.bound (t.query.receiver call)
  let (hs, w) ← collectM (lookupOneM acc t s className containers) (lookupIds ints) w
  return (w.bindLocal (t.query.definedLocal call) hs).bindLocal (t.query.definedLocal s) hs

/-- The construction of a lookup pair. It may not have the lookup that it needs. -/
def lookupPairM (t : Task σ) (s : σ) (w : Work σ) : m (Work σ) :=
  acc.demand (t.query.viewLookupOf s) w fun call =>
    w.lookupM acc t s call (t.query.constructedClass s)

/-- Any child of the receiver may be the one that is taken. -/
def childAtM (t : Task σ) (s call : σ) (w : Work σ) : m (Work σ) := do
  let families ← (w.bound (t.query.receiver call)).mapM fun h => w.scene.childrenM acc.look h
  let hs := families.flatten
  return (w.bindLocal (t.query.definedLocal call) hs).bindLocal (t.query.definedLocal s) hs

def allocateM (t : Task σ) (s : σ) (className : String) (w : Work σ) : m (Work σ) :=
  let name := t.query.definedLocal s
  if w.settings.isDialogBuilder className then
    return ({ w with drafts := w.drafts ++ [({} : Dialog)] }).bindDraft name w.drafts.length
  else if w.settings.isWidgetClass className then do
    let (h, w) := w.mergedOr (.allocation s) fun w => w.createDynamic className (w.kindOf className)
    let w ← w.nameAfterM acc h name
    return (← w.tagM acc t.origin h).bindLocal name [h]
  else return w.unbindLocal name

def listViewM (t : Task σ) (s : σ) (w : Work σ) : m (Work σ) := do
  let (h, w) := w.mergedOr (.allocation s) fun w => w.createDynamic Toolkit.listClass (.group [])
  return (← w.tagM acc t.origin h).bindLocal (t.query.definedLocal s) [h]

/-- The widgets that are passed for the first parameter that is a container. -/
def containerArg (t : Task σ) (s : σ) (params : List String) (w : Work σ) : List Nat :=
  match params.idxOf? Toolkit.containerParam with
  | some i => w.bound (t.query.argLocal s i)
  | none => []

def adapterRowM (t : Task σ) (s : σ) (signature : String) (w : Work σ) : m (Work σ) := do
  let (h, w) := w.mergedOr (.allocation s) fun w => w.createDynamic Toolkit.viewClass .view
  let w ← w.tagM acc t.origin h
  let parents := w.containerArg t s (Signature.callParams signature)
  return (← w.attachAllM acc parents [h]).bindLocal (t.query.definedLocal s) [h]

/-! ## Widgets from layouts -/

/-- Whether an inflation attaches what it makes. It does unless its flag is known to be false
only. -/
def attaches (t : Task σ) (s : σ) (params : List String) : Bool :=
  match params.idxOf? Toolkit.booleanParam with
  | none => true
  | some i =>
    match t.oracle (.arg i) s with
    | .known values => values.toList.any fun v => v.int? ≠ some 0
    | .unknown => true

def inflateM (t : Task σ) (s : σ) (signature : String) (w : Work σ) : m (Work σ) :=
  let params := Signature.callParams signature
  match params.idxOf? Toolkit.intParam with
  | none => return w
  | some i => do
    let parents := w.containerArg t s params
    let (ids, w) := w.askInts t (.arg i) s
    let (hs, w) ← collectAllM (materializeM acc t.origin) ids w
    let w ← if attaches t s params then w.attachAllM acc parents hs else pure w
    return w.bindLocal (t.query.definedLocal s) hs

def showLayoutM (t : Task σ) (s : σ) (w : Work σ) : m (Work σ) := do
  let (ids, w) := w.askInts t (.arg 0) s
  let (hs, w) ← collectAllM (materializeM acc t.origin) ids w
  return (w.addRoots t.origin hs).bindLocal (t.query.receiver s) hs

def addViewM (t : Task σ) (s : σ) (w : Work σ) : m (Work σ) :=
  w.attachAllM acc (w.bound (t.query.receiver s)) (w.bound (t.query.argLocal s 0))

def showWidgetM (t : Task σ) (s : σ) (w : Work σ) : m (Work σ) := do
  let hs := w.bound (t.query.argLocal s 0)
  let w ← hs.foldlM (fun w h => w.tagTreeM acc t.origin h) w
  return (w.addRoots t.origin hs).bindLocal (t.query.receiver s) hs

/-! ## Menus -/

/-- Show a copy of a menu as one of the given type. -/
def showMenu (t : Task σ) (type : MenuType) (w : Work σ) (id : Int64) : Work σ :=
  match (word32? id).bind w.menuTemplates.get? with
  | none => w.note (.debug ("No menu registered for id " ++ toString id.toInt))
  | some template =>
    let (menu, mint) := template.copy w.scene.mint
    { w with
      scene := { w.scene with mint }
      menus := w.menus ++ [(t.origin, { menu with type, listener := type.listener? })] }

def inflateMenu (t : Task σ) (s : σ) (w : Work σ) : Work σ :=
  let (ids, w) := w.askInts t (.arg 0) s
  ids.foldl (showMenu t (MenuType.ofCallback (t.query.methodOf s))) w

/-! ## Fragments -/

/-- The containers with one of the given ids in the screens of the task's origin. -/
def slotContainersM (t : Task σ) (w : Work σ) (ids : List Int64) : m (List Nat) := do
  let found ← (ids.filterMap word32?).mapM fun id =>
    (w.screens t.origin).toList.mapM fun h => w.scene.findM acc.look h id
  return found.flatMap fun hs => hs.filterMap fun h => h

def addFragmentM (t : Task σ) (tag : String) (containers : List Nat) (w : Work σ)
    (className : String) : m (Work σ) := do
  let (h, w) := w.createWidget Widget.missingId className (.fragment [] .transaction tag)
  (← w.tagM acc t.origin h).attachAllM acc containers [h]

def fragmentM (t : Task σ) (s : σ) (signature : String) (w : Work σ) : m (Work σ) :=
  let params := Signature.callParams signature
  match params.findIdx? fun p => p ≠ Toolkit.intParam ∧ p ≠ Toolkit.stringParam with
  | none => return w
  | some i => do
    let (labels, w) := w.askLabels t (.arg i) s
    let classes := if labels.isEmpty then [params.getD i ""] else labels
    let (tags, w) := w.askLabelsAt t (params.idxOf? Toolkit.stringParam) s
    let slot := if params.head? = some Toolkit.intParam then some 0 else none
    let (ids, w) := w.askIntsAt t slot s
    let containers ← w.slotContainersM acc t ids
    classes.foldlM (addFragmentM acc t (tags.headD "") containers) w

/-! ## Dialogs and setters -/

/-- A call on the builder of a draft, which returns the builder. -/
def dialogCall (t : Task σ) (s : σ) (signature : String) (draft : Nat) (w : Work σ) : Work σ :=
  let w :=
    if Toolkit.dialogTitle.contains signature then
      let (labels, w) := w.askLabels t (.arg 0) s
      w.modifyDraft draft fun d => { d with titles := d.titles.insertAll labels }
    else if Toolkit.dialogMessage.contains signature then
      let (labels, w) := w.askLabels t (.arg 0) s
      w.modifyDraft draft fun d => { d with messages := d.messages.insertAll labels }
    else if Toolkit.dialogIcon.contains signature then
      let (labels, w) := w.askLabels t (.arg 0) s
      w.modifyDraft draft fun d => { d with icons := d.icons.insertAll labels }
    else if Toolkit.dialogButton.contains signature then
      match ButtonRole.ofMethodName? (Signature.callName signature) with
      | none => w
      | some role =>
        let (labels, w) := w.askLabels t (.arg 0) s
        let (listeners, w) := w.askLabels t (.arg 1) s
        let button : Button := ⟨w.scene.mint.next, .ofList labels, role, .ofList listeners⟩
        ({ w with scene := w.scene.advanceMint 1 }).modifyDraft draft fun d =>
          { d with buttons := d.buttons ++ [button] }
    else w
  w.bindDraft (t.query.definedLocal s) draft

/-- The widgets that a setter changes. -/
def setterTargetsM (t : Task σ) (s : σ) (w : Work σ) : m (List Nat) := do
  let found ← (w.bound (t.query.receiver s)).mapM fun h => return (h, ← acc.widget w h)
  return (found.filter fun x => !w.settings.isIgnored x.2.className).map Prod.fst

/-- A setter is evaluated only if there is a widget for it to change. -/
def setterCallM (t : Task σ) (s : σ) (signature : String) (w : Work σ) : m (Work σ) := do
  let targets ← w.setterTargetsM acc t s
  if targets.isEmpty then return w
  else
    match Setter.ofSignature? signature with
    | none => return w
    | some (.text attr) =>
      let (values, w) := w.askLabels t (.arg 0) s
      w.modifyWidgetsM acc targets fun e =>
        values.foldl (fun e v => e.addText (Attr.dynamic attr v)) e
    | some .listener =>
      let (values, w) := w.askLabels t (.arg 0) s
      w.modifyWidgetsM acc targets fun e => values.foldl Widget.addListener e
    | some .inputType =>
      let (ints, w) := w.askInts t (.arg 0) s
      w.modifyWidgetsM acc targets fun e => (ints.filterMap word32?).foldl Widget.addMask e
    | some .image =>
      let (values, w) := w.askLabels t (.arg 0) s
      w.modifyWidgetsM acc targets fun e => values.foldl Widget.addImage e

/-- A call on a local that denotes a draft concerns the draft, any other the widgets that the local
denotes. -/
def callM (t : Task σ) (s : σ) (signature : String) (w : Work σ) : m (Work σ) :=
  match w.draftOf? (t.query.receiver s) with
  | some draft => return w.dialogCall t s signature draft
  | none => w.setterCallM acc t s signature

/-! ## All sites -/

/-- A call outside all idioms. -/
def otherCallM (t : Task σ) (s : σ) (signature : String) (w : Work σ) : m (Work σ) :=
  if signature = Toolkit.showLayout then w.showLayoutM acc t s
  else if Toolkit.showWidget.contains signature then w.showWidgetM acc t s
  else if signature = Toolkit.inflateMenu then return w.inflateMenu t s
  else if Toolkit.fragmentTransaction.contains signature then w.fragmentM acc t s signature
  else w.callM acc t s signature

/-- Follow the idiom of a site. The first half of a pair has its work done at the construction. -/
def followM (t : Task σ) (s : σ) (w : Work σ) : m (Work σ) :=
  match t.query.dispatch s with
  | some .findViewById =>
    acc.demand (t.query.constructionOf s) w fun construction =>
      if construction = s then w.lookupPairM acc t s else return w
  | some .getChildAt =>
    acc.demand (t.query.childConstructionOf s) w fun construction =>
      if construction = s then w.childAtM acc t s (t.query.childCallOf s) else return w
  | some .nullAssignment => return w.unbindLocal (t.query.definedLocal s)
  | some .newExpression => w.allocateM acc t s (t.query.constructedClass s)
  | idiom =>
    match t.query.callSignature s with
    | none => return w
    | some signature =>
      match idiom with
      | some .inflate => w.inflateM acc t s signature
      | some .addView => w.addViewM acc t s
      | some .getView => w.adapterRowM acc t s signature
      | some .getListView => w.listViewM acc t s
      | _ => w.otherCallM acc t s signature

end Work

end UiRecovery
