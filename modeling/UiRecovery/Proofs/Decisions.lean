import UiRecovery.Assembly.Dispatch

/-!
# What is decided by the code

What is to be done at a site, as far as the code alone decides it.
`Query.action` says so for every site, or gives the reason for which the
method cannot be assembled; what has been recovered so far plays no part in
it.
-/

namespace UiRecovery

inductive Action (σ : Type) where
  /-- The first half of a pair, whose work is done at the construction. -/
  | await
  /-- Look up the widgets whose ids are passed to `call`, and take them for widgets of the given
  class. -/
  | lookup (call : σ) (className : String)
  /-- Take any child of the receiver of `call`. -/
  | childAt (call : σ)
  /-- Forget what the assigned local denotes. -/
  | clear
  | allocate (className : String)
  | inflate (signature : String)
  | addView
  | adapterRow (signature : String)
  | listView
  | showLayout
  | showWidget
  | inflateMenu
  | fragment (signature : String)
  /-- A call that may set something of a dialog or a widget. -/
  | call (signature : String)
  | nothing
deriving DecidableEq, Repr

namespace Query

variable {σ : Type} (q : Query σ)

/-- What a call outside all idioms asks for. -/
def callAction (signature : String) : Action σ :=
  if signature = Toolkit.showLayout then .showLayout
  else if Toolkit.showWidget.contains signature then .showWidget
  else if signature = Toolkit.inflateMenu then .inflateMenu
  else if Toolkit.fragmentTransaction.contains signature then .fragment signature
  else .call signature

variable [DecidableEq σ]

/-- What is to be done at a site, or why its pair is malformed. -/
def action (s : σ) : Except Error (Action σ) :=
  match q.dispatch s with
  | some .findViewById => do
    let construction ← q.constructionOf s
    if construction = s then return .lookup (← q.viewLookupOf s) (q.constructedClass s)
    else return .await
  | some .getChildAt => do
    let construction ← q.childConstructionOf s
    if construction = s then return .childAt (q.childCallOf s) else return .await
  | some .nullAssignment => return .clear
  | some .newExpression => return .allocate (q.constructedClass s)
  | idiom =>
    match q.callSignature s with
    | none => return .nothing
    | some signature =>
      match idiom with
      | some .inflate => return .inflate signature
      | some .addView => return .addView
      | some .getView => return .adapterRow signature
      | some .getListView => return .listView
      | _ => return callAction signature

/-- Why a method with this site cannot be assembled. -/
def fault? (s : σ) : Option Error :=
  match q.action s with
  | .ok _ => none
  | .error e => some e

end Query

end UiRecovery
