import UiRecovery.Idiom

/-!
# Dispatch

Which idiom the assembly follows at a site, and what it reads off the code there.
-/

namespace UiRecovery.Query

variable {σ : Type} (q : Query σ)

/-- The idiom by which the assembly proceeds at a site. Assignments of null and constructions are
told apart before any call is considered. -/
def dispatch (s : σ) : Option Idiom :=
  if q.isFindViewById s then some .findViewById
  else if q.isGetChildAt s then some .getChildAt
  else if q.isNullAssignment s then some .nullAssignment
  else if q.isNewExpression s then some .newExpression
  else if q.isInflate s then some .inflate
  else if q.isAddView s then some .addView
  else if q.isGetView s then some .getView
  else if q.isGetListView s then some .getListView
  else none

/-- The class that is constructed at a site, the most general one if none is. -/
def constructedClass (s : σ) : String :=
  match q.rhs s with
  | some (.new className) => className
  | _ => Toolkit.viewClass

/-- The call that gives the child of a child pair with the construction `s`. -/
def childCallOf (s : σ) : σ :=
  let isChildAt := (q.callSignature s).any fun signature =>
    Signature.callName signature = Toolkit.childAtName
  if isChildAt then s else (q.predecessor s).getD s

end UiRecovery.Query
