import UiRecovery.Code.Query
import UiRecovery.Error
import UiRecovery.Signature
import UiRecovery.Toolkit

/-!
# Idioms

The ways in which code builds a user interface, recognised at one instruction and, for the two that
come in pairs, at its neighbour. A pair is a call that gives a view, assigned, followed by the
construction of the widget that the view is taken for. `constructionOf`, `viewLookupOf` and
`childConstructionOf` find the parts of a pair, and say why there is none.
-/

namespace UiRecovery

inductive Idiom where
  /-- A view looked up by id, paired with a construction. -/
  | findViewById
  /-- A child taken by position, paired with a construction. -/
  | getChildAt
  | inflate
  | addView
  /-- The view of one row of a list. -/
  | getView
  | getListView
  | nullAssignment
  | newExpression
deriving DecidableEq, Repr

def Idiom.name : Idiom → String
  | .findViewById => "FindViewById"
  | .getChildAt => "GetChildAt"
  | .inflate => "Inflate"
  | .addView => "AddView"
  | .getView => "GetView"
  | .getListView => "GetListView"
  | .nullAssignment => "NullAssignment"
  | .newExpression => "NewExpression"

/-- Why two instructions are no pair. -/
inductive Mispairing where
  | notLookup
  | lookupUnassigned
  | notAfterLookup
  | notChildAt
  | unassigned
  | noConstruction
deriving DecidableEq, Repr

def Mispairing.reason : Mispairing → String
  | .notLookup => "not a view lookup"
  | .lookupUnassigned => "lookup idiom must be an assignment"
  | .notAfterLookup => "not preceded by a view lookup assignment"
  | .notChildAt => "not a getChildAt call"
  | .unassigned => "idiom must be an assignment"
  | .noConstruction => "wrong new expression for a view"

namespace Query

variable {σ : Type} (q : Query σ)

/-! ## Single instructions -/

/-- The instruction calls one of the given methods. -/
def callsOneOf (signatures : List String) (s : σ) : Bool :=
  q.containsCall s && (q.callSignature s).any signatures.contains

def isLookupCall (s : σ) : Bool := q.callsOneOf Toolkit.findById s

/-- A call is known as one for a child by its name and its parameters, whatever it returns. -/
def isChildAtCall (s : σ) : Bool :=
  (q.callSignature s).any fun signature =>
    Signature.callName signature = Toolkit.childAtName ∧
      Signature.callParams signature = [Toolkit.intParam]

def isConstruction (s : σ) : Bool :=
  match q.rhs s with
  | some (.new _) => true
  | _ => false

def isInflate (s : σ) : Bool := q.callsOneOf Toolkit.inflate s

def isAddView (s : σ) : Bool := q.callsOneOf Toolkit.addView s

def isGetView (s : σ) : Bool := q.callsOneOf Toolkit.adapterRow s

def isGetListView (s : σ) : Bool := q.callsOneOf Toolkit.listView s

def isNullAssignment (s : σ) : Bool := q.isAssignment s && q.rhs s == some .null

def isNewExpression (s : σ) : Bool := q.isAssignment s && q.isConstruction s

/-- The instruction or the one before it looks a view up. -/
def isFindViewById (s : σ) : Bool := q.isLookupCall s || (q.predecessor s).any q.isLookupCall

/-- The instruction or the one before it takes a child. -/
def isGetChildAt (s : σ) : Bool := q.isChildAtCall s || (q.predecessor s).any q.isChildAtCall

/-! ## Pairs -/

def malformed (s : σ) (m : Mispairing) : Error :=
  @Error.malformed σ ⟨q.describe⟩ s (q.methodOf s) m.reason

/-- The construction at `s` or right after it. -/
def constructionNear (s : σ) : Except Error σ :=
  if !q.isAssignment s then .error (q.malformed s .unassigned)
  else if q.isConstruction s then .ok s
  else
    match q.successor s with
    | some next =>
      if q.isNewExpression next then .ok next else .error (q.malformed s .noConstruction)
    | none => .error (q.malformed s .noConstruction)

/-- The construction of the lookup pair that `s` belongs to. -/
def constructionOf (s : σ) : Except Error σ :=
  if q.isFindViewById s then q.constructionNear s else .error (q.malformed s .notLookup)

/-- The lookup call of the pair that `s` belongs to. -/
def viewLookupOf (s : σ) : Except Error σ :=
  if !q.isFindViewById s then .error (q.malformed s .notLookup)
  else if !q.isAssignment s then .error (q.malformed s .lookupUnassigned)
  else if q.isLookupCall s then .ok s
  else
    match q.predecessor s with
    | some previous =>
      if q.isAssignment previous && q.isLookupCall previous then .ok previous
      else .error (q.malformed s .notAfterLookup)
    | none => .error (q.malformed s .notAfterLookup)

/-- The construction of the child pair that `s` belongs to. -/
def childConstructionOf (s : σ) : Except Error σ :=
  if q.isGetChildAt s then q.constructionNear s else .error (q.malformed s .notChildAt)

/-! ## Classification -/

def satisfies (s : σ) : Idiom → Bool
  | .findViewById => q.isFindViewById s
  | .getChildAt => q.isGetChildAt s
  | .inflate => q.isInflate s
  | .addView => q.isAddView s
  | .getView => q.isGetView s
  | .getListView => q.isGetListView s
  | .nullAssignment => q.isNullAssignment s
  | .newExpression => q.isNewExpression s

end Query

/-- All idioms, highest precedence first. -/
def Idiom.all : List Idiom :=
  [.findViewById, .getChildAt, .inflate, .addView, .getView, .getListView, .nullAssignment,
    .newExpression]

namespace Query

variable {σ : Type} (q : Query σ)

/-- The idioms that the instruction takes part in, highest precedence first. -/
def idioms (s : σ) : List Idiom := Idiom.all.filter (q.satisfies s)

def primaryIdiom? (s : σ) : Option Idiom := (q.idioms s).head?

end Query

end UiRecovery
