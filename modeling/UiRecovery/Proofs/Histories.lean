import UiRecovery.Proofs.Accesses

/-!
# Histories of calls

What a caller can do with an assembler, as data: a `Preparation` builds or
registers templates, an `AssemblyCall` assembles methods with any query
and any oracle. `Prepared` and `Reachable` are the assemblers that such
calls lead to from a new one. No call is ruled out, whatever handles it is
given, and where one is refused the assembler goes on as the call left it.

`Kept.assembled` packages the induction over a history: what every move
keeps, and what both endings of a method keep, holds after any sequence
of assembly calls.
-/

namespace UiRecovery

/-- A call by which a caller builds templates in the scene, or registers
them. -/
inductive Preparation where
  | create (id : Int32) (className : String) (kind : WidgetKind)
  | addChild (parent child : Nat)
  | addChildren (parent : Nat) (children : List Nat)
  | copy (h : Nat)
  | copyWithId (h : Nat) (id : Int32)
  /-- Rewrite the evidence of a widget at will. -/
  | revise (h : Nat) (f : Widget → Widget)
  | addMask (h : Nat) (mask : Int32)
  /-- Take a guid from the scene's mint, for an element outside the scene. -/
  | drawGuid
  | registerLayout (id : Int32) (layout : Layout)
  | registerMenu (id : Int32) (menu : Menu)

/-- The widget with evidence as `f` has it. Identity and structure are not
open to a caller. -/
def Widget.revise (f : Widget → Widget) (e : Widget) : Widget :=
  { f e with id := e.id, guid := e.guid, kind := e.kind }

/-- A call that assembles methods. -/
inductive AssemblyCall (σ : Type) where
  | method (t : Task σ) (sites : List σ)
  | units (q : Query σ) (o : Oracle σ) (units : List (MethodUnit σ))

inductive Request (σ : Type) where
  | prepare (p : Preparation)
  | assemble (c : AssemblyCall σ)

namespace Assembler

variable {σ : Type}

theorem create_eq_ok {settings : Settings} {start : Assembler σ}
    (h : create settings = .ok start) :
    start = { settings, nextDynamicId := settings.dynamicIdStart } := by
  unfold create Settings.validate at h
  by_cases hvalid : 0 ≤ settings.dynamicIdStart
  · rw [if_pos hvalid] at h
    cases h
  · rw [if_neg hvalid] at h
    exact (Except.ok.inj h).symm

/-! ## Calls -/

/-- The assembler after a call that prepares it. -/
def prepare (a : Assembler σ) : Preparation → Assembler σ
  | .create id className kind => { a with scene := (a.scene.create id className kind.bare).2 }
  | .addChild parent child => { a with scene := (a.scene.addChild parent child).2 }
  | .addChildren parent children =>
      { a with scene := (a.scene.addChildren parent children).2 }
  | .copy h => { a with scene := (a.scene.copy h).2 }
  | .copyWithId h id => { a with scene := (a.scene.copyWithId h id).2 }
  | .revise h f => { a with scene := a.scene.modify h (·.revise f) }
  | .addMask h mask => { a with scene := a.scene.modify h (·.addMask mask) }
  | .drawGuid => { a with scene := a.scene.advanceMint 1 }
  | .registerLayout id layout =>
      match a.registerLayout id layout with
      | .ok a => a
      | .error _ => a
  | .registerMenu id menu => a.registerMenu id menu

/-- An assembler of which only templates are known. -/
def Prepared (a : Assembler σ) : Prop :=
  ∃ settings start, create settings = .ok start ∧
    ∃ ps : List Preparation, a = ps.foldl prepare start

variable [DecidableEq σ]

/-- The assembler after a call that assembles methods, failing or not. -/
def assembled (a : Assembler σ) : AssemblyCall σ → Assembler σ
  | .method t sites => (a.assembleMethod t sites).assembler
  | .units q o units => (a.assemble q o units).assembler

def serve (a : Assembler σ) : Request σ → Assembler σ
  | .prepare p => a.prepare p
  | .assemble c => a.assembled c

/-- An assembler that requests of all kinds, in any order, lead to. -/
def Reachable (a : Assembler σ) : Prop :=
  ∃ settings start, create settings = .ok start ∧
    ∃ requests : List (Request σ), a = requests.foldl serve start

theorem foldl_serve_prepare (ps : List Preparation) (a : Assembler σ) :
    (ps.map Request.prepare).foldl serve a = ps.foldl prepare a :=
  List.foldl_map

theorem Prepared.reachable {a : Assembler σ} (ha : a.Prepared) : a.Reachable := by
  obtain ⟨settings, start, hstart, ps, rfl⟩ := ha
  exact ⟨settings, start, hstart, ps.map .prepare, (foldl_serve_prepare ps start).symm⟩

theorem Reachable.serve {a : Assembler σ} (ha : a.Reachable) (r : Request σ) :
    (a.serve r).Reachable := by
  obtain ⟨settings, start, hstart, requests, rfl⟩ := ha
  refine ⟨settings, start, hstart, requests ++ [r], ?_⟩
  rw [List.foldl_append]
  rfl

theorem Reachable.assembled {a : Assembler σ} (ha : a.Reachable) (c : AssemblyCall σ) :
    (a.assembled c).Reachable :=
  ha.serve (.assemble c)

theorem Reachable.foldl_assembled {a : Assembler σ} (ha : a.Reachable)
    (calls : List (AssemblyCall σ)) : (calls.foldl Assembler.assembled a).Reachable := by
  induction calls generalizing a with
  | nil => exact ha
  | cons c calls ih => exact ih (ha.assembled c)

/-! ## What one preparation does -/

end Assembler

/-- The ways in which a caller can change a scene. -/
inductive Scene.Prepares (s : Scene) : Scene → Prop
  | same : Prepares s s
  | create (id : Int32) (className : String) (kind : WidgetKind) :
      Prepares s (s.create id className kind.bare).2
  | attach {parent : Nat} {children : List Nat} (hne : parent ∉ children) :
      Prepares s (s.modify parent (·.appendChildren children))
  | copyWithId (h : Nat) (id : Int32) : Prepares s (s.copyWithId h id).2
  | revise (h : Nat) {f : Widget → Widget} (hid : ∀ e : Widget, (f e).id = e.id)
      (hguid : ∀ e : Widget, (f e).guid = e.guid)
      (hchildren : ∀ e : Widget, (f e).children = e.children) : Prepares s (s.modify h f)
  | drawGuid : Prepares s (s.advanceMint 1)

/-- A batch is attached, or it is of no effect: because the parent is a
leaf, or because the parent is in it. -/
theorem Scene.addChildren_cases (s : Scene) (parent : Nat) (children : List Nat) :
    s.addChildren parent children = (.ok false, s) ∨
      (∃ e, s.get? parent = some e ∧ parent ∈ children ∧
        s.addChildren parent children = (.error (.selfCycle e.guid e.id), s)) ∨
      (parent ∉ children ∧ s.addChildren parent children =
        (.ok (!children.isEmpty), s.modify parent (·.appendChildren children))) := by
  unfold addChildren
  cases s.get? parent with
  | none => exact Or.inl rfl
  | some e =>
      dsimp only
      split
      · exact Or.inl rfl
      · split
        · exact Or.inr (Or.inl ⟨e, rfl, List.contains_iff_mem.mp ‹_›, rfl⟩)
        · exact Or.inr (Or.inr ⟨fun hmem => ‹¬ _› (List.contains_iff_mem.mpr hmem), rfl⟩)

namespace Assembler

variable {σ : Type}

/-- A preparation changes the scene and what is registered, and nothing
else. -/
theorem prepare_eq (a : Assembler σ) (p : Preparation) :
    ∃ scene layouts menuTemplates, a.scene.Prepares scene ∧
      a.prepare p = { a with scene, layouts, menuTemplates } := by
  cases p with
  | create id className kind => exact ⟨_, _, _, .create id className kind, rfl⟩
  | addChild parent child =>
      refine ⟨_, _, _, ?_, rfl⟩
      rcases a.scene.addChild_cases parent child with hadd | ⟨e, -, -, hadd⟩ | ⟨hne, hadd⟩
      · rw [hadd]
        exact .same
      · rw [hadd]
        exact .same
      · rw [hadd]
        exact .attach (by simpa using hne)
  | addChildren parent children =>
      refine ⟨_, _, _, ?_, rfl⟩
      rcases a.scene.addChildren_cases parent children with hadd | ⟨e, -, -, hadd⟩ | ⟨hne, hadd⟩
      · rw [hadd]
        exact .same
      · rw [hadd]
        exact .same
      · rw [hadd]
        exact .attach hne
  | copy h => exact ⟨_, _, _, .copyWithId h _, rfl⟩
  | copyWithId h id => exact ⟨_, _, _, .copyWithId h id, rfl⟩
  | revise h f =>
      refine ⟨_, _, _, ?_, rfl⟩
      exact .revise h (fun _ => rfl) (fun _ => rfl) (fun _ => rfl)
  | addMask h mask =>
      have hlearns (e : Widget) := e.learns_addMask mask
      exact ⟨_, _, _, .revise h (fun e => (hlearns e).id) (fun e => (hlearns e).guid)
        (fun e => (hlearns e).children_eq), rfl⟩
  | drawGuid => exact ⟨_, _, _, .drawGuid, rfl⟩
  | registerLayout id layout =>
      dsimp only [prepare, registerLayout]
      cases layout.roots.find? fun h => a.scene.size ≤ h with
      | none => exact ⟨_, _, _, .same, rfl⟩
      | some h => exact ⟨_, _, _, .same, rfl⟩
  | registerMenu id menu => exact ⟨_, _, _, .same, rfl⟩

/-- Templates are known, and nothing else. -/
def Pristine (a : Assembler σ) : Prop :=
  a =
    { settings := a.settings
      scene := a.scene
      layouts := a.layouts
      menuTemplates := a.menuTemplates
      nextDynamicId := a.settings.dynamicIdStart }

theorem Prepared.pristine {a : Assembler σ} (ha : a.Prepared) : a.Pristine := by
  obtain ⟨settings, start, hstart, ps, rfl⟩ := ha
  have hnew : start.Pristine := by
    rw [create_eq_ok hstart]
    rfl
  clear hstart
  induction ps generalizing start with
  | nil => exact hnew
  | cons p ps ih =>
      refine ih _ ?_
      obtain ⟨scene, layouts, menuTemplates, -, hprepare⟩ := start.prepare_eq p
      rw [hprepare, hnew]
      rfl

variable [DecidableEq σ]

/-! ## What one method leaves behind -/

/-- The dialogs of a method are handed over at its end. -/
def addDialogs (a : Assembler σ) (o : Origin) (drafts : List Dialog) : Assembler σ :=
  { a with dialogs := a.dialogs ++ drafts.map fun d => (o, d) }

theorem assembler_assembleMethod (a : Assembler σ) (t : Task σ) (sites : List σ) :
    let r := Work.run t sites (a.begin t sites)
    (a.assembleMethod t sites).assembler =
      match r.2 with
      | some _ => r.1.toAssembler
      | none => r.1.toAssembler.addDialogs t.origin r.1.drafts := by
  unfold assembleMethod
  cases Work.run t sites (a.begin t sites) with
  | mk w failure => cases failure <;> rfl

/-! ## Induction over histories -/

/-- What every method keeps, and what does not depend on the record of
skipped methods, is kept by one method after others. -/
theorem assembleNext_keeps {P : Assembler σ → Prop}
    (hmethod : ∀ (a : Assembler σ) (t : Task σ) (sites : List σ), P a →
      P (a.assembleMethod t sites).assembler)
    (hskips : ∀ (a : Assembler σ) (skipped : List SkippedMethod), P a → P { a with skipped })
    {r : UnitsRun σ} (hr : P r.assembler) (q : Query σ) (o : Oracle σ) (u : MethodUnit σ) :
    P (assembleNext q o r u).assembler := by
  have hnext := hmethod r.assembler ⟨q, o, u.origin⟩ u.sites hr
  unfold assembleNext
  dsimp only
  split
  · exact hnext
  · exact hskips _ _ hnext

theorem assemble_keeps {P : Assembler σ → Prop}
    (hmethod : ∀ (a : Assembler σ) (t : Task σ) (sites : List σ), P a →
      P (a.assembleMethod t sites).assembler)
    (hskips : ∀ (a : Assembler σ) (skipped : List SkippedMethod), P a → P { a with skipped })
    {a : Assembler σ} (ha : P a) (q : Query σ) (o : Oracle σ) (units : List (MethodUnit σ)) :
    P (a.assemble q o units).assembler := by
  have hunits : ∀ (us : List (MethodUnit σ)) (r : UnitsRun σ), P r.assembler →
      P (us.foldl (assembleNext q o) r).assembler := by
    intro us
    induction us with
    | nil => exact fun r hr => hr
    | cons u us ih => exact fun r hr => ih _ (assembleNext_keeps hmethod hskips hr q o u)
  exact hunits units { assembler := a, stats := [], log := [] } ha

theorem assembled_keeps {P : Assembler σ → Prop}
    (hmethod : ∀ (a : Assembler σ) (t : Task σ) (sites : List σ), P a →
      P (a.assembleMethod t sites).assembler)
    (hskips : ∀ (a : Assembler σ) (skipped : List SkippedMethod), P a → P { a with skipped })
    {a : Assembler σ} (ha : P a) (c : AssemblyCall σ) : P (a.assembled c) := by
  cases c with
  | method t sites => exact hmethod a t sites ha
  | units q o units => exact assemble_keeps hmethod hskips ha q o units

/-- What holds of a new assembler and is kept by every request holds of
every reachable one. -/
theorem Reachable.keeps {P : Assembler σ → Prop}
    (hcreate : ∀ settings start, create settings = .ok start → P start)
    (hprepare : ∀ a p, P a → P (a.prepare p)) (hassembled : ∀ a c, P a → P (a.assembled c))
    {a : Assembler σ} (ha : a.Reachable) : P a := by
  obtain ⟨settings, start, hstart, requests, rfl⟩ := ha
  have hstart' := hcreate settings start hstart
  clear hstart
  induction requests generalizing start with
  | nil => exact hstart'
  | cons request requests ih =>
      refine ih _ ?_
      cases request with
      | prepare p => exact hprepare start p hstart'
      | assemble c => exact hassembled start c hstart'

/-- `P` is kept by assembly: `I` holds where a method begins, every move
keeps it, and it gives back `P` at both endings of the method. -/
structure Kept (P : Assembler σ → Prop) (I : Set Nat × Work σ → Prop) : Prop where
  begins : ∀ a log, P a → I (∅, { toAssembler := a, log })
  moves : ∀ {t : Task σ} {sites : List σ} {x y : Set Nat × Work σ},
    Work.Move t sites x y → I x → I y
  fails : ∀ w : Work σ, I (∅, w) → P w.toAssembler
  ends : ∀ (w : Work σ) (o : Origin), I (∅, w) → P (w.toAssembler.addDialogs o w.drafts)
  skips : ∀ (a : Assembler σ) (skipped : List SkippedMethod), P a → P { a with skipped }

namespace Kept

variable {P : Assembler σ → Prop} {I : Set Nat × Work σ → Prop}

theorem of_moves (h : Kept P I) {t : Task σ} {sites : List σ} {x y : Set Nat × Work σ}
    (hmoves : Work.Moves t sites x y) (hx : I x) : I y := by
  induction hmoves with
  | refl => exact hx
  | tail _ hmove ih => exact h.moves hmove ih

theorem assembleMethod (h : Kept P I) {a : Assembler σ} (ha : P a) (t : Task σ)
    (sites : List σ) : P (a.assembleMethod t sites).assembler := by
  have hmoves : Work.Moves t sites (∅, a.begin t sites)
      (∅, (Work.run t sites (a.begin t sites)).1) :=
    Work.moves_run sites (fun _ hs => hs) _
  have hwork := h.of_moves hmoves (h.begins a _ ha)
  rw [assembler_assembleMethod]
  split
  · exact h.fails _ hwork
  · exact h.ends _ t.origin hwork

theorem assemble (h : Kept P I) {a : Assembler σ} (ha : P a) (q : Query σ) (o : Oracle σ)
    (units : List (MethodUnit σ)) : P (a.assemble q o units).assembler :=
  assemble_keeps (fun _ t sites ha => h.assembleMethod ha t sites) h.skips ha q o units

theorem assembled (h : Kept P I) {a : Assembler σ} (ha : P a) (c : AssemblyCall σ) :
    P (a.assembled c) :=
  assembled_keeps (fun _ t sites ha => h.assembleMethod ha t sites) h.skips ha c

/-- What assembly keeps holds after any sequence of assembly calls. -/
theorem foldl_assembled (h : Kept P I) (calls : List (AssemblyCall σ)) :
    ∀ {a : Assembler σ}, P a → P (calls.foldl Assembler.assembled a) := by
  induction calls with
  | nil => exact fun ha => ha
  | cons c calls ih => exact fun ha => ih (h.assembled ha c)

/-- What assembly and preparation keep holds of every reachable
assembler. -/
theorem reachable (h : Kept P I) (hprepare : ∀ a p, P a → P (a.prepare p))
    (hcreate : ∀ settings start, create settings = .ok start → P start)
    {a : Assembler σ} (ha : a.Reachable) : P a :=
  ha.keeps hcreate hprepare fun _ c ha => h.assembled ha c

end Kept

end Assembler

/-! ## A small history

A box with a label, registered as a layout, and code that makes calls one
after another on one local. What the theorems about histories say is seen
on it. -/

/-- Code that calls the given methods in order, all on one local. -/
def Query.straightLine (calls : List String) : Query Nat where
  containsCall s := (calls[s]?).isSome
  callSignature s := calls[s]?
  isAssignment _ := false
  rhs _ := none
  predecessor _ := none
  successor _ := none
  methodOf _ := "void onCreate()"
  definedLocal _ := some "view"
  receiver _ := some "view"
  argLocal _ _ := some "view"
  describe s := "call " ++ toString s

/-- Code that calls the given methods for a screen, and passes `100`
wherever a value is needed. -/
def Task.straightLine (calls : List String) : Task Nat where
  query := .straightLine calls
  oracle _ _ := .known (.ofList [.int 100])
  origin := .activity "Main" ""

def Preparation.labelledBox : List Preparation :=
  [.create 1 "android.widget.LinearLayout" (.group []),
    .create 2 "android.widget.TextView" (.text ∅),
    .addChild 0 1,
    .registerLayout 100 (.view 0)]

/-- An assembler that knows one layout. -/
def Assembler.labelledBox : Assembler Nat :=
  Preparation.labelledBox.foldl Assembler.prepare { settings := {}, nextDynamicId := -90000 }

theorem Assembler.prepared_labelledBox : Assembler.labelledBox.Prepared :=
  ⟨{}, _, rfl, Preparation.labelledBox, rfl⟩

end UiRecovery
