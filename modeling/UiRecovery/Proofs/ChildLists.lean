import UiRecovery.Code.Program
import UiRecovery.Proofs.Batches
import UiRecovery.Proofs.Copying

/-!
# Lists of children

Two things are shown of the list of children of every widget: the widget
itself is not in it, and no child is in it twice. Both are a `ListLaw`, a
property of one such list that does not depend on how widgets are named,
and that a list keeps when a child is put behind it that is neither the
parent nor there already. Every move keeps what is a law
(`ListLaw.move`): a new widget has no children, evidence changes none, and
a copy has the list of the original under a renaming that is injective on
all that is copied, whether children are shared or run in circles.

The two differ in what a caller can do. To attach a widget to itself is
refused, to attach one a second time by hand is not. So the first holds of
every assembler, and the second from where it holds once, unless a caller
repeats a child.
-/

namespace UiRecovery

/-- `P h cs` may be said of a widget `h` with the children `cs`, and work
on a method cannot make it false. -/
structure ListLaw (P : Nat → List Nat → Prop) : Prop where
  empty : ∀ h, P h []
  rename : ∀ {f : Nat → Nat} {h : Nat} {cs : List Nat},
    Set.InjOn f {x | x = h ∨ x ∈ cs} → P h cs → P (f h) (cs.map f)
  attach : ∀ {h c : Nat} {cs : List Nat}, P h cs → h ≠ c → c ∉ cs → P h (cs ++ [c])

theorem listLaw_not_mem : ListLaw fun h cs => h ∉ cs where
  empty _ := List.not_mem_nil
  rename hf hnot hmem := by
    obtain ⟨c, hc, heq⟩ := List.mem_map.mp hmem
    obtain rfl := hf (Or.inr hc) (Or.inl rfl) heq
    exact hnot hc
  attach hnot hne _ hmem := by
    rcases List.mem_append.mp hmem with hmem | hmem
    · exact hnot hmem
    · exact hne (List.mem_singleton.mp hmem)

theorem listLaw_nodup : ListLaw fun _ cs => cs.Nodup where
  empty _ := List.nodup_nil
  rename hf hcs := hcs.map_on fun _ hx _ hy heq => hf (Or.inr hx) (Or.inr hy) heq
  attach hcs _ hnew := by
    rw [← List.concat_eq_append]
    exact hcs.concat hnew

namespace Scene

variable {s : Scene}

/-! ## Children after a change of the scene -/

/-- A leaf has no place for children. -/
theorem children_of_leaf {h : Nat} (hleaf : s.isContainer h = false) : s.children h = [] := by
  cases hget : s.get? h with
  | none => exact children_of_get?_eq_none hget
  | some e =>
      rw [isContainer_of_get? hget] at hleaf
      rw [children_of_get? hget]
      unfold Widget.isContainer at hleaf
      show e.kind.children = []
      cases hkind : e.kind with
      | view => rfl
      | text masks => rfl
      | group cs => rw [hkind] at hleaf; cases hleaf
      | fragment cs source tag => rw [hkind] at hleaf; cases hleaf

theorem children_create (s : Scene) (id : Int32) (className : String) (kind : WidgetKind)
    (h : Nat) :
    (s.create id className kind).2.children h =
      if h = s.size then kind.children else s.children h := by
  have hget := get?_create s id className kind h
  by_cases hnew : h = s.size
  · rw [if_pos hnew] at hget ⊢
    exact children_of_get? hget
  · rw [if_neg hnew] at hget ⊢
    exact children_congr hget

theorem children_attach (s : Scene) (parent : Nat) (cs : List Nat) (x : Nat) :
    (s.modify parent (·.appendChildren cs)).children x = s.children x ∨
      parent = x ∧ (s.modify parent (·.appendChildren cs)).children x = s.children x ++ cs := by
  by_cases hx : parent = x
  · cases hget : s.get? x with
    | none =>
        refine Or.inl (children_congr ?_)
        rw [get?_modify, if_pos hx, hget]
        rfl
    | some e =>
        have hget' : (s.modify parent (·.appendChildren cs)).get? x =
            some (e.appendChildren cs) := by
          rw [get?_modify, if_pos hx, hget]
          rfl
        rw [children_of_get? hget', children_of_get? hget]
        cases hcontainer : e.isContainer with
        | true => exact Or.inr ⟨hx, e.children_appendChildren hcontainer cs⟩
        | false =>
            have hleaf : (s.modify parent (·.appendChildren cs)).isContainer x = false := by
              rw [isContainer_of_get? hget', Widget.isContainer_appendChildren, hcontainer]
            have hleaf' : s.isContainer x = false := by
              rw [isContainer_of_get? hget, hcontainer]
            refine Or.inl ?_
            rw [← children_of_get? hget', ← children_of_get? hget, children_of_leaf hleaf,
              children_of_leaf hleaf']
  · refine Or.inl (children_congr ?_)
    rw [get?_modify, if_neg hx]

/-! ## Laws of a scene -/

/-- `P` holds of all widgets and their children. -/
def Lists (P : Nat → List Nat → Prop) (s : Scene) : Prop := ∀ h, P h (s.children h)

end Scene

namespace ListLaw

variable {P : Nat → List Nat → Prop} {s : Scene}

theorem create (hP : ListLaw P) (hs : s.Lists P) (id : Int32) (className : String)
    {kind : WidgetKind} (hkind : kind.children = []) :
    (s.create id className kind).2.Lists P := by
  intro h
  rw [Scene.children_create]
  split
  · rw [hkind]
    exact hP.empty h
  · exact hs h

/-- A copy has the children of the original under their new names. -/
theorem copyWithId (hP : ListLaw P) (hs : s.Lists P) (h : Nat) (id : Int32) :
    (s.copyWithId h id).2.Lists P := by
  intro x
  by_cases hold : x < s.size
  · rw [Scene.children_congr (Scene.get?_copyWithId_of_lt s id hold)]
    exact hs x
  · by_cases hnew : x < (s.copyWithId h id).2.size
    · obtain ⟨y, hy, rfl⟩ := Scene.exists_copyHandle_eq (Nat.le_of_not_lt hold) hnew
      rw [s.children_copyWithId id hy]
      refine hP.rename ((s.injOn_copyHandle h).mono ?_) (hs y)
      rintro z (rfl | hz)
      · exact hy
      · exact Relation.ReflTransGen.tail hy hz
    · have hnone : (s.copyWithId h id).2.get? x = none :=
        Scene.get?_eq_none_iff.mpr (Nat.le_of_not_lt hnew)
      rw [Scene.children_of_get?_eq_none hnone]
      exact hP.empty x

end ListLaw

theorem Scene.Lists.modify {P : Nat → List Nat → Prop} {s : Scene} (hs : s.Lists P) (h : Nat)
    {f : Widget → Widget} (hf : ∀ e : Widget, (f e).children = e.children) :
    (s.modify h f).Lists P := by
  intro x
  rw [s.children_modify h hf]
  exact hs x

theorem Scene.Lists.attach {P : Nat → List Nat → Prop} {s : Scene} (hs : s.Lists P)
    {parent : Nat} {cs : List Nat} (hcs : P parent (s.children parent ++ cs)) :
    (s.modify parent (·.appendChildren cs)).Lists P := by
  intro x
  rcases s.children_attach parent cs x with hsame | ⟨rfl, hmore⟩
  · rw [hsame]
    exact hs x
  · rw [hmore]
    exact hcs

/-! ## Work keeps a law -/

namespace ListLaw

variable {σ : Type} [DecidableEq σ] {P : Nat → List Nat → Prop} {t : Task σ} {sites : List σ}

theorem move {x y : Set Nat × Work σ} (hP : ListLaw P) (h : Work.Move t sites x y)
    (hx : x.2.scene.Lists P) : y.2.scene.Lists P := by
  cases h with
  | learn hh hf => exact hx.modify _ fun e => (hf e).children_eq
  | attach hparent hchild hne hnew => exact hx.attach (hP.attach (hx _) hne hnew)
  | lookup className kind => exact hP.create hx _ className kind.children_bare
  | allocation className kind => exact hP.create hx _ className kind.children_bare
  | slot className tag => exact hP.create hx _ className rfl
  | copy => exact hP.copyWithId hx _ _
  | _ => exact hx

theorem moves {x y : Set Nat × Work σ} (hP : ListLaw P) (h : Work.Moves t sites x y)
    (hx : x.2.scene.Lists P) : y.2.scene.Lists P := by
  induction h with
  | refl => exact hx
  | tail _ hmove ih => exact hP.move hmove ih

/-- Wherever a method is at. -/
theorem run (hP : ListLaw P) {a : Assembler σ} (ha : a.scene.Lists P) (t : Task σ)
    (before sites : List σ) : (Work.run t before (a.begin t sites)).1.scene.Lists P :=
  hP.moves (Work.moves_run before (fun _ hs => hs) (a.begin t sites)) ha

theorem kept (hP : ListLaw P) :
    Assembler.Kept (σ := σ) (fun a => a.scene.Lists P) (fun x => x.2.scene.Lists P) where
  begins _ _ ha := ha
  moves hmove hx := hP.move hmove hx
  fails _ hw := hw
  ends _ _ hw := hw
  skips _ _ ha := ha

end ListLaw

/-! ## Callers -/

/-- The children that a call attaches by hand, and their parent. -/
def Preparation.attachment? : Preparation → Option (Nat × List Nat)
  | .addChild parent child => some (parent, [child])
  | .addChildren parent children => some (parent, children)
  | _ => none

/-- A preparation keeps a law if an attachment by hand does. -/
theorem ListLaw.prepare {σ : Type} {P : Nat → List Nat → Prop} (hP : ListLaw P)
    {a : Assembler σ} (ha : a.scene.Lists P) (p : Preparation)
    (hp : ∀ parent cs, p.attachment? = some (parent, cs) → parent ∉ cs →
      P parent (a.scene.children parent ++ cs)) : (a.prepare p).scene.Lists P := by
  cases p with
  | create id className kind => exact hP.create ha id className kind.children_bare
  | addChild parent child =>
      dsimp only [Assembler.prepare]
      rcases a.scene.addChild_cases parent child with hsame | ⟨e, -, -, herr⟩ | ⟨hne, hok⟩
      · rw [hsame]
        exact ha
      · rw [herr]
        exact ha
      · rw [hok]
        exact ha.attach (hp parent [child] rfl (by simpa using hne))
  | addChildren parent children =>
      dsimp only [Assembler.prepare]
      rcases a.scene.addChildren_cases parent children with hsame | ⟨e, -, -, herr⟩ | ⟨hnot, hok⟩
      · rw [hsame]
        exact ha
      · rw [herr]
        exact ha
      · rw [hok]
        exact ha.attach (hp parent children rfl hnot)
  | copy h => exact hP.copyWithId ha h _
  | copyWithId h id => exact hP.copyWithId ha h id
  | revise h f => exact ha.modify h fun _ => rfl
  | addMask h mask => exact ha.modify h fun e => (e.learns_addMask mask).children_eq
  | drawGuid => exact ha
  | registerLayout id layout =>
      dsimp only [Assembler.prepare, Assembler.registerLayout]
      cases layout.roots.find? fun h => a.scene.size ≤ h with
      | none => exact ha
      | some h => exact ha
  | registerMenu id menu => exact ha

/-- A caller who attaches a child by hand attaches it to a widget that does
not have it. What assembly attaches is not restricted. -/
def Request.AttachesNew {σ : Type} (a : Assembler σ) : Request σ → Prop
  | .prepare p => ∀ parent cs, p.attachment? = some (parent, cs) →
      (a.scene.children parent ++ cs).Nodup
  | .assemble _ => True

namespace Assembler

variable {σ : Type} [DecidableEq σ] {a b : Assembler σ}

/-- A state that comes after `a`. -/
inductive LeadsTo (a : Assembler σ) : Assembler σ → Prop
  | start : LeadsTo a a
  | serve {b : Assembler σ} (h : LeadsTo a b) (r : Request σ) (hr : r.AttachesNew b) :
      LeadsTo a (b.serve r)

/-- What methods attach is left to them. -/
theorem LeadsTo.foldl_assembled (calls : List (AssemblyCall σ)) :
    ∀ {b : Assembler σ}, a.LeadsTo b → a.LeadsTo (calls.foldl assembled b) := by
  induction calls with
  | nil => exact fun h => h
  | cons c calls ih => exact fun h => ih (h.serve (.assemble c) trivial)

theorem LeadsTo.reachable (h : a.LeadsTo b) (ha : a.Reachable) : b.Reachable := by
  induction h with
  | start => exact ha
  | serve _ r _ ih => exact ih.serve r

theorem LeadsTo.nodup (h : a.LeadsTo b) (ha : a.scene.Lists fun _ cs => cs.Nodup) :
    b.scene.Lists fun _ cs => cs.Nodup := by
  induction h with
  | start => exact ha
  | serve _ r hr ih =>
      cases r with
      | prepare p =>
          exact listLaw_nodup.prepare ih p fun parent cs hattach _ => hr parent cs hattach
      | assemble c => exact listLaw_nodup.kept.assembled ih c

theorem Reachable.not_mem_children (ha : a.Reachable) : a.scene.Lists fun h cs => h ∉ cs := by
  refine listLaw_not_mem.kept.reachable ?_ ?_ ha
  · intro a p ha
    refine listLaw_not_mem.prepare ha p fun parent cs _ hnot hmem => ?_
    rcases List.mem_append.mp hmem with hmem | hmem
    · exact ha parent hmem
    · exact hnot hmem
  · intro settings start hstart h
    rw [create_eq_ok hstart]
    exact List.not_mem_nil

/-- Lists of children have neither the parent in them nor a child twice.
Whatever was asked of an assembler, no widget is its own child and a leaf
has no children, between two requests and wherever a method is at. And if
no widget has a child twice, none ever will, however often methods attach
the same things, unless a caller repeats a child by hand. -/
theorem child_lists_simple (ha : a.Reachable) :
    (∀ h, h ∉ a.scene.children h) ∧
      (∀ h, a.scene.isContainer h = false → a.scene.children h = []) ∧
      (∀ (t : Task σ) (before sites : List σ),
        let s := (Work.run t before (a.begin t sites)).1.scene
        (∀ h, h ∉ s.children h) ∧ ∀ h, s.isContainer h = false → s.children h = []) ∧
      ((∀ h, (a.scene.children h).Nodup) → ∀ b, a.LeadsTo b →
        (∀ h, (b.scene.children h).Nodup) ∧
          ∀ (t : Task σ) (before sites : List σ) (h : Nat),
            ((Work.run t before (b.begin t sites)).1.scene.children h).Nodup) := by
  have hself := ha.not_mem_children
  refine ⟨hself, fun h => Scene.children_of_leaf, fun t before sites => ?_, fun hnodup b hb => ?_⟩
  · exact ⟨listLaw_not_mem.run hself t before sites, fun h => Scene.children_of_leaf⟩
  · have hlater := hb.nodup hnodup
    exact ⟨hlater, fun t before sites => listLaw_nodup.run hlater t before sites⟩

end Assembler

/-- A call that adds what a local denotes to a frame. -/
def Instruction.addToFrame (name : String) : Instruction where
  target := none
  expr := .call ⟨"void addView(android.view.View)", some "frame", [.localVar name]⟩

/-- A frame that code adds to itself, and a button that it adds to the
frame twice. -/
def Program.addingAgain : Program where
  methods :=
    [{ signature := "void onCreate(android.os.Bundle)"
       instructions :=
        [⟨some "frame", .new "android.widget.FrameLayout"⟩, .addToFrame "frame",
          ⟨some "button", .new "android.widget.Button"⟩, .addToFrame "button",
          .addToFrame "button"] }]

/-- The code runs for two components. -/
def Program.addedForTwo : List (AssemblyCall Site) :=
  ["Main", "Other"].map fun name =>
    .method ⟨addingAgain.query, fun _ _ => .unknown, .activity name ""⟩ (addingAgain.sites 0)

theorem Assembler.child_lists_simple_addedForTwo :
    let start : Assembler Site := { settings := {}, nextDynamicId := -90000 }
    let b := Program.addedForTwo.foldl assembled start
    start.Reachable ∧ (∀ h, (start.scene.children h).Nodup) ∧ start.LeadsTo b ∧
      b.scene.size = 2 ∧ b.scene.children 0 = [1] ∧ 0 ∉ b.scene.children 0 ∧
      ∀ h, (b.scene.children h).Nodup := by
  intro start b
  have hstart : start.Reachable := ⟨{}, start, rfl, [], rfl⟩
  have hempty : ∀ h, (start.scene.children h).Nodup := fun _ => List.nodup_nil
  have hlater : start.LeadsTo b := LeadsTo.foldl_assembled _ .start
  obtain ⟨-, -, -, hnodup⟩ := child_lists_simple hstart
  exact ⟨hstart, hempty, hlater, by decide +kernel, by decide +kernel,
    (child_lists_simple (hlater.reachable hstart)).1 0, (hnodup hempty b hlater).1⟩

end UiRecovery
