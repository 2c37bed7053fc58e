import Mathlib.Data.List.Find
import Mathlib.Data.List.Forall2
import UiRecovery.Proofs.Attributing
import UiRecovery.Proofs.Dangling
import UiRecovery.Proofs.Persistence
import UiRecovery.Proofs.Skipping
import UiRecovery.Proofs.Visits

/-!
# Lookups

A lookup takes one widget for each id that it is given. Which one is meant
is settled by the state before the lookup (`Work.meant?`): the widget that
a container holds under the id, else the one that the place stands for. If
there is neither, the widget is made.

The ids are looked up one after the other, and each turn changes the state
for the next: widgets are made, named and attributed. `KeepsOtherIds ids`
says how little that is. No turn changes the children of a widget, and
none comes near a widget or a place whose id is not among those it looks
for. The ids of a lookup differ from each other, so that a turn finds what
it would have found in the first place, and its own answer stays as it is
until the end. `answers_collect` is the induction over the ids.
-/

namespace UiRecovery

/-! ## The ids of a lookup -/

theorem Resolution.nodup_values (r : Resolution) : r.values.Nodup := by
  cases r with
  | known vs => exact vs.nodup
  | unknown => exact List.nodup_nil

theorem Resolution.nodup_words (r : Resolution) : (r.ints.filterMap word32?).Nodup := by
  refine List.Nodup.filterMap ?_ (List.Nodup.filterMap ?_ r.nodup_values)
  · intro i i' id hi hi'
    have heq := (toInt_of_word32? hi).symm.trans (toInt_of_word32? hi')
    exact Int64.toInt_inj.mp heq
  · intro v v' i hv hv'
    cases v <;> cases v' <;> simp_all [Value.int?]

theorem Work.lookupIds_eq (ints : List Int64) :
    Work.lookupIds ints =
      if ints.filterMap word32? = [] then [-1] else ints.filterMap word32? := by
  unfold Work.lookupIds
  split
  · rename_i hempty
    rw [if_pos hempty]
    rfl
  · rename_i ids hids
    rw [if_neg hids]

theorem Work.nodup_lookupIds (r : Resolution) : (Work.lookupIds r.ints).Nodup := by
  rw [lookupIds_eq]
  split
  · exact List.nodup_singleton _
  · exact r.nodup_words

/-! ## The pair -/

namespace Query

variable {σ : Type} {q : Query σ} {s call : σ}

/-- An instruction that is its own construction constructs something. -/
theorem rhs_of_constructionOf (hconstruction : q.constructionOf s = .ok s) :
    ∃ className, q.rhs s = some (.new className) := by
  have hself : q.isConstruction s = true := by
    unfold constructionOf at hconstruction
    split at hconstruction
    · unfold constructionNear at hconstruction
      split at hconstruction
      · cases hconstruction
      split at hconstruction
      · assumption
      split at hconstruction
      · split at hconstruction
        · rename_i next _ hnew
          obtain rfl : next = s := Except.ok.inj hconstruction
          exact (Bool.and_eq_true_iff.mp hnew).2
        · cases hconstruction
      · cases hconstruction
    · cases hconstruction
  unfold isConstruction at hself
  split at hself
  · rename_i className hrhs
    exact ⟨className, hrhs⟩
  · cases hself

theorem action_of_construction [DecidableEq σ] {className : String}
    (hlookup : q.isFindViewById s = true) (hconstruction : q.constructionOf s = .ok s)
    (hcall : q.viewLookupOf s = .ok call) (hrhs : q.rhs s = some (.new className)) :
    q.action s = .ok (.lookup call className) := by
  have hclass : q.constructedClass s = className := by
    unfold constructedClass
    rw [hrhs]
  rw [action_of_isFindViewById hlookup, hconstruction, hcall, hclass]
  exact if_pos rfl

end Query

/-! ## Searches in a scene that grows -/

/-- Two graphs that agree on a closed part of them are walked alike
there. -/
theorem explore_congr {next next' : Nat → List Nat} {P : Nat → Prop}
    {place : List Nat → List Nat → List Nat} (hnext : ∀ x, P x → next' x = next x)
    (hclosed : ∀ x, P x → ∀ y ∈ next x, P y)
    (hplace : ∀ new waiting, (place new waiting).Perm (new ++ waiting)) (n : Nat)
    {found waiting : List Nat} (hfound : ∀ x ∈ found, P x) (hwaiting : ∀ x ∈ waiting, P x) :
    explore next' place n found waiting = explore next place n found waiting := by
  have hmap : explore next' place n (found.map fun x => x) (waiting.map fun x => x) =
      (explore next place n found waiting).map fun x => x :=
    explore_map (P := P) (fun _ _ _ _ heq => heq) (fun x hx => by simpa using hnext x hx) hclosed
      hplace (by simp) n found waiting hfound hwaiting
  simpa using hmap

namespace Scene

variable {s s' : Scene} {h : Nat}

/-- A scene that grows without new children is searched as before. -/
theorem Grows.find?_eq (hgrows : s.Grows s')
    (hchildren : ∀ x < s.size, s'.children x = s.children x) (hs : s.InRange) (hh : h < s.size)
    (id : Int32) : s'.find? h id = s.find? h id := by
  have hcontainer : s'.isContainer h = s.isContainer h := by
    obtain ⟨e', he', hgrows⟩ := hgrows h _ (get?_of_lt hh)
    rw [isContainer_of_get? he', isContainer_of_get? (get?_of_lt hh)]
    exact hgrows.kind.isContainer_eq
  have hwalk : s'.breadthFirst h = s.breadthFirst h := by
    rw [breadthFirst_eq (Nat.le_max_right s.walkBound s'.walkBound),
      breadthFirst_eq (Nat.le_max_left s.walkBound s'.walkBound)]
    exact explore_congr (P := (· < s.size)) hchildren (fun x _ => hs x) placeFirst_perm _
      (by simpa using hh) (by simpa using hh)
  rw [Scene.find?_eq, Scene.find?_eq, hcontainer, hwalk]
  split
  · refine List.find?_congr fun x hx => ?_
    rw [hgrows.id_widget (hs.reaches hh (reaches_of_mem_breadthFirst hx))]
  · rfl

end Scene

namespace Work

variable {σ : Type} [DecidableEq σ] {t : Task σ} {s : σ} {className : String}
  {containers : List Nat} {w w' w'' : Work σ} {id : Int32} {h x : Nat}

/-! ## Names -/

section

omit [DecidableEq σ]

theorem get?_nameAfter_of_ne (w : Work σ) (name : Option String) {x : Nat} (hx : h ≠ x) :
    (w.nameAfter h name).scene.get? x = w.scene.get? x := by
  cases name with
  | none => rfl
  | some name => exact (Scene.get?_modify ..).trans (if_neg hx)

/-- A widget without a name takes the one that it is given. -/
theorem get?_nameAfter_self (name : Option String) {e : Widget} (he : w.scene.get? h = some e)
    (hblank : e.idVariable = "") :
    (w.nameAfter h name).scene.get? h = some { e with idVariable := name.getD "" } := by
  cases name with
  | none =>
      rw [Option.getD_none, ← hblank]
      exact he
  | some name =>
      have hmodify := w.scene.get?_modify h h (·.nameAfter name)
      rw [if_pos rfl, he] at hmodify
      refine hmodify.trans ?_
      simp [Widget.nameAfter, hblank]

theorem children_nameAfter (w : Work σ) (h : Nat) (name : Option String) (x : Nat) :
    (w.nameAfter h name).scene.children x = w.scene.children x := by
  cases name with
  | none => rfl
  | some name =>
      exact w.scene.children_modify h (fun e => (e.learns_nameAfter name).children_eq) x

theorem merged_nameAfter (w : Work σ) (h : Nat) (name : Option String) :
    (w.nameAfter h name).merged = w.merged := by
  cases name <;> rfl

theorem settings_nameAfter (w : Work σ) (h : Nat) (name : Option String) :
    (w.nameAfter h name).settings = w.settings := by
  cases name <;> rfl

end

/-! ## What is meant -/

/-- The widget that is meant by an id, as far as there is one: the one that
the first container to hold any holds under this id, else the one that the
place stands for. -/
def meant? (w : Work σ) (s : σ) (containers : List Nat) (id : Int32) : Option Nat :=
  (containers.findSome? fun c => w.scene.find? c id).or (w.merged.get? (.lookup s id))

/-- The state with a new widget, for which the place of the id stands. -/
def withNew (w : Work σ) (s : σ) (id : Int32) (className : String) : Work σ :=
  { w with
    scene := (w.scene.create id className (w.kindOf className)).2
    merged := w.merged.insert (.lookup s id) w.scene.size }

theorem lookupOne_of_meant {x : Nat} (hx : w.meant? s containers id = some x) :
    lookupOne t s className containers w id =
      (x, (w.nameAfter x (t.query.definedLocal s)).tag t.origin x) := by
  unfold meant? at hx
  rw [lookupOne_eq]
  cases hfind : containers.findSome? fun c => w.scene.find? c id with
  | some y =>
      rw [hfind] at hx
      obtain rfl := Option.some.inj hx
      rfl
  | none =>
      rw [hfind] at hx
      have hget : w.merged.get? (.lookup s id) = some x := hx
      simp only [mergedOr, hget]

theorem lookupOne_of_not_meant (hnone : w.meant? s containers id = none) :
    lookupOne t s className containers w id =
      (w.scene.size,
        ((w.withNew s id className).nameAfter w.scene.size (t.query.definedLocal s)).tag t.origin
          w.scene.size) := by
  obtain ⟨hfind, hget⟩ := Option.or_eq_none_iff.mp hnone
  rw [lookupOne_eq]
  simp only [mergedOr, hfind, hget]
  rfl

/-- What is meant is in the scene and has the id. -/
theorem of_meant (hw : Bounded ({c | c ∈ containers}, w)) (hmerges : w.toAssembler.Merges 0)
    {x : Nat} (hx : w.meant? s containers id = some x) :
    x < w.scene.size ∧ (w.scene.widget x).id = id := by
  rcases Option.or_eq_some_iff.mp hx with hfind | ⟨-, hget⟩
  · obtain ⟨c, hc, hx⟩ := List.exists_of_findSome?_eq_some hfind
    have hlt := hw.toAssembler.scene.reaches (hw.held c hc) (Scene.reaches_of_find? hx)
    exact ⟨hlt, Scene.id_of_find? hx⟩
  · exact ⟨(hmerges.range _ x hget).2, hmerges.named s id x hget⟩

/-! ## Turns -/

/-- `w'` comes from `w` by looking for the ids. Only widgets and places of
these ids are concerned, and no children. -/
structure KeepsOtherIds (s : σ) (ids : List Int32) (w w' : Work σ) : Prop where
  grows : w.toAssembler.Grows w'.toAssembler
  settings : w'.settings = w.settings
  children : ∀ x < w.scene.size, w'.scene.children x = w.scene.children x
  spared : ∀ x < w.scene.size, (w.scene.widget x).id ∉ ids → w'.scene.get? x = w.scene.get? x
  places : ∀ id, id ∉ ids → w'.merged.get? (.lookup s id) = w.merged.get? (.lookup s id)

namespace KeepsOtherIds

variable {ids ids' : List Int32}

theorem refl (s : σ) (ids : List Int32) (w : Work σ) : KeepsOtherIds s ids w w where
  grows := .refl _
  settings := rfl
  children _ _ := rfl
  spared _ _ _ := rfl
  places _ _ := rfl

theorem mono (h : KeepsOtherIds s ids w w') (hsub : ids ⊆ ids') : KeepsOtherIds s ids' w w' where
  grows := h.grows
  settings := h.settings
  children := h.children
  spared x hx hid := h.spared x hx fun hmem => hid (hsub hmem)
  places id hid := h.places id fun hmem => hid (hsub hmem)

theorem trans (h : KeepsOtherIds s ids w w') (h' : KeepsOtherIds s ids w' w'') :
    KeepsOtherIds s ids w w'' := by
  have hlt : ∀ x < w.scene.size, x < w'.scene.size := fun x hx =>
    Nat.lt_of_lt_of_le hx h.grows.scene.size_le
  refine ⟨h.grows.trans h'.grows, h'.settings.trans h.settings, ?_, ?_, ?_⟩
  · intro x hx
    rw [h'.children x (hlt x hx), h.children x hx]
  · intro x hx hid
    rw [← h.grows.scene.id_widget hx] at hid
    rw [h'.spared x (hlt x hx) hid]
    rw [h.grows.scene.id_widget hx] at hid
    exact h.spared x hx hid
  · intro id hid
    rw [h'.places id hid, h.places id hid]

/-- An id that has not been looked for means what it meant before. -/
theorem meant?_eq (h : KeepsOtherIds s ids w w') (hw : Bounded ({c | c ∈ containers}, w))
    (hid : id ∉ ids) : w'.meant? s containers id = w.meant? s containers id := by
  have hfind : (containers.findSome? fun c => w'.scene.find? c id) =
      containers.findSome? fun c => w.scene.find? c id := by
    rw [← List.head?_filterMap, ← List.head?_filterMap]
    refine congrArg List.head? (List.filterMap_congr fun c hc => ?_)
    exact h.grows.scene.find?_eq h.children hw.toAssembler.scene (hw.held c hc) id
  unfold meant?
  rw [hfind, h.places id hid]

theorem kindOf_eq (h : KeepsOtherIds s ids w w') (className : String) :
    w'.kindOf className = w.kindOf className := by
  unfold kindOf
  rw [h.settings]

end KeepsOtherIds

/-- A widget is named and attributed. -/
theorem keepsOtherIds_tag (hid : (w.scene.widget h).id = id) :
    KeepsOtherIds s [id] w ((w.nameAfter h (t.query.definedLocal s)).tag t.origin h) where
  grows := by
    have hmoves : Moves t [s] (Set.univ, w)
        (Set.univ, (w.nameAfter h (t.query.definedLocal s)).tag t.origin h) :=
      (moves_nameAfter w _ (Set.mem_univ _)).tail (.tag (Set.mem_univ _))
    exact hmoves.grows
  settings := w.settings_nameAfter h _
  children x _ := w.children_nameAfter h _ x
  spared x _ hx := by
    refine w.get?_nameAfter_of_ne _ ?_
    rintro rfl
    simp [hid] at hx
  places id' _ := congrArg (·.get? (.lookup s id')) (w.merged_nameAfter h _)

theorem keepsOtherIds_withNew (hnone : w.merged.get? (.lookup s id) = none) :
    KeepsOtherIds s [id] w (w.withNew s id className) where
  grows :=
    { Assembler.Grows.refl _ with
      scene := Scene.grows_create _ _ _ _
      merged := fun _ _ => get?_insert_merged hnone }
  settings := rfl
  children x hx :=
    Scene.children_congr ((Scene.get?_create ..).trans (if_neg (Nat.ne_of_lt hx)))
  spared x hx _ := (Scene.get?_create ..).trans (if_neg (Nat.ne_of_lt hx))
  places id' hid' := by
    refine (OrderedMap.get?_insert ..).trans (if_neg ?_)
    rintro hkey
    cases hkey
    exact hid' List.mem_cons_self

/-! ## Answers -/

/-- In `a`, which a lookup from `w` has come to, `h` is the widget for the
id: the one that was meant, and else a new one of the class. -/
structure Answers (t : Task σ) (s : σ) (className : String) (containers : List Nat) (w : Work σ)
    (a : Assembler σ) (id : Int32) (h : Nat) : Prop where
  lt : h < a.scene.size
  id_eq : (a.scene.widget h).id = id
  owned : t.origin ∈ a.attribution.originsOf (a.scene.widget h).guid
  known : ∀ x, w.meant? s containers id = some x → h = x
  new : w.meant? s containers id = none → w.scene.size ≤ h ∧ ∃ guid, a.scene.get? h = some
    { id, guid, className, kind := w.kindOf className
      idVariable := (t.query.definedLocal s).getD "" }

/-- An answer stays while other ids are looked for. -/
theorem Answers.later {ids : List Int32}
    (h : Answers t s className containers w w'.toAssembler id x)
    (hkept : KeepsOtherIds s ids w' w'') (hid : id ∉ ids) :
    Answers t s className containers w w''.toAssembler id x := by
  have hsame : w''.scene.get? x = w'.scene.get? x := by
    refine hkept.spared x h.lt ?_
    rw [h.id_eq]
    exact hid
  refine ⟨Nat.lt_of_lt_of_le h.lt hkept.grows.scene.size_le, ?_, ?_, h.known, ?_⟩
  · rw [hkept.grows.scene.id_widget h.lt]
    exact h.id_eq
  · exact hkept.grows.mem_originsOf h.lt h.owned
  · intro hnone
    rw [hsame]
    exact h.new hnone

/-- An answer is the same as seen from before other ids were looked
for. -/
theorem Answers.earlier {ids : List Int32} {a : Assembler σ}
    (h : Answers t s className containers w' a id x) (hkept : KeepsOtherIds s ids w w')
    (hw : Bounded ({c | c ∈ containers}, w)) (hid : id ∉ ids) :
    Answers t s className containers w a id x := by
  have hmeant := hkept.meant?_eq hw hid
  refine ⟨h.lt, h.id_eq, h.owned, ?_, ?_⟩
  · intro y hy
    exact h.known y (hmeant.trans hy)
  · intro hnone
    obtain ⟨hlow, guid, hget⟩ := h.new (hmeant.trans hnone)
    rw [hkept.kindOf_eq] at hget
    exact ⟨hkept.grows.scene.size_le.trans hlow, guid, hget⟩

omit [DecidableEq σ] in
theorem mem_originsOf_tag (w : Work σ) (o : Origin) (h : Nat) :
    o ∈ (w.tag o h).attribution.originsOf (w.scene.widget h).guid :=
  OrderedMap.mem_tagsOf_tag.mpr (Or.inr ⟨rfl, rfl⟩)

/-- One turn: the widget for the id is the only one that may be new. -/
theorem answers_lookupOne (hw : Bounded ({c | c ∈ containers}, w))
    (hmerges : w.toAssembler.Merges 0) (id : Int32) :
    let r := lookupOne t s className containers w id
    KeepsOtherIds s [id] w r.2 ∧ Answers t s className containers w r.2.toAssembler id r.1 ∧
      ∀ h, w.scene.size ≤ h → h < r.2.scene.size → h = r.1 := by
  intro r
  cases hmeant : w.meant? s containers id with
  | some x =>
      obtain ⟨hlt, hid⟩ := of_meant hw hmerges hmeant
      have hkept : KeepsOtherIds s [id] w _ := keepsOtherIds_tag (t := t) hid
      have hsize := w.size_nameAfter x (t.query.definedLocal s)
      have hr : r = (x, (w.nameAfter x (t.query.definedLocal s)).tag t.origin x) :=
        lookupOne_of_meant hmeant
      rw [hr]
      refine ⟨hkept, ⟨Nat.lt_of_lt_of_eq hlt hsize.symm, ?_, ?_, ?_, ?_⟩, ?_⟩
      · rw [hkept.grows.scene.id_widget hlt]
        exact hid
      · exact mem_originsOf_tag _ t.origin x
      · intro y hy
        exact Option.some.inj (hmeant.symm.trans hy)
      · intro hnone
        rw [hmeant] at hnone
        cases hnone
      · intro h hlow hhigh
        have hold : h < w.scene.size := Nat.lt_of_lt_of_eq hhigh hsize
        omega
  | none =>
      let made := w.withNew s id className
      have hmade : made.scene.get? w.scene.size = some
          { id, guid := w.scene.mint.next, className, kind := w.kindOf className } :=
        (Scene.get?_create ..).trans (if_pos rfl)
      have hid : (made.scene.widget w.scene.size).id = id := by
        rw [Scene.widget, hmade]
        rfl
      have hkept : KeepsOtherIds s [id] made _ := keepsOtherIds_tag (t := t) hid
      have hsize : (made.nameAfter w.scene.size (t.query.definedLocal s)).scene.size =
          w.scene.size + 1 := (made.size_nameAfter ..).trans (Scene.size_create ..)
      have hr : r = (w.scene.size,
          (made.nameAfter w.scene.size (t.query.definedLocal s)).tag t.origin w.scene.size) :=
        lookupOne_of_not_meant hmeant
      rw [hr]
      refine ⟨(keepsOtherIds_withNew (Option.or_eq_none_iff.mp hmeant).2).trans hkept,
        ⟨Nat.lt_of_lt_of_eq (Nat.lt_succ_self _) hsize.symm, ?_, ?_, ?_, ?_⟩, ?_⟩
      · rw [hkept.grows.scene.id_widget (Scene.lt_size_of_get? hmade)]
        exact hid
      · exact mem_originsOf_tag _ t.origin w.scene.size
      · intro y hy
        rw [hmeant] at hy
        cases hy
      · intro _
        exact ⟨Nat.le_refl _, _, get?_nameAfter_self _ hmade rfl⟩
      · intro h hlow hhigh
        have hold : h < w.scene.size + 1 := Nat.lt_of_lt_of_eq hhigh hsize
        show h = w.scene.size
        omega

theorem answers_collect : ∀ {ids : List Int32} {w : Work σ}, ids.Nodup →
    Bounded ({c | c ∈ containers}, w) → w.toAssembler.Merges 0 →
    let r := collect (lookupOne t s className containers) ids w
    KeepsOtherIds s ids w r.2 ∧
      List.Forall₂ (Answers t s className containers w r.2.toAssembler) ids r.1 ∧
      ∀ h, w.scene.size ≤ h → h < r.2.scene.size → h ∈ r.1
  | [], w, _, _, _ => by
      refine ⟨.refl s [] w, .nil, ?_⟩
      intro h hlow hhigh
      exact absurd hhigh (Nat.not_lt_of_le hlow)
  | id :: ids, w, hnodup, hw, hmerges => by
      obtain ⟨hid, hrest⟩ := List.nodup_cons.mp hnodup
      intro r
      let turn := lookupOne t s className containers w id
      have hmoves : Moves t [s] ({c | c ∈ containers}, w)
          (insert turn.1 {c | c ∈ containers}, turn.2) :=
        moves_lookupOne w className id List.mem_cons_self fun c hc => hc
      have hw' : Bounded ({c | c ∈ containers}, turn.2) := by
        have hbounded := hmoves.bounded hw
        exact ⟨hbounded.toAssembler, fun c hc => hbounded.held c (Or.inr hc), hbounded.locals⟩
      have hmerges' := (Assembler.precedes_of_moves hmoves).merges 0 hmerges
      obtain ⟨hkept, hanswer, hnew⟩ := answers_lookupOne (t := t) (s := s) hw hmerges id
      obtain ⟨hkept', hanswers', hnew'⟩ := answers_collect hrest hw' hmerges'
      refine ⟨?_, .cons (hanswer.later hkept' hid) ?_, ?_⟩
      · exact (hkept.mono (by simp)).trans (hkept'.mono (List.subset_cons_self _ _))
      · have hother : ∀ id' ∈ ids, id' ∉ [id] := by
          intro id' hid' heq
          rw [List.mem_singleton.mp heq] at hid'
          exact hid hid'
        have hboth := (List.forall₂_and_left _ _).mpr ⟨hother, hanswers'⟩
        exact hboth.imp fun id' h hh => hh.2.earlier hkept hw hh.1
      · intro h hlow hhigh
        by_cases hturn : h < turn.2.scene.size
        · rw [hnew h hlow hturn]
          exact List.mem_cons_self
        · exact List.mem_cons_of_mem _ (hnew' h (Nat.le_of_not_lt hturn) hhigh)

/-! ## Steps -/

/-- The state in the middle of a method, of an assembler to which callers
have spoken of its own widgets only. -/
def Underway (w : Work σ) : Prop :=
  ∃ (a : Assembler σ) (t : Task σ) (before sites : List σ),
    a.Lawful ∧ before <+: sites ∧ run t before (a.begin t sites) = (w, none)

theorem underway_run {a : Assembler σ} {before sites : List σ} (ha : a.Lawful)
    (hbefore : before <+: sites) (hdone : (run t before (a.begin t sites)).2 = none) :
    (run t before (a.begin t sites)).1.Underway :=
  ⟨a, t, before, sites, ha, hbefore, Prod.ext rfl hdone⟩

theorem Underway.bounded (hw : w.Underway) : Bounded (∅, w) := by
  obtain ⟨a, t, before, sites, ha, hbefore, hrun⟩ := hw
  have hbounded := ha.bounded.run t hbefore
  rwa [hrun] at hbounded

theorem Underway.merges (hw : w.Underway) : w.toAssembler.Merges 0 := by
  obtain ⟨a, t, before, sites, ha, hbefore, hrun⟩ := hw
  have hmoves := moves_run (t := t) before (fun s hs => hbefore.subset hs) (a.begin t sites)
  rw [hrun] at hmoves
  exact (Assembler.precedes_of_moves hmoves).merges 0 ha.reachable.merges

/-- The state in which the ids are looked up. -/
def asked (t : Task σ) (s call : σ) (w : Work σ) : Work σ :=
  ((w.noteCall t s).askInts t (.arg 0) call).2

omit [DecidableEq σ] in
theorem asked_eq (w : Work σ) (t : Task σ) (s call : σ) :
    ∃ attribution unknowns log, w.asked t s call = { w with attribution, unknowns, log } := by
  obtain ⟨attribution, hnote⟩ := w.noteCall_eq t s
  unfold asked askInts
  rw [hnote]
  dsimp only
  split
  · exact ⟨_, _, _, rfl⟩
  · exact ⟨_, _, _, rfl⟩

theorem moves_asked (w : Work σ) (t : Task σ) (s call : σ) :
    Moves t [s] (∅, w) (∅, w.asked t s call) :=
  (moves_noteCall w List.mem_cons_self).trans (moves_askInts _ (.arg 0) call)

omit [DecidableEq σ] in
theorem bound_asked (w : Work σ) (t : Task σ) (s call : σ) (name : Option String) :
    (w.asked t s call).bound name = w.bound name := by
  obtain ⟨attribution, unknowns, log, heq⟩ := w.asked_eq t s call
  rw [heq]
  rfl

theorem keepsOtherIds_asked (w : Work σ) (t : Task σ) (s call : σ) :
    KeepsOtherIds s [] w (w.asked t s call) := by
  have hgrows := (w.moves_asked t s call).grows
  obtain ⟨attribution, unknowns, log, heq⟩ := w.asked_eq t s call
  rw [heq] at hgrows ⊢
  exact ⟨hgrows, rfl, fun _ _ => rfl, fun _ _ _ => rfl, fun _ _ => rfl⟩

/-- The widgets of a lookup, and the state before the locals are bound. -/
def looked (t : Task σ) (s call : σ) (className : String) (w : Work σ) : List Nat × Work σ :=
  collect (lookupOne t s className (w.bound (t.query.receiver call)))
    (lookupIds (t.oracle (.arg 0) call).ints) (w.asked t s call)

theorem lookup_noteCall (w : Work σ) (t : Task σ) (s call : σ) (className : String) :
    (w.noteCall t s).lookup t s call className =
      ((w.looked t s call className).2.bindLocal (t.query.definedLocal call)
        (w.looked t s call className).1).bindLocal (t.query.definedLocal s)
          (w.looked t s call className).1 := by
  unfold looked
  rw [← fst_askInts (w.noteCall t s) t (.arg 0) call, ← w.bound_asked t s call]
  rfl

theorem step_of_construction {call : σ} (hlookup : t.query.isFindViewById s = true)
    (hconstruction : t.query.constructionOf s = .ok s) (hcall : t.query.viewLookupOf s = .ok call)
    (hrhs : t.query.rhs s = some (.new className)) (w : Work σ) :
    w.step t s = (((w.looked t s call className).2.bindLocal (t.query.definedLocal call)
      (w.looked t s call className).1).bindLocal (t.query.definedLocal s)
        (w.looked t s call className).1, none) := by
  rw [step_of_action (Query.action_of_construction hlookup hconstruction hcall hrhs)]
  exact congrArg (·, none) (w.lookup_noteCall t s call className)

theorem answers_looked (hw : w.Underway) (t : Task σ) (s call : σ) (className : String) :
    List.Forall₂ (Answers t s className (w.bound (t.query.receiver call)) w
        (w.looked t s call className).2.toAssembler)
      (lookupIds (t.oracle (.arg 0) call).ints) (w.looked t s call className).1 ∧
    ∀ h, w.scene.size ≤ h → h < (w.looked t s call className).2.scene.size →
      h ∈ (w.looked t s call className).1 := by
  have hkept := w.keepsOtherIds_asked t s call
  have hmoves := w.moves_asked t s call
  have hheld : ∀ c ∈ w.bound (t.query.receiver call), c < w.scene.size := fun c hc =>
    hw.bounded.bound hc
  have hbounded : Bounded ({c | c ∈ w.bound (t.query.receiver call)}, w) :=
    ⟨hw.bounded.toAssembler, hheld, hw.bounded.locals⟩
  have hbounded' : Bounded ({c | c ∈ w.bound (t.query.receiver call)}, w.asked t s call) := by
    have hasked := hmoves.bounded hw.bounded
    refine ⟨hasked.toAssembler, ?_, hasked.locals⟩
    intro c hc
    exact Nat.lt_of_lt_of_le (hheld c hc) hkept.grows.scene.size_le
  have hmerges := (Assembler.precedes_of_moves hmoves).merges 0 hw.merges
  obtain ⟨-, hanswers, hnew⟩ := answers_collect (t := t) (s := s)
    (nodup_lookupIds (t.oracle (.arg 0) call)) hbounded' hmerges
  refine ⟨hanswers.imp fun id h hh => hh.earlier hkept hbounded List.not_mem_nil, ?_⟩
  intro h hlow hhigh
  obtain ⟨attribution, unknowns, log, heq⟩ := w.asked_eq t s call
  refine hnew h ?_ hhigh
  rw [heq]
  exact hlow

end Work

/-! ## A lookup with all three kinds of answers -/

/-- A screen is shown, a view is looked up in it, and the view is taken for
a button. -/
def Query.lookupPair : Query Nat :=
  { Query.straightLine [Toolkit.showLayout, "android.view.View findViewById(int)"] with
    isAssignment := fun s => decide (0 < s)
    rhs := fun s => if s = 2 then some (.new "android.widget.Button") else none
    predecessor := fun s => if s = 0 then none else some (s - 1)
    successor := fun s => some (s + 1)
    definedLocal := fun s => if s = 2 then some "button" else some "found" }

def Task.lookupPair (ids : List Value) : Task Nat where
  query := .lookupPair
  oracle _ s := .known (.ofList (if s = 0 then [.int 100] else ids))
  origin := .activity "Main" ""

end UiRecovery
