import UiRecovery.Proofs.Walks
import UiRecovery.Scene.Copy

/-!
# What the copying loop comes to

A copy is made by a loop that appends to the scene it reads from. This
module says what is there at the end of it (`copyWithId_eq`): the widgets
are copied in the order of the walk `depthFirst`, each onto the next free
handle with the next guid, so where a child goes is its place in that
order (`copyHandle`).

The loop and the walk go hand in hand. `Copying.Stage` is what holds in
between: which widgets were met, in what order, and which of their
children the copies hold by now. A child is attached to a copy
(`Stage.attach`) and a widget is met (`Stage.meet`) without a change to
what the scene had at the start, so the loop always reads the originals.
At the end nothing is pending, and every copy holds all of its children.

All of this is said for any `Look` that shows the widgets that can be
reached, so that it makes no difference which one it is (`copyWithIdM_eq`),
nor whether the loop is kept from looking at the copies (`run_startCopy`).
-/

namespace UiRecovery

/-! ## Widgets under another identity -/

namespace Widget

/-- The same widget under another identity, its children renamed. -/
def copyAs (e : Widget) (id : Int32) (guid : Guid) (rename : Nat → Nat) : Widget :=
  { e.mapChildren (List.map rename) with id, guid }

/-- The same widget under another identity, with other children. -/
def remade (e : Widget) (id : Int32) (guid : Guid) (children : List Nat) : Widget :=
  { e.mapChildren fun _ => children with id, guid }

variable (e : Widget) (id : Int32) (guid : Guid)

theorem children_copyAs (rename : Nat → Nat) :
    (e.copyAs id guid rename).children = e.children.map rename := by
  show (e.kind.mapChildren (List.map rename)).children = e.kind.children.map rename
  cases e.kind <;> rfl

theorem isContainer_copyAs (rename : Nat → Nat) :
    (e.copyAs id guid rename).isContainer = e.isContainer := by
  show (e.kind.mapChildren (List.map rename)).isContainer = e.kind.isContainer
  cases e.kind <;> rfl

theorem appendChildren_remade (children new : List Nat) :
    (e.remade id guid children).appendChildren new = e.remade id guid (children ++ new) := by
  unfold remade appendChildren mapChildren
  cases e.kind <;> rfl

theorem remade_map_children (rename : Nat → Nat) :
    e.remade id guid (e.children.map rename) = e.copyAs id guid rename := by
  unfold remade copyAs children mapChildren
  cases e.kind <;> rfl

end Widget

/-! ## Copies, finished and unfinished -/

theorem modify_append {α : Type} (f : α → α) (as : List α) (i : Nat) (bs : List α) :
    (as ++ bs).modify (as.length + i) f = as ++ bs.modify i f := by
  induction as with
  | nil => simp
  | cons a as ih =>
      rw [List.length_cons, Nat.succ_add]
      simp [ih]

namespace Scene

/-- The handle on which a widget found by the walk `order` is copied. -/
def copyHandle (s : Scene) (order : List Nat) (h : Nat) : Nat := s.size + order.idxOf h

/-- The copies of the widgets of `order`; the one of `root` takes `rootId`,
all others keep their ids. -/
def copies (s : Scene) (order : List Nat) (root : Nat) (rootId : Int32) : List Widget :=
  order.mapIdx fun i h =>
    let w := s.widget h
    w.copyAs (if h = root then rootId else w.id) (s.mint.nth i) (s.copyHandle order)

/-- Copies that have yet to be given some of their children: the copy of
`h` has the copies of `held h`. -/
def partialCopies (s : Scene) (root : Nat) (rootId : Int32) (order : List Nat)
    (held : Nat → List Nat) : List Widget :=
  order.mapIdx fun i h =>
    let w := s.widget h
    w.remade (if h = root then rootId else w.id) (s.mint.nth i) ((held h).map (s.copyHandle order))

variable {s : Scene} {root : Nat} {rootId : Int32} {order : List Nat} {held : Nat → List Nat}

theorem copyHandle_append {h : Nat} (hh : h ∈ order) (more : List Nat) :
    s.copyHandle (order ++ more) h = s.copyHandle order h := by
  rw [copyHandle, copyHandle, List.idxOf_append_of_mem hh]

@[simp]
theorem length_partialCopies :
    (s.partialCopies root rootId order held).length = order.length := by
  simp [partialCopies]

/-- A copy that holds the copies of all children is finished. -/
theorem partialCopies_eq_copies (hheld : ∀ h ∈ order, held h = s.children h) :
    s.partialCopies root rootId order held = s.copies order root rootId := by
  refine List.ext_getElem? fun i => ?_
  rw [partialCopies, copies, List.getElem?_mapIdx, List.getElem?_mapIdx]
  cases hi : order[i]? with
  | none => rfl
  | some h =>
      dsimp only [Option.map_some]
      rw [hheld h (List.mem_of_getElem? hi)]
      exact congrArg some (Widget.remade_map_children ..)

/-- A widget that is met has a copy without children, and no other copy
changes by that. -/
theorem partialCopies_append {y : Nat} (hy : y ∉ order) (hroot : root ∈ order)
    (hheld : ∀ h ∈ order, held h ⊆ order) (hnil : held y = []) :
    s.partialCopies root rootId (order ++ [y]) held =
      s.partialCopies root rootId order held ++
        [(s.widget y).duplicate (s.widget y).id (s.mint.nth order.length)] := by
  have hne : y ≠ root := fun heq => hy (heq ▸ hroot)
  unfold partialCopies
  rw [List.mapIdx_append]
  congr 1
  · refine List.ext_getElem? fun i => ?_
    rw [List.getElem?_mapIdx, List.getElem?_mapIdx]
    cases hi : order[i]? with
    | none => rfl
    | some h =>
        have hsame : (held h).map (s.copyHandle (order ++ [y])) =
            (held h).map (s.copyHandle order) :=
          List.map_congr_left fun c hc =>
            copyHandle_append (hheld h (List.mem_of_getElem? hi) hc) [y]
        dsimp only [Option.map_some]
        rw [hsame]
  · simp only [List.mapIdx_cons, List.mapIdx_nil, Nat.zero_add, if_neg hne, hnil, List.map_nil]
    rfl

/-- The copy of `x` is given one more child. -/
theorem modify_partialCopies (hnodup : order.Nodup) {x : Nat} (hx : x ∈ order) (y : Nat) :
    (s.partialCopies root rootId order held).modify (order.idxOf x)
        (·.appendChildren [s.copyHandle order y]) =
      s.partialCopies root rootId order (Function.update held x (held x ++ [y])) := by
  refine List.ext_getElem? fun i => ?_
  rw [List.getElem?_modify, partialCopies, partialCopies, List.getElem?_mapIdx,
    List.getElem?_mapIdx]
  cases hi : order[i]? with
  | none => simp
  | some h =>
      obtain ⟨hlt, rfl⟩ := List.getElem?_eq_some_iff.mp hi
      have hidx : order.idxOf x = i ↔ order[i] = x := by
        constructor
        · rintro rfl
          exact List.getElem_idxOf hlt
        · rintro rfl
          exact hnodup.idxOf_getElem i hlt
      by_cases hhere : order[i] = x
      · simp only [hidx.mpr hhere, hhere, Option.map_some, if_true, Function.update_self,
          List.map_append, List.map_cons, List.map_nil]
        exact congrArg some (Widget.appendChildren_remade ..)
      · have hother : order.idxOf x ≠ i := mt hidx.mp hhere
        simp only [if_neg hother, Option.map_some, Function.update_of_ne hhere]
        rfl

end Scene

/-! ## One step of the loop -/

/-- A copy in progress. The widgets of `found` were met in this order, and
the copy of each holds the copies of `held` by now. -/
structure Copying.Stage (s : Scene) (root : Nat) (rootId : Int32) (found : List Nat)
    (held : Nat → List Nat) (c : Copying) : Prop where
  widgets : c.scene.widgets = s.widgets ++ s.partialCopies root rootId found held
  mint : c.scene.mint = s.mint.advance found.length
  copied : ∀ x, c.copied.get? x = if x ∈ found then some (s.copyHandle found x) else none
  root_mem : root ∈ found
  nodup : found.Nodup
  held_subset : ∀ x ∈ found, held x ⊆ found
  held_nil : ∀ x, x ∉ found ∨ x ∈ c.pending → held x = []
  pending_nodup : c.pending.Nodup
  pending_subset : c.pending ⊆ found

namespace Copying.Stage

variable {s : Scene} {root : Nat} {rootId : Int32} {found : List Nat} {held : Nat → List Nat}
  {c : Copying} {x y : Nat}

theorem size_eq (hc : Stage s root rootId found held c) :
    c.scene.size = s.size + found.length := by
  rw [Scene.size, hc.widgets, List.length_append, Scene.length_partialCopies]
  rfl

theorem attach (hc : Stage s root rootId found held c) (hx : x ∈ found) (hturn : x ∉ c.pending)
    (hy : y ∈ found) :
    Stage s root rootId found (Function.update held x (held x ++ [y]))
      (c.attach (s.copyHandle found x) (s.copyHandle found y)) where
  widgets := by
    show List.modify c.scene.widgets (s.widgets.length + found.idxOf x) _ = _
    rw [hc.widgets, modify_append, Scene.modify_partialCopies hc.nodup hx]
  mint := hc.mint
  copied := hc.copied
  root_mem := hc.root_mem
  nodup := hc.nodup
  held_subset z hz := by
    by_cases hzx : z = x
    · subst hzx
      rw [Function.update_self]
      exact List.append_subset.mpr ⟨hc.held_subset z hz, by simpa using hy⟩
    · rw [Function.update_of_ne hzx]
      exact hc.held_subset z hz
  held_nil z hz := by
    have hzx : z ≠ x := by
      rintro rfl
      exact hz.elim (fun hout => hout hx) hturn
    rw [Function.update_of_ne hzx]
    exact hc.held_nil z hz
  pending_nodup := hc.pending_nodup
  pending_subset := hc.pending_subset

/-- A widget is met for the first time. -/
theorem meet (hc : Stage s root rootId found held c) (hy : y ∉ found) :
    Stage s root rootId (found ++ [y]) held
      { scene := (c.scene.duplicate (s.widget y) (s.widget y).id).2
        copied := c.copied.insert y c.scene.size
        pending := y :: c.pending } where
  widgets := by
    rw [Scene.partialCopies_append hy hc.root_mem hc.held_subset (hc.held_nil y (Or.inl hy)),
      ← List.append_assoc, ← hc.widgets]
    show c.scene.widgets ++ [(s.widget y).duplicate _ (c.scene.mint.nth 0)] = _
    rw [hc.mint]
    rfl
  mint := by
    show c.scene.mint.advance 1 = _
    rw [hc.mint, Mint.advance_advance, List.length_append]
    rfl
  copied z := by
    rw [OrderedMap.get?_insert, hc.copied z]
    by_cases hzy : z = y
    · subst hzy
      rw [if_pos rfl, if_pos (List.mem_append_right found List.mem_cons_self), hc.size_eq,
        Scene.copyHandle, List.idxOf_append_of_notMem hy, List.idxOf_cons_self, Nat.add_zero]
    · rw [if_neg hzy]
      by_cases hz : z ∈ found
      · rw [if_pos hz, if_pos (List.mem_append_left _ hz), Scene.copyHandle_append hz]
      · rw [if_neg hz, if_neg (by simp [hz, hzy])]
  root_mem := List.mem_append_left _ hc.root_mem
  nodup := by
    refine List.nodup_append.mpr ⟨hc.nodup, List.nodup_singleton y, ?_⟩
    rintro z hz w hw rfl
    exact hy (List.mem_singleton.mp hw ▸ hz)
  held_subset z hz := by
    rcases List.mem_append.mp hz with hz | hz
    · exact fun w hw => List.mem_append_left _ (hc.held_subset z hz hw)
    · rw [List.mem_singleton.mp hz, hc.held_nil y (Or.inl hy)]
      exact List.nil_subset _
  held_nil z hz := by
    by_cases hzy : z = y
    · exact hc.held_nil z (Or.inl (hzy ▸ hy))
    · refine hc.held_nil z (hz.imp (mt (List.mem_append_left _)) fun hz => ?_)
      exact (List.mem_cons.mp hz).resolve_left hzy
  pending_nodup := List.nodup_cons.mpr
    ⟨fun hpending => hy (hc.pending_subset hpending), hc.pending_nodup⟩
  pending_subset := by
    rintro z hz
    rcases List.mem_cons.mp hz with rfl | hz
    · exact List.mem_append_right found List.mem_cons_self
    · exact List.mem_append_left _ (hc.pending_subset hz)

/-- It is the turn of the widget on top. -/
theorem pop {source : Nat} {pending : List Nat} (hc : Stage s root rootId found held c)
    (hpending : c.pending = source :: pending) :
    Stage s root rootId found held { c with pending } := by
  have hnodup := hpending ▸ hc.pending_nodup
  exact
    { hc with
      held_nil := fun z hz => hc.held_nil z (hz.imp_right fun hz => by
        rw [hpending]
        exact List.mem_cons_of_mem _ hz)
      pending_nodup := (List.nodup_cons.mp hnodup).2
      pending_subset := fun z hz => hc.pending_subset (by
        rw [hpending]
        exact List.mem_cons_of_mem _ hz) }

end Copying.Stage

/-! ## The whole loop -/

/-- What is shown at `x` is the widget of `s`, whatever is appended to the
scene, where the part up to `limit` is looked at. -/
def Look.Shows {m : Type → Type} [Monad m] (look : Look m) (limit : Nat) (s : Scene) (x : Nat) :
    Prop :=
  ∀ more, look ((s.widgets ++ more).take limit) x = pure (s.widget x)

/-- Up to where the scene ended at the start nothing changes. -/
theorem Look.shows_size {m : Type → Type} [Monad m] {look : Look m} {s : Scene} {x : Nat}
    (hlook : look s.widgets x = pure (s.widget x)) : look.Shows s.size s x := by
  intro more
  rw [Scene.size, List.take_left]
  exact hlook

namespace Copying

variable {m : Type → Type} [Monad m] [LawfulMonad m] {look : Look m} {limit : Nat} {s : Scene}
  {root : Nat} {rootId : Int32}

theorem addChild_stage {found : List Nat} {held : Nat → List Nat} {c : Copying} {x y : Nat}
    (hc : Stage s root rootId found held c) (hx : x ∈ found) (hturn : x ∉ c.pending)
    (hlook : look.Shows limit s y) :
    ∃ c', addChild look limit (s.copyHandle found x) c y = pure c' ∧
      Stage s root rootId (found ++ fresh found [y]) (Function.update held x (held x ++ [y])) c' ∧
      c'.pending = placeLast (fresh found [y]) c.pending := by
  unfold addChild
  rw [hc.copied y]
  by_cases hy : y ∈ found
  · rw [if_pos hy, fresh, if_pos hy, fresh, List.append_nil]
    exact ⟨_, rfl, hc.attach hx hturn hy, rfl⟩
  · rw [if_neg hy, fresh, if_neg hy, fresh]
    dsimp only
    rw [hc.widgets, hlook, pure_bind]
    have hmet := hc.meet hy
    have hxy : x ∉ y :: c.pending := by
      rintro hmem
      rcases List.mem_cons.mp hmem with rfl | hmem
      · exact hy hx
      · exact hturn hmem
    have hhandle : c.scene.size = s.copyHandle (found ++ [y]) y := by
      rw [hc.size_eq, Scene.copyHandle, List.idxOf_append_of_notMem hy, List.idxOf_cons_self,
        Nat.add_zero]
    have hdone := hmet.attach (List.mem_append_left [y] hx) hxy
      (List.mem_append_right found List.mem_cons_self)
    rw [Scene.copyHandle_append hx, ← hhandle] at hdone
    exact ⟨_, rfl, hdone, rfl⟩

/-- The children of `x` are gone through one by one. -/
theorem addChildren_stage {x : Nat} : ∀ (children : List Nat) {found : List Nat}
    {held : Nat → List Nat} {c : Copying}, Stage s root rootId found held c → x ∈ found →
    x ∉ c.pending → (∀ y ∈ children, look.Shows limit s y) →
    ∃ c', children.foldlM (addChild look limit (s.copyHandle found x)) c = pure c' ∧
      Stage s root rootId (found ++ fresh found children)
        (Function.update held x (held x ++ children)) c' ∧
      c'.pending = placeLast (fresh found children) c.pending
  | [], found, held, c, hc, _, _, _ => by
      refine ⟨c, rfl, ?_, rfl⟩
      rw [fresh, List.append_nil, List.append_nil, Function.update_eq_self]
      exact hc
  | y :: children, found, held, c, hc, hx, hturn, hlook => by
      obtain ⟨c₁, hstep, hc₁, hpending₁⟩ := addChild_stage hc hx hturn (hlook y List.mem_cons_self)
      have hturn₁ : x ∉ c₁.pending := by
        rw [hpending₁, placeLast, List.mem_append, List.mem_reverse, mem_fresh]
        exact fun h => h.elim (fun h => h.2 hx) hturn
      obtain ⟨c₂, hrest, hc₂, hpending₂⟩ := addChildren_stage children hc₁
        (List.mem_append_left _ hx) hturn₁ fun z hz => hlook z (List.mem_cons_of_mem y hz)
      -- What is met by the child and by those after it is what is met by all.
      have hfresh : fresh found [y] ++ fresh (found ++ fresh found [y]) children =
          fresh found (y :: children) :=
        (fresh_append found [y] children).symm
      refine ⟨c₂, ?_, ?_, ?_⟩
      · rw [List.foldlM_cons, hstep, pure_bind, ← hrest, Scene.copyHandle_append hx]
      · rw [List.append_assoc, hfresh, Function.update_self, Function.update_idem,
          List.append_assoc] at hc₂
        exact hc₂
      · rw [hpending₂, hpending₁, placeLast, placeLast, placeLast, ← hfresh, List.reverse_append,
          List.append_assoc]

theorem expand_stage {found : List Nat} {held : Nat → List Nat} {c : Copying} {source : Nat}
    {pending : List Nat} (hc : Stage s root rootId found held c)
    (hpending : c.pending = source :: pending)
    (hlook : ∀ y, y = source ∨ y ∈ s.children source → look.Shows limit s y) :
    ∃ c', expand look limit { c with pending } source = pure c' ∧
      Stage s root rootId (found ++ fresh found (s.children source))
        (Function.update held source (s.children source)) c' ∧
      c'.pending = placeLast (fresh found (s.children source)) pending := by
  have hsource : source ∈ c.pending := hpending ▸ List.mem_cons_self
  have hturn : source ∉ pending := (List.nodup_cons.mp (hpending ▸ hc.pending_nodup)).1
  obtain ⟨c', hloop, hc', hrest⟩ := addChildren_stage (s.children source) (hc.pop hpending)
    (hc.pending_subset hsource) hturn fun y hy => hlook y (Or.inr hy)
  refine ⟨c', ?_, ?_, hrest⟩
  · unfold expand
    dsimp only
    rw [hc.copied source, if_pos (hc.pending_subset hsource)]
    dsimp only
    rw [hc.widgets, hlook source (Or.inl rfl), pure_bind]
    exact hloop
  · rwa [hc.held_nil source (Or.inr hsource), List.nil_append] at hc'

/-- The loop finds what the walk finds, and is over when the walk is. -/
theorem run_stage (hlook : ∀ x, s.Reaches root x → look.Shows limit s x) :
    ∀ {steps : Nat} {found : List Nat} {held : Nat → List Nat} {c : Copying},
      Exploring s.children (root :: s.attached) steps found c.pending →
      Stage s root rootId found held c →
      (∀ x ∈ found, x ∉ c.pending → held x = s.children x) →
      (∀ x ∈ found, s.Reaches root x) →
      ∃ c' held', run look limit steps c = pure c' ∧
        Stage s root rootId (explore s.children placeLast steps found c.pending) held' c' ∧
        c'.pending = [] ∧
        ∀ x ∈ explore s.children placeLast steps found c.pending, held' x = s.children x
  | 0, found, held, c, hw, hc, hheld, _ => by
      have hover := hw.waiting_eq_nil
      rw [hover] at hheld
      exact ⟨c, held, rfl, hc, hover, fun x hx => hheld x hx List.not_mem_nil⟩
  | steps + 1, found, held, c, hw, hc, hheld, hreach => by
      cases hpending : c.pending with
      | nil =>
          rw [hpending] at hheld
          refine ⟨c, held, ?_, hc, hpending, fun x hx => hheld x hx List.not_mem_nil⟩
          rw [run, hpending]
      | cons source pending =>
          have hsource : s.Reaches root source := by
            refine hreach source (hc.pending_subset ?_)
            rw [hpending]
            exact List.mem_cons_self
          obtain ⟨c₁, hexpand, hc₁, hpending₁⟩ := expand_stage hc hpending fun y hy =>
            hlook y (hy.elim (fun heq => heq ▸ hsource) hsource.tail)
          rw [hpending] at hw
          have hw₁ := hw.step (s.children_subset_cons root) placeLast_perm
          rw [← hpending₁] at hw₁
          have hheld₁ : ∀ x ∈ found ++ fresh found (s.children source), x ∉ c₁.pending →
              Function.update held source (s.children source) x = s.children x := by
            intro x hx hout
            rw [hpending₁, placeLast, List.mem_append, List.mem_reverse, not_or] at hout
            by_cases hxs : x = source
            · rw [hxs, Function.update_self]
            · rw [Function.update_of_ne hxs]
              refine hheld x ((List.mem_append.mp hx).resolve_right hout.1) ?_
              rw [hpending]
              exact fun hmem => hout.2 ((List.mem_cons.mp hmem).resolve_left hxs)
          have hreach₁ : ∀ x ∈ found ++ fresh found (s.children source), s.Reaches root x := by
            intro x hx
            rcases List.mem_append.mp hx with hx | hx
            · exact hreach x hx
            · exact hsource.tail (mem_fresh.mp hx).1
          obtain ⟨c', held', hrun, hdone⟩ := run_stage hlook hw₁ hc₁ hheld₁ hreach₁
          refine ⟨c', held', ?_, ?_⟩
          · rw [run, hpending]
            dsimp only
            rw [hexpand, pure_bind, hrun]
          · rw [explore_cons, ← hpending₁]
            exact hdone

end Copying

namespace Scene

theorem stage_startCopy (s : Scene) (h : Nat) (id : Int32) :
    Copying.Stage s h id [h] (fun _ => []) (s.startCopy h (s.widget h) id).2 where
  widgets := by
    have hroot : s.partialCopies h id [h] (fun _ => []) =
        [(s.widget h).duplicate id s.mint.next] := by
      simp only [partialCopies, List.mapIdx_cons, List.mapIdx_nil, List.map_nil, if_true]
      rfl
    rw [hroot]
    rfl
  mint := rfl
  copied x := by
    show (OrderedMap.insert ∅ h s.size).get? x = _
    rw [OrderedMap.get?_insert]
    by_cases hx : x = h
    · rw [if_pos hx, if_pos (List.mem_singleton.mpr hx), hx, copyHandle, List.idxOf_cons_self,
        Nat.add_zero]
    · rw [if_neg hx, if_neg (mt List.mem_singleton.mp hx)]
      rfl
  root_mem := List.mem_cons_self
  nodup := List.nodup_singleton h
  held_subset _ _ := List.nil_subset _
  held_nil _ _ := rfl
  pending_nodup := List.nodup_singleton h
  pending_subset := List.Subset.refl _

section

variable {m : Type → Type} [Monad m] [LawfulMonad m] {look : Look m} {s : Scene} {h : Nat}

/-- However many steps the loop is given beyond its bound, it is over after
the same copies. -/
theorem run_startCopy {limit : Nat} (hlook : ∀ x, s.Reaches h x → look.Shows limit s x)
    (id : Int32) {n : Nat} (hn : s.walkBound ≤ n) :
    ∃ c, Copying.run look limit n (s.startCopy h (s.widget h) id).2 = pure c ∧
      c.pending = [] ∧
      c.scene =
        { widgets := s.widgets ++ s.copies (s.depthFirst h) h id
          mint := s.mint.advance (s.depthFirst h).length } := by
  have hw : Exploring s.children (h :: s.attached) n [h] [h] :=
    { s.exploring h with
      budget := Nat.le_trans (s.exploring h).budget (Nat.add_le_add_right hn _) }
  obtain ⟨c, held, hrun, hstage, hover, hheld⟩ :=
    Copying.run_stage hlook hw (s.stage_startCopy h id) (fun x hx hout => absurd hx hout)
      fun x hx => List.mem_singleton.mp hx ▸ .refl
  have hwalk : explore s.children placeLast n [h] (s.startCopy h (s.widget h) id).2.pending =
      s.depthFirst h :=
    (depthFirst_eq hn).symm
  rw [hwalk] at hstage hheld
  refine ⟨c, hrun, hover, ?_⟩
  rw [← partialCopies_eq_copies hheld, ← hstage.widgets, ← hstage.mint]

theorem copyWithIdM_eq (hlook : ∀ x, s.Reaches h x → look s.widgets x = pure (s.widget x))
    (id : Int32) :
    s.copyWithIdM look h id =
      pure (s.size,
        { widgets := s.widgets ++ s.copies (s.depthFirst h) h id
          mint := s.mint.advance (s.depthFirst h).length }) := by
  obtain ⟨c, hrun, -, hscene⟩ :=
    run_startCopy (fun x hx => Look.shows_size (hlook x hx)) id (Nat.le_refl _)
  unfold copyWithIdM
  rw [hlook h .refl, pure_bind]
  dsimp only
  rw [hrun, pure_bind, hscene]
  rfl

end

/-- The widgets that are held are copied one after the other, in the order
of the walk. -/
theorem copyWithId_eq (s : Scene) (h : Nat) (id : Int32) :
    s.copyWithId h id =
      (s.size,
        { widgets := s.widgets ++ s.copies (s.depthFirst h) h id
          mint := s.mint.advance (s.depthFirst h).length }) := by
  have hblank : ∀ x, s.Reaches h x → Look.blank (m := Id) s.widgets x = pure (s.widget x) :=
    fun _ _ => rfl
  exact copyWithIdM_eq hblank id

theorem widgets_copyWithId (s : Scene) (h : Nat) (id : Int32) :
    (s.copyWithId h id).2.widgets = s.widgets ++ s.copies (s.depthFirst h) h id := by
  rw [copyWithId_eq]

theorem mint_copyWithId (s : Scene) (h : Nat) (id : Int32) :
    (s.copyWithId h id).2.mint = s.mint.advance (s.depthFirst h).length := by
  rw [copyWithId_eq]

/-- How the loop looks behind handles makes no difference. -/
theorem copyM_eq {m : Type → Type} [Monad m] [LawfulMonad m] {look : Look m} {s : Scene} {h : Nat}
    (hlook : ∀ x, s.Reaches h x → look s.widgets x = pure (s.widget x)) :
    s.copyM look h = pure (s.copy h) := by
  unfold copyM
  rw [hlook h .refl, pure_bind, copyWithIdM_eq hlook, copy_eq, copyWithId_eq]

variable {s : Scene} {h x : Nat}

@[simp]
theorem length_copies (s : Scene) (order : List Nat) (root : Nat) (rootId : Int32) :
    (s.copies order root rootId).length = order.length := by
  simp [copies]

@[simp]
theorem size_copyWithId (s : Scene) (h : Nat) (id : Int32) :
    (s.copyWithId h id).2.size = s.size + (s.depthFirst h).length := by
  simp [copyWithId_eq, size]

/-- A copy changes no widget that was there before. -/
theorem get?_copyWithId_of_lt (s : Scene) {h x : Nat} (id : Int32) (hx : x < s.size) :
    (s.copyWithId h id).2.get? x = s.get? x := by
  rw [copyWithId_eq]
  exact List.getElem?_append_left hx

/-! ## The copies -/

theorem get?_copyWithId_add (s : Scene) (h : Nat) (id : Int32) (i : Nat) :
    (s.copyWithId h id).2.get? (s.size + i) =
      ((s.depthFirst h)[i]?).map fun x =>
        (s.widget x).copyAs (if x = h then id else (s.widget x).id) (s.mint.nth i)
          (s.copyHandle (s.depthFirst h)) := by
  have happend : (s.copyWithId h id).2.get? (s.size + i) =
      (s.copies (s.depthFirst h) h id)[i]? := by
    rw [copyWithId_eq]
    show (s.widgets ++ s.copies (s.depthFirst h) h id)[s.widgets.length + i]? = _
    rw [List.getElem?_append_right (Nat.le_add_right _ _), Nat.add_sub_cancel_left]
  rw [happend, copies, List.getElem?_mapIdx]

/-- The handle of a copy is that of the widget at its place in the walk. -/
theorem copyHandle_getElem {i : Nat} (hi : (s.depthFirst h)[i]? = some x) :
    s.copyHandle (s.depthFirst h) x = s.size + i := by
  obtain ⟨hlt, rfl⟩ := List.getElem?_eq_some_iff.mp hi
  rw [copyHandle, (s.nodup_depthFirst h).idxOf_getElem i hlt]

theorem copyHandle_lt (id : Int32) (hx : s.Reaches h x) :
    s.copyHandle (s.depthFirst h) x < (s.copyWithId h id).2.size := by
  have hidx : (s.depthFirst h).idxOf x < (s.depthFirst h).length :=
    List.idxOf_lt_length_of_mem (mem_depthFirst.mpr hx)
  rw [size_copyWithId]
  exact Nat.add_lt_add_left hidx s.size

theorem copyHandle_root (s : Scene) (h : Nat) : s.copyHandle (s.depthFirst h) h = s.size := by
  obtain ⟨rest, hrest⟩ := s.prefix_depthFirst h
  exact copyHandle_getElem (i := 0) (by rw [← hrest]; rfl)

theorem children_copyWithId (s : Scene) (id : Int32) (hx : s.Reaches h x) :
    (s.copyWithId h id).2.children (s.copyHandle (s.depthFirst h) x) =
      (s.children x).map (s.copyHandle (s.depthFirst h)) := by
  obtain ⟨i, hi⟩ := List.getElem?_of_mem (mem_depthFirst.mpr hx)
  have hcopy := s.get?_copyWithId_add h id i
  rw [hi, Option.map_some] at hcopy
  rw [copyHandle_getElem hi, children_of_get? hcopy, Widget.children_copyAs]
  rfl

/-- A copy is reached from the copy of its root. -/
theorem reaches_copyHandle (s : Scene) (id : Int32) (hx : s.Reaches h x) :
    (s.copyWithId h id).2.Reaches s.size (s.copyHandle (s.depthFirst h) x) := by
  induction hx with
  | refl =>
      rw [copyHandle_root]
      exact .refl
  | @tail x y hx hy ih =>
      refine ih.tail ?_
      rw [children_copyWithId s id hx]
      exact List.mem_map_of_mem hy

/-- Every widget that a copy adds is reached from the copy of its root. -/
theorem reaches_of_copyWithId (s : Scene) (id : Int32) (hlow : s.size ≤ x)
    (hhigh : x < (s.copyWithId h id).2.size) : (s.copyWithId h id).2.Reaches s.size x := by
  rw [size_copyWithId] at hhigh
  have hlt : x - s.size < (s.depthFirst h).length := by omega
  have hget := List.getElem?_eq_getElem hlt
  have hreach := s.reaches_copyHandle id (reaches_of_mem_depthFirst (List.getElem_mem hlt))
  rwa [copyHandle_getElem hget, Nat.add_sub_cancel' hlow] at hreach

end Scene

end UiRecovery
