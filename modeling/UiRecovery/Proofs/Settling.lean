import UiRecovery.Proofs.Persistence

/-!
# Work that has nothing left to do

The same code may be worked through twice. Whatever it says of widgets
that it had met before, it says again, and whatever it attaches is already
there. This file makes that precise for single operations, in a form that
composes.

`Work.Settles f w` compares `f` at `w` with `f` at any later state `v` in
which the locals denote what they denoted at `w`: there `f` leaves the
interface as it is, and leaves the locals as it left them at `w`. "Later"
is later than `f w`, and that is what makes a sequence of operations settle
(`Settles.comp`): the second run meets each operation with everything in
place that the first run did after it.
-/

namespace UiRecovery

/-! ## Collections that hold it all -/

theorem OrderedSet.insertAll_of_mem {α : Type} [DecidableEq α] {s : OrderedSet α} {as : List α}
    (h : ∀ a ∈ as, a ∈ s) : s.insertAll as = s := by
  induction as with
  | nil => rfl
  | cons a as ih =>
      rw [insertAll_cons, insert_of_mem (h a List.mem_cons_self)]
      exact ih fun b hb => h b (List.mem_cons_of_mem a hb)

namespace OrderedMap

variable {κ ν : Type} [DecidableEq κ] {k : κ} {v : ν} {f : Option ν → ν}

theorem updateEntries_eq_self {l : List (κ × ν)} (hget : valueAt k l = some v)
    (hf : f (some v) = v) : updateEntries k f l = l := by
  induction l with
  | nil => cases hget
  | cons e l ih =>
      obtain ⟨k', v'⟩ := e
      unfold valueAt at hget
      unfold updateEntries
      by_cases hk : k' = k
      · rw [if_pos hk] at hget ⊢
        obtain rfl := Option.some.inj hget
        rw [hf]
      · rw [if_neg hk] at hget ⊢
        rw [ih hget]

theorem update_eq_self {m : OrderedMap κ ν} (hget : m.get? k = some v) (hf : f (some v) = v) :
    m.update k f = m :=
  OrderedMap.ext (updateEntries_eq_self hget hf)

end OrderedMap

/-! ## States that differ in nothing that matters -/

namespace Work

section

variable {σ : Type} {t : Task σ} {w w' w'' v : Work σ}

/-- The locals denote the same in both states. What the drafts hold may
differ. -/
structure SameNames (w v : Work σ) : Prop where
  locals : v.locals = w.locals
  draftLocals : v.draftLocals = w.draftLocals
  drafts : v.drafts.length = w.drafts.length

theorem SameNames.refl (w : Work σ) : SameNames w w := ⟨rfl, rfl, rfl⟩

theorem SameNames.symm (h : SameNames w v) : SameNames v w :=
  ⟨h.locals.symm, h.draftLocals.symm, h.drafts.symm⟩

theorem SameNames.trans (h : SameNames w w') (h' : SameNames w' w'') : SameNames w w'' :=
  ⟨h'.locals.trans h.locals, h'.draftLocals.trans h.draftLocals, h'.drafts.trans h.drafts⟩

theorem SameNames.bound (h : SameNames w v) (name : Option String) :
    v.bound name = w.bound name := by
  unfold Work.bound
  rw [h.locals]

/-- Neither the interface nor the locals change. -/
structure Quiet (w w' : Work σ) : Prop where
  still : w.toAssembler.Still w'.toAssembler
  names : SameNames w w'

theorem Quiet.refl (w : Work σ) : Quiet w w := ⟨.refl _, .refl w⟩

theorem Quiet.trans (h : Quiet w w') (h' : Quiet w' w'') : Quiet w w'' :=
  ⟨h.still.trans h'.still, h.names.trans h'.names⟩

instance : IsPreorder (Work σ) Quiet where
  refl := .refl
  trans _ _ _ := .trans

/-! ## Operations that leave the interface alone -/

theorem quiet_tag (o : Origin) (h : Nat) : Quiet w (w.tag o h) :=
  ⟨⟨rfl, rfl, rfl, rfl, rfl⟩, ⟨rfl, rfl, rfl⟩⟩

theorem quiet_tagTree (o : Origin) (h : Nat) : Quiet w (w.tagTree o h) := by
  rw [tagTree_eq]
  exact foldl_related (fun x _ _ => quiet_tag o x) w

theorem quiet_tagTrees (o : Origin) (hs : List Nat) (w : Work σ) :
    Quiet w (hs.foldl (fun w h => w.tagTree o h) w) :=
  foldl_related (fun h _ _ => quiet_tagTree o h) w

theorem quiet_askInts (ref : ValueRef) (s : σ) : Quiet w (w.askInts t ref s).2 := by
  unfold askInts
  dsimp only
  split
  · exact ⟨⟨rfl, rfl, rfl, rfl, rfl⟩, ⟨rfl, rfl, rfl⟩⟩
  · exact .refl w

theorem quiet_askLabels (ref : ValueRef) (s : σ) : Quiet w (w.askLabels t ref s).2 := by
  unfold askLabels
  dsimp only
  split
  · exact ⟨⟨rfl, rfl, rfl, rfl, rfl⟩, ⟨rfl, rfl, rfl⟩⟩
  · exact .refl w

theorem quiet_askIntsAt (position : Option Nat) (s : σ) :
    Quiet w (w.askIntsAt t position s).2 := by
  cases position with
  | none => exact .refl w
  | some i => exact quiet_askInts (.arg i) s

theorem quiet_askLabelsAt (position : Option Nat) (s : σ) :
    Quiet w (w.askLabelsAt t position s).2 := by
  cases position with
  | none => exact .refl w
  | some i => exact quiet_askLabels (.arg i) s

theorem quiet_advanceMint (n : Nat) : Quiet w { w with scene := w.scene.advanceMint n } :=
  ⟨⟨rfl, rfl, rfl, rfl, rfl⟩, ⟨rfl, rfl, rfl⟩⟩

theorem quiet_modifyDraft (draft : Nat) (f : Dialog → Dialog) : Quiet w (w.modifyDraft draft f) :=
  ⟨⟨rfl, rfl, rfl, rfl, rfl⟩, ⟨rfl, rfl, List.length_modify ..⟩⟩

theorem quiet_showMenu (type : MenuType) (id : Int64) : Quiet w (w.showMenu t type id) := by
  unfold showMenu
  split
  · exact ⟨⟨rfl, rfl, rfl, rfl, rfl⟩, ⟨rfl, rfl, rfl⟩⟩
  · exact ⟨⟨rfl, rfl, rfl, rfl, rfl⟩, ⟨rfl, rfl, rfl⟩⟩

theorem quiet_inflateMenu (s : σ) : Quiet w (w.inflateMenu t s) :=
  (quiet_askInts (.arg 0) s).trans (foldl_related (fun _ _ _ => quiet_showMenu _ _) _)

theorem quiet_noteCall (s : σ) : Quiet w (w.noteCall t s) := by
  unfold noteCall
  split
  · split
    · exact ⟨⟨rfl, rfl, rfl, rfl, rfl⟩, ⟨rfl, rfl, rfl⟩⟩
    · exact .refl w
  · exact .refl w

theorem Quiet.bindDraft (h : Quiet w w') (name : Option String) (draft : Nat) :
    Quiet (w.bindDraft name draft) (w'.bindDraft name draft) := by
  cases name with
  | none => exact h
  | some name =>
      exact ⟨h.still, h.names.locals, congrArg (·.insert name draft) h.names.draftLocals,
        h.names.drafts⟩

/-- A call on a builder changes the draft, draws a guid for a button and
gives the builder back. -/
theorem quiet_dialogCall (s : σ) (signature : String) (draft : Nat) :
    Quiet (w.bindDraft (t.query.definedLocal s) draft) (w.dialogCall t s signature draft) := by
  unfold dialogCall
  refine Quiet.bindDraft ?_ _ _
  have hask : Quiet w (w.askLabels t (.arg 0) s).2 := quiet_askLabels (.arg 0) s
  split
  · exact hask.trans (quiet_modifyDraft _ _)
  · split
    · exact hask.trans (quiet_modifyDraft _ _)
    · split
      · exact hask.trans (quiet_modifyDraft _ _)
      · split
        · split
          · exact .refl w
          · have hasked := hask.trans (quiet_askLabels (t := t) (.arg 1) s)
            exact (hasked.trans (quiet_advanceMint 1)).trans (quiet_modifyDraft _ _)
        · exact .refl w

end

/-! ## The calculus -/

variable {σ : Type} [DecidableEq σ] {f g : Work σ → Work σ} {w w' v : Work σ}

/-- Places and locals only denote widgets that exist. -/
structure Ready (w : Work σ) : Prop where
  merged : ∀ key h, w.merged.get? key = some h → h < w.scene.size
  locals : ∀ name, ∀ h ∈ w.bound name, h < w.scene.size

theorem Quiet.ready (h : Quiet w w') (hw : w.Ready) : w'.Ready where
  merged key x hget := by
    rw [h.still.merged] at hget
    rw [h.still.size]
    exact hw.merged key x hget
  locals name x hx := by
    rw [h.names.bound] at hx
    rw [h.still.size]
    exact hw.locals name x hx

/-- Done at `w`, the operation has nothing left to do later. -/
structure Settles (f : Work σ → Work σ) (w : Work σ) : Prop where
  keeps : w.toAssembler.Keeps (f w).toAssembler
  ready : (f w).Ready
  again : ∀ v, SameNames w v → (f w).toAssembler.Keeps v.toAssembler →
    v.toAssembler.Still (f v).toAssembler ∧ SameNames (f w) (f v)

theorem settles_id (hw : w.Ready) : Settles (fun w => w) w where
  keeps := .refl _
  ready := hw
  again v hnames _ := ⟨.refl v.toAssembler, hnames⟩

theorem Settles.comp (hf : Settles f w) (hg : Settles g (f w)) :
    Settles (fun w => g (f w)) w where
  keeps := hf.keeps.trans hg.keeps
  ready := hg.ready
  again v hnames hkeep := by
    obtain ⟨hstill, hnames'⟩ := hf.again v hnames (hg.keeps.trans hkeep)
    obtain ⟨hstill', hnames''⟩ := hg.again (f v) hnames' (hkeep.trans hstill.keeps)
    exact ⟨hstill.trans hstill', hnames''⟩

/-- An operation that may draw guids or keep records on the way settles as
one that does not. -/
theorem Settles.of_quiet (hg : Settles g w) (hf : ∀ w, Quiet (g w) (f w)) : Settles f w where
  keeps := hg.keeps.trans (hf w).still.keeps
  ready := (hf w).ready hg.ready
  again v hnames hkeep := by
    have hkeep' := (hf w).still.keeps.trans hkeep
    obtain ⟨hstill, hnames'⟩ := hg.again v hnames hkeep'
    exact ⟨hstill.trans (hf v).still, ((hf w).names.symm.trans hnames').trans (hf v).names⟩

theorem settles_quiet (hw : w.Ready) (hf : ∀ w, Quiet w (f w)) : Settles f w :=
  (settles_id hw).of_quiet hf

/-- It is enough that an operation comes to the same as another one from
`w` on. What it reads from the state can be taken for fixed in this way. -/
theorem Settles.congr (hg : Settles g w)
    (heq : ∀ v, SameNames w v → w.toAssembler.Keeps v.toAssembler → f v = g v) : Settles f w := by
  have hfirst : f w = g w := heq w (.refl w) (.refl _)
  refine ⟨hfirst ▸ hg.keeps, hfirst ▸ hg.ready, ?_⟩
  intro v hnames hkeep
  rw [hfirst] at hkeep ⊢
  rw [heq v hnames (hg.keeps.trans hkeep)]
  exact hg.again v hnames hkeep

theorem settles_foldl {α : Type} {step : Work σ → α → Work σ} {n : Nat} :
    ∀ {as : List α}, (∀ a ∈ as, ∀ w : Work σ, w.Ready → n ≤ w.scene.size →
        Settles (fun w => step w a) w ∧ n ≤ (step w a).scene.size) →
      ∀ w : Work σ, w.Ready → n ≤ w.scene.size → Settles (fun w => as.foldl step w) w
  | [], _, _, hw, _ => settles_id hw
  | a :: as, hstep, w, hw, hn => by
      obtain ⟨hfirst, hn'⟩ := hstep a List.mem_cons_self w hw hn
      have hrest : ∀ b ∈ as, _ := fun b hb => hstep b (List.mem_cons_of_mem a hb)
      exact hfirst.comp (settles_foldl hrest (step w a) hfirst.ready hn')

/-! ## Locals and drafts -/

theorem settles_names (hf : ∀ w, (f w).toAssembler = w.toAssembler)
    (hready : (f w).Ready) (hnames : ∀ v, SameNames w v → SameNames (f w) (f v)) :
    Settles f w where
  keeps := by
    rw [hf]
    exact .refl _
  ready := hready
  again v hsame _ := by
    rw [hf]
    exact ⟨.refl _, hnames v hsame⟩

theorem Ready.bindLocal (hw : w.Ready) (name : Option String) {hs : List Nat}
    (hhs : ∀ h ∈ hs, h < w.scene.size) : (w.bindLocal name hs).Ready := by
  cases name with
  | none => exact hw
  | some name =>
      refine ⟨hw.merged, ?_⟩
      intro name' h hh
      cases name' with
      | none => cases hh
      | some name' =>
          rw [bound_bindLocal] at hh
          split at hh
          · exact hhs h (OrderedSet.mem_ofList.mp hh)
          · exact hw.locals (some name') h hh

theorem settles_bindLocal (hw : w.Ready) (name : Option String) {hs : List Nat}
    (hhs : ∀ h ∈ hs, h < w.scene.size) : Settles (fun w => w.bindLocal name hs) w := by
  refine settles_names ?_ (hw.bindLocal name hhs) ?_
  · intro w
    cases name <;> rfl
  · intro v hsame
    cases name with
    | none => exact hsame
    | some name =>
        refine ⟨?_, hsame.draftLocals, hsame.drafts⟩
        show (if _ then v.locals.erase name else v.locals.insert name _) = _
        rw [hsame.locals]
        rfl

theorem settles_bindOne (hw : w.Ready) (name : Option String) {h : Nat} (hh : h < w.scene.size) :
    Settles (fun w => w.bindLocal name [h]) w :=
  settles_bindLocal hw name fun _ hx => List.mem_singleton.mp hx ▸ hh

theorem settles_unbindLocal (hw : w.Ready) (name : Option String) :
    Settles (fun w => w.unbindLocal name) w := by
  refine settles_names ?_ ?_ ?_
  · intro w
    cases name <;> rfl
  · cases name with
    | none => exact hw
    | some name =>
        -- For the widgets this is a local that denotes none.
        have hnone : (w.bindLocal (some name) []).Ready := hw.bindLocal (some name) (by simp)
        exact ⟨hnone.merged, hnone.locals⟩
  · intro v hsame
    cases name with
    | none => exact hsame
    | some name =>
        exact ⟨congrArg (·.erase name) hsame.locals, congrArg (·.erase name) hsame.draftLocals,
          hsame.drafts⟩

theorem settles_bindDraft (hw : w.Ready) (name : Option String) (draft : Nat) :
    Settles (fun w => w.bindDraft name draft) w := by
  refine settles_names ?_ ?_ ?_
  · intro w
    cases name <;> rfl
  · cases name with
    | none => exact hw
    | some name => exact ⟨hw.merged, hw.locals⟩
  · intro v hsame
    cases name with
    | none => exact hsame
    | some name =>
        exact ⟨hsame.locals, congrArg (·.insert name draft) hsame.draftLocals, hsame.drafts⟩

/-- A draft is known by its number, which is the same in both runs. -/
theorem settles_newDraft (hw : w.Ready) (name : Option String) :
    Settles (fun w => ({ w with drafts := w.drafts ++ [({} : Dialog)] }).bindDraft name
      w.drafts.length) w := by
  have hnew : Settles (fun w : Work σ => { w with drafts := w.drafts ++ [({} : Dialog)] }) w := by
    refine settles_names (fun _ => rfl) ⟨hw.merged, hw.locals⟩ ?_
    intro v hsame
    refine ⟨hsame.locals, hsame.draftLocals, ?_⟩
    rw [List.length_append, List.length_append, hsame.drafts]
  have hbind := hnew.comp (settles_bindDraft hnew.ready name w.drafts.length)
  refine hbind.congr ?_
  intro v hsame _
  rw [hsame.drafts]

/-! ## Widgets -/

theorem Ready.modifyWidget (hw : w.Ready) (h : Nat) (f : Widget → Widget) :
    (w.modifyWidget h f).Ready where
  merged key x hget := (hw.merged key x hget).trans_eq (Scene.size_modify ..).symm
  locals name x hx := (hw.locals name x hx).trans_eq (Scene.size_modify ..).symm

theorem keeps_modifyWidget (h : Nat) {f : Widget → Widget} (hf : ∀ e : Widget, e.Keeps (f e)) :
    w.toAssembler.Keeps (w.modifyWidget h f).toAssembler :=
  { Assembler.Keeps.refl _ with scene := w.scene.keeps_modify h hf }

omit [DecidableEq σ] in
theorem get?_modifyWidget {h : Nat} (hh : h < w.scene.size) (f : Widget → Widget) :
    (w.modifyWidget h f).scene.get? h = some (f (w.scene.widget h)) := by
  show (w.scene.modify h f).get? h = _
  rw [Scene.get?_modify, if_pos rfl, Scene.get?_of_lt hh]
  rfl

theorem settles_modifyWidget (hw : w.Ready) {h : Nat} (hh : h < w.scene.size)
    (xs : List Finding) : Settles (fun w => w.modifyWidget h (·.recordAll xs)) w := by
  refine ⟨keeps_modifyWidget h fun e => e.keeps_recordAll xs, hw.modifyWidget h _, ?_⟩
  intro v hsame hkeep
  obtain ⟨e, hget, hknown⟩ := hkeep.scene h _ (get?_modifyWidget hh _)
  have hdone : e.recordAll xs = e :=
    Finding.recordAll_of_known fun x hx => hknown.known x (Finding.known_recordAll hx _)
  have heq : v.modifyWidget h (·.recordAll xs) = v := by
    rw [modifyWidget_eq, Scene.modify_eq_self hget hdone]
  rw [heq]
  exact ⟨.refl _, hsame.locals, hsame.draftLocals, hsame.drafts⟩

theorem settles_modifyWidgets (hw : w.Ready) {hs : List Nat} (hhs : ∀ h ∈ hs, h < w.scene.size)
    (xs : List Finding) : Settles (fun w => w.modifyWidgets hs (·.recordAll xs)) w := by
  simp only [modifyWidgets_eq]
  refine settles_foldl ?_ w hw le_rfl
  intro h hh v hv hsize
  exact ⟨settles_modifyWidget hv ((hhs h hh).trans_le hsize) xs,
    hsize.trans_eq (Scene.size_modify ..).symm⟩

theorem settles_nameAfter (hw : w.Ready) {h : Nat} (hh : h < w.scene.size)
    (name : Option String) : Settles (fun w => w.nameAfter h name) w := by
  cases name with
  | none => exact settles_id hw
  | some name => exact settles_modifyWidget hw hh [.name name]

omit [DecidableEq σ] in
/-- A child is attached unless it is there, or never can be. -/
theorem attach_cases {p : Nat} {e : Widget} (hget : w.scene.get? p = some e) (c : Nat) :
    w.scene.Joined p c ∧ Quiet w (w.attach p c) ∨
      e.isContainer = true ∧ ¬w.scene.Joined p c ∧
        w.attach p c = w.modifyWidget p (·.appendChildren [c]) := by
  have hchildren : w.scene.children p = e.children := Scene.children_of_get? hget
  by_cases hchild : c ∈ e.children
  · have hsame : w.attach p c = w := by
      rw [attach_eq, hchildren, if_pos (by simpa using hchild)]
    rw [hsame]
    exact Or.inl ⟨⟨e, hget, Or.inl hchild⟩, .refl w⟩
  · rw [attach_eq, hchildren, if_neg (by simpa using hchild)]
    cases hcontainer : e.isContainer with
    | true =>
        rw [Scene.addChild_of_container hget hcontainer]
        by_cases hself : p = c
        · rw [if_pos hself]
          exact Or.inl
            ⟨⟨e, hget, Or.inr (Or.inl hself)⟩, ⟨rfl, rfl, rfl, rfl, rfl⟩, ⟨rfl, rfl, rfl⟩⟩
        · rw [if_neg hself]
          refine Or.inr ⟨rfl, ?_, rfl⟩
          rintro ⟨e', hget', hjoin⟩
          obtain rfl := Option.some.inj (hget.symm.trans hget')
          rcases hjoin with hin | heq | hleaf
          · exact hchild hin
          · exact hself heq
          · exact Bool.noConfusion (hcontainer.symm.trans hleaf)
    | false =>
        rw [Scene.addChild_of_leaf ((Scene.isContainer_of_get? hget).trans hcontainer)]
        exact Or.inl ⟨⟨e, hget, Or.inr (Or.inr hcontainer)⟩, .refl w⟩

omit [DecidableEq σ] in
theorem quiet_attach {p c : Nat} (hjoin : w.scene.Joined p c) : Quiet w (w.attach p c) := by
  obtain ⟨e, hget, -⟩ := id hjoin
  rcases attach_cases hget c with ⟨-, hquiet⟩ | ⟨-, hnot, -⟩
  · exact hquiet
  · exact absurd hjoin hnot

/-- A child is attached once, and what is refused once is always refused. -/
theorem settles_attach (hw : w.Ready) {p : Nat} (hp : p < w.scene.size) (c : Nat) :
    Settles (fun w => w.attach p c) w := by
  have hget := Scene.get?_of_lt hp
  obtain ⟨hkeeps, hready, hnames, hjoin⟩ : w.toAssembler.Keeps (w.attach p c).toAssembler ∧
      (w.attach p c).Ready ∧ SameNames w (w.attach p c) ∧ (w.attach p c).scene.Joined p c := by
    rcases attach_cases hget c with ⟨hjoin, hquiet⟩ | ⟨hcontainer, -, hattach⟩
    · have hkeeps := hquiet.still.keeps
      exact ⟨hkeeps, hquiet.ready hw, hquiet.names, hjoin.keeps hkeeps.scene⟩
    · rw [hattach]
      have hchild := Widget.mem_appendChildren hcontainer (List.mem_singleton_self c)
      exact ⟨keeps_modifyWidget p fun e => e.keeps_appendChildren [c], hw.modifyWidget p _,
        ⟨rfl, rfl, rfl⟩, _, get?_modifyWidget hp _, Or.inl hchild⟩
  refine ⟨hkeeps, hready, ?_⟩
  intro v hsame hkeep
  have hagain := quiet_attach (hjoin.keeps hkeep.scene)
  exact ⟨hagain.still, (hnames.symm.trans hsame).trans hagain.names⟩

theorem settles_attachAll (hw : w.Ready) {parents : List Nat}
    (hparents : ∀ p ∈ parents, p < w.scene.size) (children : List Nat) :
    Settles (fun w => w.attachAll parents children) w := by
  simp only [attachAll_eq]
  refine settles_foldl ?_ w hw le_rfl
  intro p hp v hv hsize
  refine ⟨settles_foldl ?_ v hv le_rfl, hsize.trans_eq ?_⟩
  · intro c _ u hu hsize'
    have hlt : p < u.scene.size := by
      have := hparents p hp
      omega
    exact ⟨settles_attach hu hlt c, hsize'.trans_eq (size_attach u p c).symm⟩
  · exact (foldl_keeps (f := fun w => w.scene.size) (fun w c => w.size_attach p c) children v).symm

/-! ## Screens -/

theorem settles_addRoots (hw : w.Ready) (o : Origin) (hs : List Nat) :
    Settles (fun w => w.addRoots o hs) w := by
  by_cases hempty : hs.isEmpty = true
  · refine (settles_id hw).congr ?_
    intro v _ _
    rw [addRoots, if_pos hempty]
  · have hfirst : ∀ v : Work σ, v.addRoots o hs =
        { v with roots := v.roots.update o fun roots => (roots.getD ∅).insertAll hs } := by
      intro v
      rw [addRoots, if_neg hempty]
    refine ⟨?_, ?_, ?_⟩
    · rw [hfirst]
      refine { Assembler.Keeps.refl _ with roots := ?_ }
      intro o' roots hget
      show ∃ roots', (w.roots.update o _).get? o' = some roots' ∧ _
      rw [OrderedMap.get?_update]
      by_cases ho : o' = o
      · subst ho
        rw [if_pos rfl, hget]
        exact ⟨_, rfl, fun h hh => OrderedSet.mem_insertAll.mpr (Or.inl hh)⟩
      · rw [if_neg ho]
        exact ⟨roots, hget, fun h hh => hh⟩
    · rw [hfirst]
      exact ⟨hw.merged, hw.locals⟩
    · intro v hsame hkeep
      rw [hfirst] at hkeep ⊢
      rw [hfirst]
      have hget : (w.roots.update o fun roots => (roots.getD ∅).insertAll hs).get? o =
          some (((w.roots.get? o).getD ∅).insertAll hs) := by
        rw [OrderedMap.get?_update, if_pos rfl]
      obtain ⟨roots, hget', hsub⟩ := hkeep.roots o _ hget
      have hall : ∀ h ∈ hs, h ∈ roots :=
        fun h hh => hsub h (OrderedSet.mem_insertAll.mpr (Or.inr hh))
      have hroots : (v.roots.update o fun roots => (roots.getD ∅).insertAll hs) = v.roots :=
        OrderedMap.update_eq_self hget' (OrderedSet.insertAll_of_mem hall)
      rw [hroots]
      exact ⟨.refl _, hsame.locals, hsame.draftLocals, hsame.drafts⟩

/-! ## Places -/

/-- The place of a construction has got a new widget. -/
def placed (w : Work σ) (s : σ) (className : String) (kind : WidgetKind) : Work σ :=
  { (w.createDynamic className kind).2 with
    merged := w.merged.insert (.allocation s) w.scene.size }

theorem size_placed (s : σ) (className : String) (kind : WidgetKind) :
    (w.placed s className kind).scene.size = w.scene.size + 1 :=
  Scene.size_create ..

theorem get?_merged_placed (s : σ) (className : String) (kind : WidgetKind) (key : MergeKey σ) :
    (w.placed s className kind).merged.get? key =
      if key = .allocation s then some w.scene.size else w.merged.get? key :=
  OrderedMap.get?_insert ..

theorem Ready.placed (hw : w.Ready) (s : σ) (className : String) (kind : WidgetKind) :
    (w.placed s className kind).Ready := by
  have hsize := size_placed (w := w) s className kind
  refine ⟨?_, ?_⟩
  · intro key h hget
    rw [get?_merged_placed] at hget
    split at hget
    · obtain rfl := Option.some.inj hget
      omega
    · have hold := hw.merged key h hget
      omega
  · intro name h hh
    have hold : h < w.scene.size := hw.locals name h hh
    omega

theorem keeps_placed {s : σ} (hget : w.merged.get? (.allocation s) = none) (className : String)
    (kind : WidgetKind) : w.toAssembler.Keeps (w.placed s className kind).toAssembler := by
  have hscene : w.scene.Keeps (w.placed s className kind).scene :=
    w.scene.keeps_create _ className kind
  refine { Assembler.Keeps.refl _ with scene := hscene, merged := ?_ }
  intro key h hold
  rw [get?_merged_placed, if_neg, hold]
  rintro rfl
  rw [hget] at hold
  cases hold

/-- A place that has no widget gets one, and has it the next time. -/
theorem settles_allocation (hw : w.Ready) (s : σ) (className : String) (kind : Work σ → WidgetKind)
    {k : Nat → Work σ → Work σ}
    (hk : ∀ h (v : Work σ), v.Ready → h < v.scene.size → Settles (k h) v) :
    let make (w : Work σ) : Nat × Work σ :=
      w.mergedOr (.allocation s) fun w => w.createDynamic className (kind w)
    Settles (fun w => k (make w).1 (make w).2) w := by
  intro make
  have hfound : ∀ (v : Work σ) (h : Nat), v.merged.get? (.allocation s) = some h →
      make v = (h, v) := by
    intro v h hget
    show v.mergedOr _ _ = _
    rw [mergedOr, hget]
  cases hget : w.merged.get? (.allocation s) with
  | some h =>
      refine (hk h w hw (hw.merged _ h hget)).congr ?_
      intro v _ hkeep
      rw [hfound v h (hkeep.merged _ h hget)]
  | none =>
      have hmake : make w = (w.scene.size, w.placed s className (kind w)) := by
        show w.mergedOr _ _ = _
        rw [mergedOr, hget]
        rfl
      have hrest := hk w.scene.size _ (hw.placed s className (kind w))
        (by rw [size_placed]; exact Nat.lt_succ_self _)
      have hentry := (get?_merged_placed (w := w) s className (kind w) (.allocation s)).trans
        (if_pos rfl)
      refine ⟨?_, ?_, ?_⟩
      · rw [hmake]
        exact (keeps_placed hget className (kind w)).trans hrest.keeps
      · rw [hmake]
        exact hrest.ready
      · intro v hsame hkeep
        rw [hmake] at hkeep ⊢
        rw [hfound v _ (hkeep.merged _ _ (hrest.keeps.merged _ _ hentry))]
        exact hrest.again v ⟨hsame.locals, hsame.draftLocals, hsame.drafts⟩ hkeep

end Work

end UiRecovery
