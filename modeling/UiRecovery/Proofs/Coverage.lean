import Mathlib.Data.Fintype.EquivFin
import UiRecovery.Proofs.Ownership

/-!
# Nothing is lost

What becomes of the widgets of a recovery in the end. Three sets are the
same, if no widget holds itself:

- the widgets that were made, which are those behind the templates;
- the widgets that some component owns;
- the widgets that are found from the roots of some component.

`Ownership` has that all that was made is owned. Conversely attributions go
by guid, and the guids in use as keys are those of widgets that were made
(`Move.traced`). What was made holds nothing but what was made, and is
held by nothing else; so from a widget upwards one comes to a widget that
was made and that nothing holds, which is a root of its owner
(`made_owned_shown`).
-/

namespace UiRecovery

/-! ## Scenes without circles -/

namespace Scene

/-- No widget holds itself, at any depth. -/
def Acyclic (s : Scene) : Prop :=
  ∀ h, ¬Relation.TransGen (fun h c => c ∈ s.children h) h h

theorem mem_attached {s : Scene} {c : Nat} : c ∈ s.attached ↔ ∃ h, c ∈ s.children h := by
  constructor
  · intro hc
    obtain ⟨e, he, hce⟩ := List.mem_flatMap.mp hc
    obtain ⟨h, hh⟩ := List.getElem?_of_mem he
    exact ⟨h, mem_children.mpr ⟨e, hh, hce⟩⟩
  · rintro ⟨h, hc⟩
    exact s.children_subset_attached h hc

/-- Handles that descend to the children run in no circle. -/
theorem acyclic_of_lt {s : Scene} (hlt : ∀ h < s.size, ∀ c ∈ s.children h, h < c) : s.Acyclic := by
  have hchain : ∀ {h x : Nat}, Relation.TransGen (fun h c => c ∈ s.children h) h x → h < x := by
    intro h x hx
    induction hx with
    | single hc => exact hlt _ (lt_size_of_mem_children hc) _ hc
    | tail _ hc ih => exact ih.trans (hlt _ (lt_size_of_mem_children hc) _ hc)
  exact fun h hh => Nat.lt_irrefl h (hchain hh)

/-- Without circles, whatever is in the scene is held by something that
nothing holds. -/
theorem Acyclic.exists_unattached {s : Scene} (hs : s.Acyclic) {x : Nat} (hx : x < s.size) :
    ∃ root, root ∉ s.attached ∧ s.Reaches root x := by
  let Above (h c : Fin s.size) : Prop :=
    Relation.TransGen (fun h c => c ∈ s.children h) h.val c.val
  have htrans : IsTrans (Fin s.size) Above := ⟨fun _ _ _ => Relation.TransGen.trans⟩
  have hirrefl : Std.Irrefl Above := ⟨fun h => hs h.val⟩
  -- A finite scene without circles can be climbed only finitely often.
  have hwf : WellFounded Above := Finite.wellFounded_of_trans_of_irrefl Above
  have hclimb : ∀ h : Fin s.size, ∃ root, root ∉ s.attached ∧ s.Reaches root h.val := by
    intro h
    induction h using hwf.induction with
    | _ h ih =>
        by_cases hheld : h.val ∈ s.attached
        · obtain ⟨p, hp⟩ := mem_attached.mp hheld
          obtain ⟨root, hroot, hreach⟩ := ih ⟨p, lt_size_of_mem_children hp⟩ (.single hp)
          exact ⟨root, hroot, hreach.tail hp⟩
        · exact ⟨h.val, hheld, .refl⟩
  exact hclimb ⟨x, hx⟩

end Scene

/-! ## Only what was made is attributed -/

/-- Whatever is attributed is a widget from `n` on. -/
def Assembler.Traced {σ : Type} (n : Nat) (a : Assembler σ) : Prop :=
  ∀ g ∈ a.attribution.elements.keys,
    ∃ h, n ≤ h ∧ h < a.scene.size ∧ (a.scene.widget h).guid = g

theorem Assembler.Traced.grow {σ : Type} [DecidableEq σ] {n : Nat} {a b : Assembler σ}
    (ha : a.Traced n) (hgrows : a.Grows b)
    (hkeys : b.attribution.elements.keys = a.attribution.elements.keys) : b.Traced n := by
  intro g hg
  obtain ⟨h, hlow, hhigh, hguid⟩ := ha g (hkeys ▸ hg)
  refine ⟨h, hlow, hhigh.trans_le hgrows.scene.size_le, ?_⟩
  rw [hgrows.scene.guid_widget hhigh, hguid]

namespace Work

variable {σ : Type} [DecidableEq σ] {n : Nat} {old : Scene}

theorem Move.traced {t : Task σ} {sites : List σ} {x y : Set Nat × Work σ} (h : Move t sites x y)
    (hwithin : Within (.above σ n) old x) (hheld : ∀ h ∈ x.1, h < x.2.scene.size)
    (hx : x.2.toAssembler.Traced n) : y.2.toAssembler.Traced n := by
  have hgrows := h.grows
  cases h with
  | @tag H w h hh =>
      intro g hg
      change g ∈ (w.attribution.elements.tag (w.scene.widget h).guid t.origin).keys at hg
      rw [OrderedMap.keys_tag] at hg
      split at hg
      · exact hx g hg
      · rcases List.mem_append.mp hg with hg | hg
        · exact hx g hg
        · rw [List.mem_singleton.mp hg]
          exact ⟨h, hwithin.held h hh, hheld h hh, rfl⟩
  | _ => exact hx.grow hgrows rfl

end Work

namespace Assembler

variable {σ : Type} [DecidableEq σ]

/-- What was made is behind the templates, as is all that it holds and all
that is known for places and screens; all of it is in the scene; and
nothing else is attributed. -/
structure Settled (n : Nat) (old : Scene) (a : Assembler σ) : Prop where
  within : a.Within (.above σ n) old
  bounded : a.Bounded
  traced : a.Traced n

theorem kept_settled (n : Nat) (old : Scene) :
    Kept (Settled (σ := σ) n old)
      (fun x => Work.Within (.above σ n) old x ∧ Work.Bounded x ∧ x.2.toAssembler.Traced n) where
  begins a log ha :=
    ⟨(kept_within_above n old).begins a log ha.within, kept_bounded.begins a log ha.bounded,
      ha.traced⟩
  moves hmove hx :=
    ⟨(kept_within_above n old).moves hmove hx.1, hmove.bounded hx.2.1,
      hmove.traced hx.1 hx.2.1.held hx.2.2⟩
  fails _ hw := ⟨hw.1.toAssembler, hw.2.1.toAssembler, hw.2.2⟩
  ends w o hw :=
    ⟨(kept_within_above n old).ends w o hw.1, kept_bounded.ends w o hw.2.1, hw.2.2⟩
  skips a skipped ha :=
    ⟨(kept_within_above n old).skips a skipped ha.within,
      kept_bounded.skips a skipped ha.bounded, ha.traced⟩

theorem Prepared.settled {a : Assembler σ} (ha : a.Prepared) (hrange : a.scene.InRange) :
    a.Settled a.scene.size a.scene where
  within := ha.within_above
  bounded := ha.bounded hrange
  traced g hg := by
    rw [congrArg attribution ha.pristine] at hg
    cases hg

namespace Settled

variable {n : Nat} {old : Scene} {a : Assembler σ} {o : Origin} {h x : Nat}

theorem le_of_mem_elementHandles {outside : List Guid} (ha : a.Settled n old)
    (hguids : Identified a.scene outside) (hh : h ∈ a.elementHandles o) : n ≤ h := by
  obtain ⟨hlt, ho⟩ := (mem_elementHandles hguids).mp hh
  have hkey : (a.scene.widget h).guid ∈ a.attribution.elements.keys :=
    OrderedMap.mem_keys_of_mem_taggedWith (OrderedMap.mem_taggedWith.mpr ho)
  obtain ⟨h', hlow, hhigh, hguid⟩ := ha.traced _ hkey
  -- Two widgets with one guid are one.
  have hfind := Scene.findGuid?_guid hguids.increasing hhigh
  rw [hguid, Scene.findGuid?_guid hguids.increasing hlt] at hfind
  rwa [Option.some.inj hfind]

/-- The roots of a component are widgets that were made. -/
theorem of_mem_rootsOf {outside : List Guid} (ha : a.Settled n old)
    (hguids : Identified a.scene outside) (hh : h ∈ a.finish.rootsOf o) :
    n ≤ h ∧ h < a.scene.size := by
  rw [rootsOf_finish] at hh
  rcases OrderedSet.mem_insertAll.mp hh with hshown | hfree
  · obtain ⟨roots, hroots, hmem⟩ := OrderedSet.mem_getD_empty.mp hshown
    exact ⟨ha.within.roots o roots trivial hroots h hmem, ha.bounded.roots o roots hroots h hmem⟩
  · have hmem := (mem_parentless.mp hfree).1
    exact ⟨ha.le_of_mem_elementHandles hguids hmem, ((mem_elementHandles hguids).mp hmem).1⟩

/-- What was made holds nothing but what was made. -/
theorem of_reaches (ha : a.Settled n old) (hh : n ≤ h ∧ h < a.scene.size)
    (hx : a.scene.Reaches h x) : n ≤ x ∧ x < a.scene.size := by
  refine ⟨?_, ha.bounded.scene.reaches hh.2 hx⟩
  induction hx with
  | refl => exact hh.1
  | tail _ hc ih => exact ha.within.scene.children _ ih _ hc

/-- What was made is held by nothing but what was made: the templates hold
templates. -/
theorem le_of_reaches (ha : a.Settled n old) (hsize : old.size = n) (hrange : old.InRange)
    (hx : a.scene.Reaches h x) (hlow : n ≤ x) : n ≤ h := by
  induction hx using Relation.ReflTransGen.head_induction_on with
  | refl => exact hlow
  | @head h c hc _ ih =>
      by_contra hlt
      have hcn : c < n := hsize ▸ hrange h c (ha.within.scene.children_eq hlt ▸ hc)
      exact Nat.not_lt_of_le ih hcn

end Settled

/-- Nothing is lost. Where no widget holds itself, the widgets that a
recovery has made, those that are attributed to some component, and those
that are found from the roots of some component are the same. -/
theorem made_owned_shown {a : Assembler σ} (ha : a.Prepared) (hrange : a.scene.InRange)
    (q : Query σ) (o : Oracle σ) (units : List (MethodUnit σ)) :
    let r := (a.reconstruct q o units).1
    r.scene.Acyclic →
      {h | a.scene.size ≤ h ∧ h < r.scene.size} = {h | ∃ origin, h ∈ r.elementsOf origin} ∧
      {h | ∃ origin, h ∈ r.elementsOf origin} =
        {h | ∃ origin, ∃ root ∈ r.rootsOf origin, r.scene.Reaches root h} := by
  intro r hacyclic
  let b := (a.assemble q o units).assembler
  have hb : b.Settled a.scene.size a.scene :=
    (kept_settled _ _).assemble (ha.settled hrange) q o units
  have hguids : Identified b.scene b.guidsOutside :=
    (ha.reachable.assembled (.units q o units)).identified
  have howned : b.Owned a.scene.size :=
    owned_assemble (fun _ hlow hhigh => absurd hhigh (Nat.not_lt_of_le hlow)) q o units
  have hmade : ∀ h,
      a.scene.size ≤ h ∧ h < b.scene.size ↔ ∃ origin, h ∈ b.elementHandles origin := by
    intro h
    constructor
    · rintro ⟨hlow, hhigh⟩
      obtain ⟨origin, horigin⟩ := howned h hlow hhigh
      exact ⟨origin, (mem_elementHandles hguids).mpr ⟨hhigh, horigin⟩⟩
    · rintro ⟨origin, hmem⟩
      exact ⟨hb.le_of_mem_elementHandles hguids hmem, ((mem_elementHandles hguids).mp hmem).1⟩
  refine ⟨Set.ext hmade, Set.ext fun h => ?_⟩
  refine (hmade h).symm.trans ⟨?_, ?_⟩
  · rintro ⟨hlow, hhigh⟩
    obtain ⟨root, hfree, hreach⟩ := Scene.Acyclic.exists_unattached hacyclic hhigh
    have hroot : root < b.scene.size := by
      rcases Relation.ReflTransGen.cases_head hreach with rfl | ⟨c, hc, -⟩
      · exact hhigh
      · exact Scene.lt_size_of_mem_children hc
    obtain ⟨origin, horigin⟩ := (hmade root).mp ⟨hb.le_of_reaches rfl hrange hreach hlow, hroot⟩
    refine ⟨origin, root, ?_, hreach⟩
    rw [show r.rootsOf origin = _ from rootsOf_finish b origin]
    exact OrderedSet.mem_insertAll.mpr (Or.inr (mem_parentless.mpr ⟨horigin, hfree⟩))
  · rintro ⟨origin, root, hroot, hreach⟩
    exact hb.of_reaches (hb.of_mem_rootsOf hguids hroot) hreach

theorem inRange_labelledBox : labelledBox.scene.InRange := by decide +kernel

/-- A box is shown for one screen, then another is made for a second one by
code that does not get to its end. -/
theorem made_owned_shown_labelledBox :
    let calls := ["void setContentView(int)",
      "android.view.View inflate(int,android.view.ViewGroup)",
      "android.view.View findViewById(int)"]
    let t := Task.straightLine calls
    let units : List (MethodUnit Nat) := [⟨[0], t.origin⟩, ⟨[1, 2, 0], .activity "Other" ""⟩]
    let r := (labelledBox.reconstruct t.query t.oracle units).1
    labelledBox.Prepared ∧ labelledBox.scene.InRange ∧ r.scene.Acyclic ∧ r.skipped.length = 1 ∧
      r.rootsOf t.origin = [2] ∧ r.rootsOf (.activity "Other" "") = [4] ∧ r.scene.size = 6 ∧
      {h | 2 ≤ h ∧ h < 6} = {h | ∃ origin, h ∈ r.elementsOf origin} ∧
      {h | ∃ origin, h ∈ r.elementsOf origin} =
        {h | ∃ origin, ∃ root ∈ r.rootsOf origin, r.scene.Reaches root h} := by
  intro calls t units r
  have hrange := inRange_labelledBox
  have hsize : r.scene.size = 6 := by decide +kernel
  have hacyclic : r.scene.Acyclic := by
    refine Scene.acyclic_of_lt ?_
    rw [hsize]
    decide +kernel
  have hsets := made_owned_shown prepared_labelledBox hrange t.query t.oracle units hacyclic
  refine ⟨prepared_labelledBox, hrange, hacyclic, by decide +kernel, by decide +kernel,
    by decide +kernel, hsize, ?_, hsets.2⟩
  rw [← hsets.1, show (labelledBox.reconstruct t.query t.oracle units).1.scene.size = 6 from hsize]
  rfl

end Assembler

end UiRecovery
