import Mathlib.Data.List.TakeWhile
import UiRecovery.Proofs.Persistence

/-!
# Attaching several at once

A caller can attach children one by one, or all of them with one call. The
one call looks at all of them before it attaches any: a batch that has the
container itself in it is refused as a whole, where single calls would
have attached what stands before the container. Apart from that the two
agree, in the scene that they leave, in what they answer and in the error
with which they end.

`Scene.addEach` is the sequence of single calls. What it comes to depends
on the parent: a leaf takes nothing (`addEach_of_leaf`), a container takes
all that stands before itself (`addEach_of_container`). The scene changes
under the sequence, but neither the kind of the parent nor its identity
does, and that is what the induction needs.
-/

namespace UiRecovery

/-! ## Appending twice -/

namespace Widget

variable (e : Widget)

@[simp]
theorem appendChildren_nil : e.appendChildren [] = e := by
  have hkind : e.kind.mapChildren (· ++ []) = e.kind := by
    cases e.kind <;> simp [WidgetKind.mapChildren]
  unfold appendChildren mapChildren
  rw [hkind]

theorem appendChildren_append (cs ds : List Nat) :
    (e.appendChildren cs).appendChildren ds = e.appendChildren (cs ++ ds) := by
  have hkind : (e.kind.mapChildren (· ++ cs)).mapChildren (· ++ ds) =
      e.kind.mapChildren (· ++ (cs ++ ds)) := by
    cases e.kind <;> simp [WidgetKind.mapChildren]
  unfold appendChildren mapChildren
  dsimp only
  rw [hkind]

@[simp]
theorem isContainer_appendChildren (cs : List Nat) :
    (e.appendChildren cs).isContainer = e.isContainer :=
  (e.kind.grows_append cs).isContainer_eq

end Widget

namespace Scene

variable {s : Scene} {parent : Nat} {e : Widget}

theorem modify_modify (s : Scene) (h : Nat) (f g : Widget → Widget) :
    (s.modify h f).modify h g = s.modify h fun e => g (f e) := by
  unfold modify
  dsimp only
  rw [List.modify_modify_eq]
  rfl

theorem modify_appendChildren_nil (hget : s.get? parent = some e) :
    s.modify parent (·.appendChildren []) = s :=
  modify_eq_self hget e.appendChildren_nil

theorem modify_appendChildren_cons (s : Scene) (parent c : Nat) (cs : List Nat) :
    (s.modify parent (·.appendChildren [c])).modify parent (·.appendChildren cs) =
      s.modify parent (·.appendChildren (c :: cs)) := by
  rw [modify_modify]
  refine congrArg (s.modify parent) (funext fun e => ?_)
  exact e.appendChildren_append [c] cs

/-! ## Single calls -/

/-- What is left of an attempt to attach children one by one: the answers
to the calls that were made, the scene after them, and the error that
ended the attempt, if one did. -/
structure Attempt where
  answers : List Bool
  scene : Scene
  failure : Option Error
deriving DecidableEq

/-- Attach children one by one, up to the first that is refused. -/
def addEach (parent : Nat) : List Nat → Scene → Attempt
  | [], s => ⟨[], s, none⟩
  | child :: rest, s =>
    match s.addChild parent child with
    | (.ok attached, s) =>
      let r := addEach parent rest s
      { r with answers := attached :: r.answers }
    | (.error e, s) => ⟨[], s, some e⟩

theorem addEach_of_leaf (hleaf : s.isContainer parent = false) :
    ∀ children : List Nat,
      addEach parent children s = ⟨List.replicate children.length false, s, none⟩
  | [] => rfl
  | child :: rest => by
      rw [addEach, addChild_of_leaf hleaf]
      dsimp only
      rw [addEach_of_leaf hleaf rest]
      rfl

/-- A container takes what stands before itself. The error names the
parent, which has kept its identity. -/
theorem addEach_of_container :
    ∀ (children : List Nat) {s : Scene} {e : Widget}, s.get? parent = some e →
      e.isContainer = true →
      let taken := children.takeWhile (· ≠ parent)
      addEach parent children s =
        { answers := List.replicate taken.length true
          scene := s.modify parent (·.appendChildren taken)
          failure := if parent ∈ children then some (.selfCycle e.guid e.id) else none }
  | [], s, e, hget, _ => by
      dsimp only [List.takeWhile_nil]
      rw [modify_appendChildren_nil hget]
      rfl
  | child :: rest, s, e, hget, he => by
      dsimp only
      rw [addEach, addChild_of_container hget he]
      by_cases hself : parent = child
      · subst hself
        rw [if_pos rfl, List.takeWhile_cons_of_neg (by simp), modify_appendChildren_nil hget,
          if_pos List.mem_cons_self]
        rfl
      · rw [if_neg hself, List.takeWhile_cons_of_pos (by simpa using Ne.symm hself)]
        dsimp only
        have hget' : (s.modify parent (·.appendChildren [child])).get? parent =
            some (e.appendChildren [child]) := by
          rw [get?_modify, if_pos rfl, hget]
          rfl
        have hrest := addEach_of_container rest hget' ((e.isContainer_appendChildren _).trans he)
        dsimp only at hrest
        rw [hrest, modify_appendChildren_cons]
        have hmem : parent ∈ child :: rest ↔ parent ∈ rest := by
          simp [hself]
        simp only [hmem]
        rfl

end Scene

/-! ## The batch -/

namespace Assembler

variable {σ : Type}

/-- A batch agrees with single calls. If it succeeds, all of the single
calls do and they leave the same scene, and the batch says that it has
attached something if one of them does. It is refused exactly if one of
the single calls is, and with the same error. The scene that it leaves is
then the one before the call, and not what the calls up to the refused one
have made of it, and so is the assembler. -/
theorem batch_as_single_calls (a : Assembler σ) (parent : Nat) (children : List Nat) :
    let each := Scene.addEach parent children a.scene
    let batch := a.scene.addChildren parent children
    (∀ attached, batch.1 = .ok attached →
      each.failure = none ∧ each.answers.length = children.length ∧ each.scene = batch.2 ∧
        (attached = true ↔ true ∈ each.answers)) ∧
      (∀ e, batch.1 = .error e ↔ each.failure = some e) ∧
      (∀ e, batch.1 = .error e → batch.2 = a.scene) ∧
      a.prepare (.addChildren parent children) =
        if each.failure = none then { a with scene := each.scene } else a := by
  intro each batch
  rw [show a.prepare (.addChildren parent children) = { a with scene := batch.2 } from rfl]
  cases hcontainer : a.scene.isContainer parent with
  | false =>
      have heach : each = ⟨List.replicate children.length false, a.scene, none⟩ :=
        Scene.addEach_of_leaf hcontainer children
      rw [heach, show batch = _ from Scene.addChildren_of_leaf hcontainer children]
      refine ⟨fun attached hok => ?_, fun e => ?_, nofun, rfl⟩
      · cases hok
        simp [List.mem_replicate]
      · simp
  | true =>
      obtain ⟨e, hget, he⟩ := Scene.exists_of_isContainer hcontainer
      have heach := Scene.addEach_of_container children hget he
      dsimp only at heach
      rw [show each = _ from heach,
        show batch = _ from Scene.addChildren_of_container hget he children]
      by_cases hself : parent ∈ children
      · simp only [if_pos hself]
        refine ⟨nofun, fun e' => ?_, fun _ _ => trivial, ?_⟩
        · simp
        · simp
      · -- Nothing stands behind the container, so that all is taken.
        have htaken : children.takeWhile (· ≠ parent) = children := by
          refine List.takeWhile_eq_self_iff.mpr fun c hc => ?_
          exact decide_eq_true fun heq => hself (heq ▸ hc)
        simp only [if_neg hself, htaken]
        refine ⟨fun attached hok => ?_, fun e' => ?_, nofun, rfl⟩
        · cases hok
          cases children <;> simp [List.mem_replicate]
        · simp

/-- Of a batch that is refused nothing is attached. Of the single calls
the first one has an effect. -/
example :
    let a := labelledBox
    (Scene.addEach 0 [1, 0, 1] a.scene).answers = [true] ∧
      (Scene.addEach 0 [1, 0, 1] a.scene).scene.children 0 = [1, 1] ∧
      (a.prepare (.addChildren 0 [1, 0, 1])).scene.children 0 = [1] := by
  decide +kernel

end Assembler

end UiRecovery
