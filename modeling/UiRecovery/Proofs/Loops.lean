import Mathlib.Order.Defs.Unbundled

/-!
# Loops

A loop relates its first state to its last, if each of its turns relates
what it starts from to what it leaves and the relation is reflexive and
transitive. A loop whose turns have no effect has none, and is a fold.
-/

namespace UiRecovery

theorem foldl_related {α β : Type} {R : β → β → Prop} [IsPreorder β R] {step : β → α → β} :
    ∀ {as : List α}, (∀ a ∈ as, ∀ b, R b (step b a)) → ∀ b, R b (as.foldl step b)
  | [], _, b => refl_of R b
  | a :: _, hstep, b =>
      trans_of R (hstep a List.mem_cons_self b)
        (foldl_related (fun a' ha' => hstep a' (List.mem_cons_of_mem a ha')) (step b a))

section

variable {m : Type → Type} [Monad m] [LawfulMonad m] {α β : Type}

/-- What the turns need of the state is `P`. -/
theorem foldlM_eq_pure {stepM : β → α → m β} {step : β → α → β} {P : β → Prop} :
    ∀ {as : List α}, (∀ a ∈ as, ∀ b, P b → stepM b a = pure (step b a) ∧ P (step b a)) →
      ∀ {b : β}, P b → as.foldlM stepM b = pure (as.foldl step b)
  | [], _, _, _ => rfl
  | a :: _, hstep, b, hb => by
      obtain ⟨hpure, hnext⟩ := hstep a List.mem_cons_self b hb
      rw [List.foldlM_cons, hpure, pure_bind]
      exact foldlM_eq_pure (fun a' ha' => hstep a' (List.mem_cons_of_mem a ha')) hnext

theorem mapM_eq_pure {f : α → m β} {g : α → β} :
    ∀ {as : List α}, (∀ a ∈ as, f a = pure (g a)) → as.mapM f = pure (as.map g)
  | [], _ => List.mapM_nil
  | a :: _, hf => by
      rw [List.mapM_cons, hf a List.mem_cons_self,
        mapM_eq_pure fun b hb => hf b (List.mem_cons_of_mem a hb), pure_bind, pure_bind]
      rfl

theorem findSomeM?_eq_pure {f : α → m (Option β)} {g : α → Option β} :
    ∀ {as : List α}, (∀ a ∈ as, f a = pure (g a)) → as.findSomeM? f = pure (as.findSome? g)
  | [], _ => rfl
  | a :: _, hf => by
      rw [List.findSomeM?, hf a List.mem_cons_self, pure_bind, List.findSome?_cons]
      cases g a with
      | some b => rfl
      | none => exact findSomeM?_eq_pure fun b hb => hf b (List.mem_cons_of_mem a hb)

theorem findM?_eq_pure {f : α → m Bool} {g : α → Bool} :
    ∀ {as : List α}, (∀ a ∈ as, f a = pure (g a)) → as.findM? f = pure (as.find? g)
  | [], _ => rfl
  | a :: _, hf => by
      rw [List.findM?, hf a List.mem_cons_self, pure_bind, List.find?_cons]
      cases g a with
      | true => rfl
      | false => exact findM?_eq_pure fun b hb => hf b (List.mem_cons_of_mem a hb)

end

theorem foldlM_id {α β : Type} (f : β → α → β) (as : List α) (b : β) :
    List.foldlM (m := Id) f b as = as.foldl f b :=
  List.foldlM_pure (m := Id)

theorem mapM_id {α β : Type} (f : α → β) (as : List α) : List.mapM (m := Id) f as = as.map f :=
  List.mapM_pure (m := Id)

theorem findSomeM?_id {α β : Type} (f : α → Option β) (as : List α) :
    List.findSomeM? (m := Id) f as = as.findSome? f :=
  List.findSomeM?_pure (m := Id)

end UiRecovery
