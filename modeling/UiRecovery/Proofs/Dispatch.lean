import Mathlib.Data.List.Basic
import UiRecovery.Code.Table
import UiRecovery.Proofs.Accesses
import UiRecovery.Proofs.Pairing

/-!
# Dispatch follows the classification

Two functions decide which idiom counts at a site. `Query.primaryIdiom?`
takes the first of `Idiom.all` that the instruction takes part in;
`Query.dispatch`, by which the assembly proceeds, asks in another order,
with assignments of null and constructions before the calls. Both ask for
the two pairs first, so that only the order of the six idioms of one
instruction matters (`Idiom.singles`).

For answers that contradict one another the two functions differ. For the
code of a program they do not, as an instruction takes part in at most one
of the six: what it assigns is the result of a call, a new object or null,
and no call is in two of the toolkit's tables. `Instruction.Shows` says
which one it is by the listing, and `satisfies_iff_shows` that this is what
the query answers. Where at most one idiom is found, the order of asking is
all the same (`find?_eq_of_perm`).
-/

namespace UiRecovery

/-! ## At most one hit -/

section

variable {α : Type} {p : α → Bool} {l l' : List α}

theorem length_le_one_of_unique (hnodup : l.Nodup) (hunique : ∀ a ∈ l, ∀ b ∈ l, a = b) :
    l.length ≤ 1 := by
  cases l with
  | nil => exact Nat.zero_le 1
  | cons a rest =>
      cases rest with
      | nil => exact Nat.le_refl 1
      | cons b rest =>
          obtain rfl := hunique a List.mem_cons_self b (List.mem_cons_of_mem a List.mem_cons_self)
          exact absurd List.mem_cons_self (List.nodup_cons.mp hnodup).1

theorem find?_eq_some_iff_of_unique
    (hunique : ∀ a ∈ l, ∀ b ∈ l, p a = true → p b = true → a = b) {a : α} :
    l.find? p = some a ↔ a ∈ l ∧ p a = true := by
  constructor
  · intro hfind
    exact ⟨List.mem_of_find?_eq_some hfind, List.find?_some hfind⟩
  · rintro ⟨hmem, ha⟩
    cases hfind : l.find? p with
    | none => exact absurd ha (List.find?_eq_none.mp hfind a hmem)
    | some b =>
        have hb := List.mem_of_find?_eq_some hfind
        rw [hunique b hb a hmem (List.find?_some hfind) ha]

/-- If there is at most one hit, the order of a search does not matter. -/
theorem find?_eq_of_perm (hperm : l.Perm l')
    (hunique : ∀ a ∈ l, ∀ b ∈ l, p a = true → p b = true → a = b) : l.find? p = l'.find? p := by
  have hunique' : ∀ a ∈ l', ∀ b ∈ l', p a = true → p b = true → a = b := fun a ha b hb =>
    hunique a (hperm.mem_iff.mpr ha) b (hperm.mem_iff.mpr hb)
  ext a
  rw [find?_eq_some_iff_of_unique hunique, find?_eq_some_iff_of_unique hunique', hperm.mem_iff]

end

/-! ## The two orders -/

namespace Idiom

/-- The idioms of a call and its construction. -/
def pairs : List Idiom := [.findViewById, .getChildAt]

/-- The idioms of one instruction, in the order of their precedence. -/
def singles : List Idiom :=
  [.inflate, .addView, .getView, .getListView, .nullAssignment, .newExpression]

/-- The order in which the assembly asks for the idioms of one
instruction. -/
def dispatched : List Idiom :=
  [.nullAssignment, .newExpression, .inflate, .addView, .getView, .getListView]

theorem singles_perm_dispatched : singles.Perm dispatched := by
  decide

end Idiom

namespace Query

variable {σ : Type} (q : Query σ) (s : σ)

theorem primaryIdiom?_eq_find? :
    q.primaryIdiom? s = (Idiom.pairs ++ Idiom.singles).find? (q.satisfies s) :=
  List.head?_filter

theorem dispatch_eq_find? :
    q.dispatch s = (Idiom.pairs ++ Idiom.dispatched).find? (q.satisfies s) := by
  simp only [dispatch, Idiom.pairs, Idiom.dispatched, List.cons_append, List.nil_append,
    List.find?_cons, List.find?_nil, satisfies]
  repeat' split
  all_goals simp_all

/-- No idiom is found in either order. -/
theorem dispatch_eq_none_iff : q.dispatch s = none ↔ q.primaryIdiom? s = none := by
  rw [dispatch_eq_find?, primaryIdiom?_eq_find?, List.find?_eq_none, List.find?_eq_none]
  simp only [List.mem_append, Idiom.singles_perm_dispatched.mem_iff]

end Query

/-! ## Instructions -/

/-- The calls by which an idiom of one instruction is known. -/
def Idiom.calls : Idiom → List String
  | .inflate => Toolkit.inflate
  | .addView => Toolkit.addView
  | .getView => Toolkit.adapterRow
  | .getListView => Toolkit.listView
  | .findViewById => []
  | .getChildAt => []
  | .nullAssignment => []
  | .newExpression => []

/-- No call is in two of the tables. -/
theorem Idiom.eq_of_mem_calls {k k' : Idiom} {signature : String} (hk : signature ∈ k.calls)
    (hk' : signature ∈ k'.calls) : k = k' := by
  have hmem : ∀ k : Idiom, k ∈ Idiom.all := by
    intro k
    cases k <;> decide
  have hdisjoint : ∀ k ∈ Idiom.all, ∀ signature ∈ k.calls, ∀ k' ∈ Idiom.all,
      signature ∈ k'.calls → k = k' := by
    decide +kernel
  exact hdisjoint k (hmem k) signature hk k' (hmem k') hk'

/-- What the listing of an instruction says of the idiom that it is. -/
inductive Instruction.Shows : Instruction → Idiom → Prop
  | call {target : Option String} {c : Call} {k : Idiom} (hk : c.signature ∈ k.calls) :
      Shows ⟨target, .call c⟩ k
  | new {target className : String} : Shows ⟨some target, .new className⟩ .newExpression
  | null {target : String} : Shows ⟨some target, .null⟩ .nullAssignment

theorem Instruction.Shows.unique {i : Instruction} {k k' : Idiom} (h : i.Shows k)
    (h' : i.Shows k') : k = k' := by
  cases h with
  | call hk =>
      cases h' with
      | call hk' => exact Idiom.eq_of_mem_calls hk hk'
  | new =>
      cases h'
      rfl
  | null =>
      cases h'
      rfl

namespace Program

variable {p : Program} {s : Site}

theorem isNullAssignment_iff :
    p.query.isNullAssignment s = true ↔ ∃ target, p.instruction? s = some ⟨some target, .null⟩ := by
  show (((p.instruction? s).bind Instruction.target).isSome && p.rhs? s == some .null) = true ↔ _
  unfold rhs?
  cases p.instruction? s with
  | none => simp
  | some i =>
      obtain ⟨target, expr⟩ := i
      cases target <;> cases expr <;> simp

/-- What is answered about an idiom of one instruction can be seen from the
listing. -/
theorem satisfies_iff_shows {k : Idiom} (hk : k ∈ Idiom.singles) :
    p.query.satisfies s k = true ↔ ∃ i, p.instruction? s = some i ∧ i.Shows k := by
  have hcall : k.calls ≠ [] → (p.query.callsOneOf k.calls s = true ↔
      ∃ i, p.instruction? s = some i ∧ i.Shows k) := by
    intro hcalls
    rw [callsOneOf_iff]
    constructor
    · rintro ⟨target, c, hs, hc⟩
      exact ⟨_, hs, .call hc⟩
    · rintro ⟨i, hs, hshows⟩
      cases hshows with
      | call hc => exact ⟨_, _, hs, hc⟩
      | new => exact absurd rfl hcalls
      | null => exact absurd rfl hcalls
  cases k with
  | findViewById => simp [Idiom.singles] at hk
  | getChildAt => simp [Idiom.singles] at hk
  | inflate => exact hcall (by simp [Idiom.calls, Toolkit.inflate])
  | addView => exact hcall (by simp [Idiom.calls, Toolkit.addView])
  | getView => exact hcall (by simp [Idiom.calls, Toolkit.adapterRow])
  | getListView => exact hcall (by simp [Idiom.calls, Toolkit.listView])
  | nullAssignment =>
      show p.query.isNullAssignment s = true ↔ _
      rw [isNullAssignment_iff]
      constructor
      · rintro ⟨target, hs⟩
        exact ⟨_, hs, .null⟩
      · rintro ⟨i, hs, hshows⟩
        cases hshows with
        | call hc => cases hc
        | null => exact ⟨_, hs⟩
  | newExpression =>
      show p.query.isNewExpression s = true ↔ _
      rw [isNewExpression_iff]
      constructor
      · rintro ⟨target, className, hs⟩
        exact ⟨_, hs, .new⟩
      · rintro ⟨i, hs, hshows⟩
        cases hshows with
        | call hc => cases hc
        | new => exact ⟨_, _, hs⟩

/-- An instruction takes part in one of the six idioms at most. -/
theorem eq_of_satisfies {k k' : Idiom} (hk : k ∈ Idiom.singles) (hk' : k' ∈ Idiom.singles)
    (h : p.query.satisfies s k = true) (h' : p.query.satisfies s k' = true) : k = k' := by
  obtain ⟨i, hs, hshows⟩ := (satisfies_iff_shows hk).mp h
  obtain ⟨i', hs', hshows'⟩ := (satisfies_iff_shows hk').mp h'
  rw [hs] at hs'
  obtain rfl := Option.some.inj hs'
  exact hshows.unique hshows'

theorem dispatch_eq_primaryIdiom? (p : Program) (s : Site) :
    p.query.dispatch s = p.query.primaryIdiom? s := by
  have hsingles : Idiom.singles.find? (p.query.satisfies s) =
      Idiom.dispatched.find? (p.query.satisfies s) :=
    find?_eq_of_perm Idiom.singles_perm_dispatched fun k hk k' hk' => eq_of_satisfies hk hk'
  rw [Query.dispatch_eq_find?, Query.primaryIdiom?_eq_find?, List.find?_append, List.find?_append,
    hsingles]

theorem length_filter_singles_le (p : Program) (s : Site) :
    ((p.query.idioms s).filter (· ∈ Idiom.singles)).length ≤ 1 := by
  have hall : Idiom.all.Nodup := by decide
  refine length_le_one_of_unique ((hall.filter _).filter _) ?_
  intro k hk k' hk'
  obtain ⟨hidiom, hsingle⟩ := List.mem_filter.mp hk
  obtain ⟨hidiom', hsingle'⟩ := List.mem_filter.mp hk'
  exact eq_of_satisfies (of_decide_eq_true hsingle) (of_decide_eq_true hsingle')
    (List.mem_filter.mp hidiom).2 (List.mem_filter.mp hidiom').2

end Program

/-! ## The branch that is taken -/

namespace Query

variable {σ : Type} {q : Query σ} {s : σ}

/-- The constructions outside all pairs. -/
theorem dispatch_eq_newExpression_iff :
    q.dispatch s = some .newExpression ↔
      q.isFindViewById s = false ∧ q.isGetChildAt s = false ∧ q.isNewExpression s = true := by
  have hnull : q.isNewExpression s = true → q.isNullAssignment s = false := by
    unfold isNewExpression isConstruction isNullAssignment
    cases q.rhs s with
    | none => simp
    | some value => cases value <;> simp
  unfold dispatch
  split_ifs <;> simp_all

theorem satisfies_of_dispatch {k : Idiom} (hk : q.dispatch s = some k) :
    q.satisfies s k = true := by
  rw [dispatch_eq_find?] at hk
  exact List.find?_some hk

theorem callSignature_of_callsOneOf {signatures : List String}
    (hcall : q.callsOneOf signatures s = true) :
    ∃ signature, q.callSignature s = some signature := by
  unfold callsOneOf at hcall
  cases hsignature : q.callSignature s with
  | none => simp [hsignature] at hcall
  | some signature => exact ⟨signature, rfl⟩

end Query

namespace Work

variable {σ : Type} [DecidableEq σ]

/-- What is done at a site for the idiom that counts there. An idiom of a
call counts only where there is one, so that its signature is known. -/
def follow (t : Task σ) (s : σ) (w : Work σ) : Option Idiom → Work σ × Option Error
  | some .findViewById =>
    match t.query.constructionOf s with
    | .error e => (w, some e)
    | .ok construction =>
      if construction = s then
        match t.query.viewLookupOf s with
        | .error e => (w, some e)
        | .ok call => (w.lookup t s call (t.query.constructedClass s), none)
      else (w, none)
  | some .getChildAt =>
    match t.query.childConstructionOf s with
    | .error e => (w, some e)
    | .ok construction =>
      if construction = s then (w.childAt t s (t.query.childCallOf s), none) else (w, none)
  | some .nullAssignment => (w.unbindLocal (t.query.definedLocal s), none)
  | some .newExpression => (w.allocate t s (t.query.constructedClass s), none)
  | some .inflate => (w.inflate t s ((t.query.callSignature s).getD ""), none)
  | some .addView => (w.addView t s, none)
  | some .getView => (w.adapterRow t s ((t.query.callSignature s).getD ""), none)
  | some .getListView => (w.listView t s, none)
  | none =>
    match t.query.callSignature s with
    | some signature => (w.perform t s (Query.callAction signature), none)
    | none => (w, none)

/-- A step takes the branch of the idiom that is dispatched. -/
theorem step_eq_follow (t : Task σ) (s : σ) (w : Work σ) :
    w.step t s = (w.noteCall t s).follow t s (t.query.dispatch s) := by
  rw [step_eq]
  unfold Query.action
  cases hdispatch : t.query.dispatch s with
  | none =>
      unfold follow
      cases t.query.callSignature s <;> rfl
  | some k =>
      have hk := Query.satisfies_of_dispatch hdispatch
      cases k with
      | findViewById =>
          unfold follow
          cases t.query.constructionOf s with
          | error e => rfl
          | ok construction =>
              simp only [bind, Except.bind]
              by_cases hself : construction = s
              · rw [if_pos hself, if_pos hself]
                cases t.query.viewLookupOf s <;> rfl
              · rw [if_neg hself, if_neg hself]
                rfl
      | getChildAt =>
          unfold follow
          cases t.query.childConstructionOf s with
          | error e => rfl
          | ok construction =>
              simp only [bind, Except.bind]
              by_cases hself : construction = s
              · rw [if_pos hself, if_pos hself]
                rfl
              · rw [if_neg hself, if_neg hself]
                rfl
      | nullAssignment => rfl
      | newExpression => rfl
      | inflate =>
          obtain ⟨signature, hsignature⟩ := Query.callSignature_of_callsOneOf hk
          rw [hsignature, follow, hsignature]
          rfl
      | addView =>
          obtain ⟨signature, hsignature⟩ := Query.callSignature_of_callsOneOf hk
          rw [hsignature]
          rfl
      | getView =>
          obtain ⟨signature, hsignature⟩ := Query.callSignature_of_callsOneOf hk
          rw [hsignature, follow, hsignature]
          rfl
      | getListView =>
          obtain ⟨signature, hsignature⟩ := Query.callSignature_of_callsOneOf hk
          rw [hsignature]
          rfl

end Work

/-- The classification of a program's code decides what is done. At every
site, in the program or not, an instruction takes part in at most one of
the idioms of one instruction; the idiom that is dispatched is the primary
one; and work at the site takes the branch of the primary idiom, from
whatever state and for whatever oracle and origin. -/
theorem Program.step_follows_primary (p : Program) (s : Site) :
    ((p.query.idioms s).filter (· ∈ Idiom.singles)).length ≤ 1 ∧
      p.query.dispatch s = p.query.primaryIdiom? s ∧
      ∀ (oracle : Oracle Site) (origin : Origin) (w : Work Site),
        let t : Task Site := ⟨p.query, oracle, origin⟩
        w.step t s = (w.noteCall t s).follow t s (p.query.primaryIdiom? s) := by
  refine ⟨length_filter_singles_le p s, dispatch_eq_primaryIdiom? p s, ?_⟩
  intro oracle origin w t
  rw [Work.step_eq_follow, show t.query.dispatch s = _ from dispatch_eq_primaryIdiom? p s]

/-- Answers that contradict one another: the instruction inflates a layout,
and what it assigns is a new object. -/
example :
    let table : Table := ⟨[⟨"void onCreate()",
      [{ containsCall := true, callSignature := Toolkit.inflate.head?, isAssignment := true,
         rhs := some (.new "android.view.View") }]⟩]⟩
    table.query.primaryIdiom? ⟨0, 0⟩ = some .inflate ∧
      table.query.dispatch ⟨0, 0⟩ = some .newExpression := by
  decide +kernel

end UiRecovery
