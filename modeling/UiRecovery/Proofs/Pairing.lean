import UiRecovery.Code.Program
import UiRecovery.Idiom

/-!
# Lookups and their constructions

A view that is looked up is taken for the widget that the next instruction
constructs. `Query.constructionOf` leads from the lookup to the
construction and `Query.viewLookupOf` back. Each looks at the instruction
that it is asked about and at one neighbour, but not with the same
questions: on the way there a lookup has to be assigned and to be followed
by a construction, on the way back a construction has to be preceded by a
lookup that is assigned.

For the code of a program both come to the same. `AssignsLookup` and
`AssignsNew` say of the listing what the two instructions of a pair are,
and the first part of this module puts each question of the query into
these words. Then `constructionOf_eq_ok_iff` and `viewLookupOf_eq_ok_iff`
have one condition: the two instructions stand one behind the other.
-/

namespace UiRecovery

/-- The position behind, in the same method. -/
def Site.next (s : Site) : Site := ⟨s.method, s.index + 1⟩

theorem Site.next_injective {a b : Site} (h : a.next = b.next) : a = b := by
  obtain ⟨m, i⟩ := a
  obtain ⟨m', i'⟩ := b
  simp only [next, Site.mk.injEq] at h
  obtain ⟨rfl, hindex⟩ := h
  rw [Nat.succ.inj hindex]

namespace Program

variable {p : Program} {a b s : Site}

/-- The instruction assigns what a view lookup gives. -/
def AssignsLookup (p : Program) (s : Site) : Prop :=
  ∃ target call, p.instruction? s = some ⟨some target, .call call⟩ ∧
    call.signature ∈ Toolkit.findById

/-- The instruction assigns a new object. -/
def AssignsNew (p : Program) (s : Site) : Prop :=
  ∃ target className, p.instruction? s = some ⟨some target, .new className⟩

/-! ## The questions about one instruction -/

theorem isAssignment_iff :
    p.query.isAssignment s = true ↔
      ∃ target expr, p.instruction? s = some ⟨some target, expr⟩ := by
  show ((p.instruction? s).bind Instruction.target).isSome = true ↔ _
  cases p.instruction? s with
  | none => simp
  | some i =>
      obtain ⟨target, expr⟩ := i
      cases target <;> simp

theorem callsOneOf_iff {signatures : List String} :
    p.query.callsOneOf signatures s = true ↔
      ∃ target call,
        p.instruction? s = some ⟨target, .call call⟩ ∧ call.signature ∈ signatures := by
  show ((p.call? s).isSome && ((p.call? s).map Call.signature).any signatures.contains) = true ↔ _
  unfold call?
  cases p.instruction? s with
  | none => simp
  | some i =>
      obtain ⟨target, expr⟩ := i
      cases expr <;> simp [Instruction.call?, and_assoc]

theorem isLookupCall_iff :
    p.query.isLookupCall s = true ↔
      ∃ target call, p.instruction? s = some ⟨target, .call call⟩ ∧
        call.signature ∈ Toolkit.findById :=
  callsOneOf_iff

theorem assignsLookup_iff :
    p.AssignsLookup s ↔ p.query.isAssignment s = true ∧ p.query.isLookupCall s = true := by
  rw [isAssignment_iff, isLookupCall_iff]
  constructor
  · rintro ⟨target, call, hs, hcall⟩
    exact ⟨⟨target, _, hs⟩, _, call, hs, hcall⟩
  · rintro ⟨⟨target, expr, hs⟩, target', call, hs', hcall⟩
    rw [hs] at hs'
    cases hs'
    exact ⟨target, call, hs, hcall⟩

/-- Only an assignment has a right-hand side, so that a construction is
assigned. -/
theorem isConstruction_iff : p.query.isConstruction s = true ↔ p.AssignsNew s := by
  unfold Query.isConstruction AssignsNew
  rw [show p.query.rhs s = p.rhs? s from rfl]
  unfold rhs?
  cases p.instruction? s with
  | none => simp
  | some i =>
      obtain ⟨target, expr⟩ := i
      cases target <;> cases expr <;> simp

theorem AssignsNew.isAssignment (hs : p.AssignsNew s) : p.query.isAssignment s = true := by
  obtain ⟨target, className, hs⟩ := hs
  exact isAssignment_iff.mpr ⟨target, _, hs⟩

theorem isNewExpression_iff : p.query.isNewExpression s = true ↔ p.AssignsNew s := by
  unfold Query.isNewExpression
  rw [Bool.and_eq_true, isConstruction_iff]
  exact ⟨fun hs => hs.2, fun hs => ⟨hs.isAssignment, hs⟩⟩

/-- What is assigned is the result of a call or a new object, not both. -/
theorem AssignsNew.isLookupCall (hs : p.AssignsNew s) : p.query.isLookupCall s = false := by
  obtain ⟨target, className, hs⟩ := hs
  refine Bool.eq_false_iff.mpr fun hlookup => ?_
  obtain ⟨target', call, hs', -⟩ := isLookupCall_iff.mp hlookup
  rw [hs] at hs'
  cases hs'

/-! ## Neighbours -/

theorem before?_eq_some_iff :
    p.before? b = some a ↔ b = a.next ∧ (p.instruction? a).isSome = true := by
  obtain ⟨m, i⟩ := b
  unfold before?
  cases i with
  | zero => simp [Site.next]
  | succ i =>
      dsimp only
      rw [if_neg (Nat.succ_ne_zero i), Nat.add_sub_cancel]
      constructor
      · intro h
        split at h
        · rename_i hsome
          obtain rfl := Option.some.inj h
          exact ⟨rfl, hsome⟩
        · cases h
      · rintro ⟨hnext, hsome⟩
        obtain rfl : (⟨m, i⟩ : Site) = a := Site.next_injective hnext
        rw [if_pos hsome]

theorem after?_eq_some_iff :
    p.after? a = some b ↔ b = a.next ∧ (p.instruction? b).isSome = true := by
  show (if (p.instruction? a.next).isSome then some a.next else none) = some b ↔ _
  constructor
  · intro h
    split at h
    · rename_i hsome
      obtain rfl := Option.some.inj h
      exact ⟨rfl, hsome⟩
    · cases h
  · rintro ⟨rfl, hsome⟩
    rw [if_pos hsome]

/-- The two instructions of a pair stand one behind the other. -/
theorem AssignsLookup.before? (ha : p.AssignsLookup a) : p.before? a.next = some a := by
  obtain ⟨target, call, ha, -⟩ := ha
  exact before?_eq_some_iff.mpr ⟨rfl, by rw [ha]; rfl⟩

theorem AssignsNew.after? (hb : p.AssignsNew a.next) : p.after? a = some a.next := by
  obtain ⟨target, className, hb⟩ := hb
  exact after?_eq_some_iff.mpr ⟨rfl, by rw [hb]; rfl⟩

/-! ## From the lookup to the construction -/

theorem AssignsLookup.isFindViewById (ha : p.AssignsLookup a) :
    p.query.isFindViewById a = true := by
  unfold Query.isFindViewById
  rw [(assignsLookup_iff.mp ha).2]
  rfl

theorem AssignsLookup.isFindViewById_next (ha : p.AssignsLookup a) :
    p.query.isFindViewById a.next = true := by
  unfold Query.isFindViewById
  rw [show p.query.predecessor a.next = some a from ha.before?, Option.any_some,
    (assignsLookup_iff.mp ha).2, Bool.or_true]

/-- A lookup is no construction, so that its successor decides. -/
theorem AssignsLookup.constructionOf (ha : p.AssignsLookup a) :
    p.query.constructionOf a =
      match p.after? a with
      | some b =>
        if p.query.isNewExpression b then .ok b
        else .error (p.query.malformed a .noConstruction)
      | none => .error (p.query.malformed a .noConstruction) := by
  have hassigned := (assignsLookup_iff.mp ha).1
  have hconstruction : p.query.isConstruction a = false := by
    refine Bool.eq_false_iff.mpr fun hnew => ?_
    have hcall := (isConstruction_iff.mp hnew).isLookupCall
    rw [(assignsLookup_iff.mp ha).2] at hcall
    cases hcall
  unfold Query.constructionOf Query.constructionNear
  rw [if_pos ha.isFindViewById, hassigned, hconstruction]
  simp only [Bool.not_true, Bool.false_eq_true, if_false]
  rw [show p.query.successor a = p.after? a from rfl]
  cases p.after? a <;> rfl

theorem constructionOf_of_assignsNew (ha : p.AssignsLookup a) (hb : p.AssignsNew a.next) :
    p.query.constructionOf a = .ok a.next := by
  rw [ha.constructionOf, hb.after?]
  dsimp only
  rw [if_pos (isNewExpression_iff.mpr hb)]

theorem constructionOf_of_not_assignsNew (ha : p.AssignsLookup a)
    (hb : ¬p.AssignsNew a.next) :
    p.query.constructionOf a = .error (p.query.malformed a .noConstruction) := by
  rw [ha.constructionOf]
  cases hafter : p.after? a with
  | none => rfl
  | some b =>
      obtain ⟨rfl, -⟩ := after?_eq_some_iff.mp hafter
      dsimp only
      rw [if_neg (mt isNewExpression_iff.mp hb)]

theorem constructionOf_eq_ok_iff (ha : p.AssignsLookup a) :
    p.query.constructionOf a = .ok b ↔ b = a.next ∧ p.AssignsNew b := by
  by_cases hnext : p.AssignsNew a.next
  · rw [constructionOf_of_assignsNew ha hnext, Except.ok.injEq]
    constructor
    · rintro rfl
      exact ⟨rfl, hnext⟩
    · rintro ⟨rfl, -⟩
      rfl
  · rw [constructionOf_of_not_assignsNew ha hnext]
    constructor
    · intro h
      cases h
    · rintro ⟨rfl, hb⟩
      exact absurd hb hnext

/-- A construction is its own. -/
theorem constructionOf_next (ha : p.AssignsLookup a) (hb : p.AssignsNew a.next) :
    p.query.constructionOf a.next = .ok a.next := by
  unfold Query.constructionOf Query.constructionNear
  rw [if_pos ha.isFindViewById_next, hb.isAssignment, isConstruction_iff.mpr hb]
  rfl

/-! ## From the construction to the lookup -/

/-- A lookup is its own, whatever stands before it. -/
theorem viewLookupOf_of_assignsLookup (ha : p.AssignsLookup a) :
    p.query.viewLookupOf a = .ok a := by
  obtain ⟨hassigned, hlookup⟩ := assignsLookup_iff.mp ha
  unfold Query.viewLookupOf
  rw [ha.isFindViewById, hassigned, hlookup]
  rfl

theorem viewLookupOf_eq_ok_iff (hb : p.AssignsNew b) :
    p.query.viewLookupOf b = .ok a ↔ b = a.next ∧ p.AssignsLookup a := by
  constructor
  · intro h
    unfold Query.viewLookupOf at h
    rw [hb.isAssignment, hb.isLookupCall] at h
    split at h
    · cases h
    · simp only [Bool.not_true, Bool.false_eq_true, if_false] at h
      split at h
      · rename_i previous hbefore
        split at h
        · rename_i hlookup
          obtain rfl := Except.ok.inj h
          rw [Bool.and_eq_true] at hlookup
          exact ⟨(before?_eq_some_iff.mp hbefore).1, assignsLookup_iff.mpr hlookup⟩
        · cases h
      · cases h
  · rintro ⟨rfl, ha⟩
    obtain ⟨hassigned, hlookup⟩ := assignsLookup_iff.mp ha
    unfold Query.viewLookupOf
    rw [ha.isFindViewById_next, hb.isAssignment, hb.isLookupCall,
      show p.query.predecessor a.next = some a from ha.before?]
    simp [hassigned, hlookup]

/-! ## Pairs -/

/-- Lookups and constructions are paired one to one. A lookup that is
assigned leads to the instruction behind it if that one constructs, and to
nothing else; without a construction behind it the lookup is malformed.
From either part of a pair both accessors lead to the same two sites. A
construction leads back to the instruction before it only, and only if
that one leads to the construction. So no construction has two lookups, in
whatever direction one asks. -/
theorem lookup_pairs_inverse (p : Program) :
    (∀ a, p.AssignsLookup a →
      (∀ b, p.query.constructionOf a = .ok b ↔ b = a.next ∧ p.AssignsNew b) ∧
        (¬p.AssignsNew a.next →
          p.query.constructionOf a = .error (.malformedIdiom (p.query.describe a)
            (p.query.methodOf a) "wrong new expression for a view")) ∧
        ∀ b, p.query.constructionOf a = .ok b →
          p.query.constructionOf b = .ok b ∧ p.query.viewLookupOf b = .ok a ∧
            p.query.viewLookupOf a = .ok a) ∧
      (∀ a b, p.AssignsNew b → p.query.viewLookupOf b = .ok a →
        b = a.next ∧ p.AssignsLookup a ∧ p.query.constructionOf a = .ok b) ∧
      ∀ a a' b, p.AssignsLookup a → p.AssignsLookup a' → p.query.constructionOf a = .ok b →
        p.query.constructionOf a' = .ok b ∨ p.query.viewLookupOf b = .ok a' → a = a' := by
  refine ⟨fun a ha => ⟨fun b => constructionOf_eq_ok_iff ha, ?_, ?_⟩, ?_, ?_⟩
  · exact constructionOf_of_not_assignsNew ha
  · intro b hpair
    obtain ⟨rfl, hb⟩ := (constructionOf_eq_ok_iff ha).mp hpair
    exact ⟨constructionOf_next ha hb, (viewLookupOf_eq_ok_iff hb).mpr ⟨rfl, ha⟩,
      viewLookupOf_of_assignsLookup ha⟩
  · intro a b hb hback
    obtain ⟨rfl, ha⟩ := (viewLookupOf_eq_ok_iff hb).mp hback
    exact ⟨rfl, ha, constructionOf_of_assignsNew ha hb⟩
  · intro a a' b ha ha' hpair hother
    obtain ⟨hnext, hb⟩ := (constructionOf_eq_ok_iff ha).mp hpair
    have hnext' : b = a'.next := by
      rcases hother with hpair' | hback
      · exact ((constructionOf_eq_ok_iff ha').mp hpair').1
      · exact ((viewLookupOf_eq_ok_iff hb).mp hback).1
    exact Site.next_injective (hnext.symm.trans hnext')

/-- A call of `findViewById`, which may be assigned. -/
def lookupInto (target : Option String) : Instruction where
  target := target
  expr := .call ⟨"android.view.View findViewById(int)", some "this", [.int 7]⟩

/-- Two lookups in a row, the second with its construction; a construction
behind a lookup that is not assigned; and a lookup at the end. -/
def lookupsInARow : Program where
  methods :=
    [{ signature := "void onCreate(android.os.Bundle)"
       instructions :=
        [lookupInto (some "first"), lookupInto (some "second"),
          ⟨some "button", .new "android.widget.Button"⟩, lookupInto none,
          ⟨some "label", .new "android.widget.TextView"⟩, lookupInto (some "last")] }]

theorem lookup_pairs_inverse_lookupsInARow :
    let p := lookupsInARow
    (∀ i ∈ [0, 1, 5], p.AssignsLookup ⟨0, i⟩) ∧ p.AssignsNew ⟨0, 2⟩ ∧ p.AssignsNew ⟨0, 4⟩ ∧
      p.query.constructionOf ⟨0, 1⟩ = .ok ⟨0, 2⟩ ∧ p.query.constructionOf ⟨0, 2⟩ = .ok ⟨0, 2⟩ ∧
      p.query.viewLookupOf ⟨0, 2⟩ = .ok ⟨0, 1⟩ ∧ p.query.viewLookupOf ⟨0, 1⟩ = .ok ⟨0, 1⟩ ∧
      (∀ i ∈ [0, 5], p.query.constructionOf ⟨0, i⟩ = .error (.malformedIdiom
        (p.query.describe ⟨0, i⟩) (p.query.methodOf ⟨0, i⟩) "wrong new expression for a view")) ∧
      ∀ a, p.query.viewLookupOf ⟨0, 4⟩ ≠ .ok a := by
  intro p
  obtain ⟨hthere, hback, -⟩ := lookup_pairs_inverse p
  have hlookups : ∀ i ∈ [0, 1, 5], p.AssignsLookup ⟨0, i⟩ := by
    intro i hi
    simp only [List.mem_cons, List.not_mem_nil, or_false] at hi
    rcases hi with rfl | rfl | rfl <;> exact ⟨_, _, rfl, by decide +kernel⟩
  have hbutton : p.AssignsNew ⟨0, 2⟩ := ⟨_, _, rfl⟩
  have hlabel : p.AssignsNew ⟨0, 4⟩ := ⟨_, _, rfl⟩
  have hsecond := hlookups 1 (by decide)
  have hpair : p.query.constructionOf ⟨0, 1⟩ = .ok ⟨0, 2⟩ :=
    ((hthere ⟨0, 1⟩ hsecond).1 ⟨0, 2⟩).mpr ⟨rfl, hbutton⟩
  obtain ⟨hself, hlookup, hlookupSelf⟩ := (hthere ⟨0, 1⟩ hsecond).2.2 ⟨0, 2⟩ hpair
  refine ⟨hlookups, hbutton, hlabel, hpair, hself, hlookup, hlookupSelf, ?_, ?_⟩
  · intro i hi
    refine (hthere ⟨0, i⟩ (hlookups i ?_)).2.1 ?_
    · exact (show [0, 5] ⊆ [0, 1, 5] by decide) hi
    · simp only [List.mem_cons, List.not_mem_nil, or_false] at hi
      rcases hi with rfl | rfl
      · rintro ⟨target, className, hnew⟩
        cases hnew
      · rintro ⟨target, className, hnew⟩
        cases hnew
  · -- The instruction before is a lookup, but nothing is assigned there.
    intro a ha
    obtain ⟨hnext, hassigned, -⟩ := hback a ⟨0, 4⟩ hlabel ha
    obtain rfl : ⟨0, 3⟩ = a := Site.next_injective hnext
    obtain ⟨target, call, hinstruction, -⟩ := hassigned
    cases hinstruction

end Program

end UiRecovery
