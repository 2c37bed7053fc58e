import Mathlib.Data.Finset.Card
import UiRecovery.Proofs.Tagging

/-!
# Attribution is a multimap

An attribution is built by tags, each of an element or a call with an
origin, in any order and as often as one likes. What it answers is here
read off from the list of the tags alone.

One table is enough to look at, since a tag of an element leaves the calls
alone and the other way round (`tables_ofHistory`).
`OrderedMap.ofTags` is such a table, and three equations say what it holds:

- **keys** (`keys_ofTags`): in the order in which they were first tagged,
  with whatever origin;
- **origins of a key** (`tagsOf_ofTags`): in the order in which the key was
  first tagged with them;
- **keys of an origin** (`taggedWith_eq_filter`): those of the keys that
  have it, so in the order of the keys, and not in that of the tags with
  this origin.

Each of the first two is one induction, on the tag that came last.
-/

namespace UiRecovery

/-! ## First occurrences -/

/-- A further element is listed last, unless it is there already. -/
theorem eraseDups_concat {α : Type} [DecidableEq α] (as : List α) (a : α) :
    (as ++ [a]).eraseDups = if a ∈ as then as.eraseDups else as.eraseDups ++ [a] := by
  rw [List.eraseDups_append]
  by_cases ha : a ∈ as
  · simp [List.removeAll, ha]
  · simp [List.removeAll, ha, List.eraseDups_cons]

theorem nodup_eraseDups {α : Type} [DecidableEq α] (as : List α) : as.eraseDups.Nodup := by
  induction as using List.reverseRecOn with
  | nil => exact List.nodup_nil
  | append_singleton as a ih =>
      rw [eraseDups_concat]
      split
      · exact ih
      · rename_i ha
        rw [← List.concat_eq_append]
        exact ih.concat fun hmem => ha (List.mem_eraseDups.mp hmem)

namespace OrderedMap

variable {κ : Type} [DecidableEq κ]

/-! ## One table -/

/-- The table after tags of keys with origins, the first one first. -/
def ofTags (tags : List (κ × Origin)) : OrderedMap κ (OrderedSet Origin) :=
  tags.foldl (fun m e => m.tag e.1 e.2) ∅

theorem ofTags_concat (tags : List (κ × Origin)) (e : κ × Origin) :
    ofTags (tags ++ [e]) = (ofTags tags).tag e.1 e.2 :=
  List.foldl_append

theorem keys_ofTags (tags : List (κ × Origin)) :
    (ofTags tags).keys = (tags.map Prod.fst).eraseDups := by
  induction tags using List.reverseRecOn with
  | nil => rfl
  | append_singleton tags e ih =>
      rw [ofTags_concat, keys_tag, ih, List.map_append, List.map_singleton, eraseDups_concat]
      simp only [List.mem_eraseDups]

/-- The origins of a key that is tagged once more. -/
theorem tagsOf_tag_self (m : OrderedMap κ (OrderedSet Origin)) (k : κ) (o : Origin) :
    (m.tag k o).tagsOf k = if o ∈ m.tagsOf k then m.tagsOf k else m.tagsOf k ++ [o] := by
  unfold tagsOf
  rw [get?_tag, if_pos rfl]
  cases m.get? k with
  | none => exact OrderedSet.toList_insert ∅ o
  | some origins => exact origins.toList_insert o

theorem tagsOf_ofTags (tags : List (κ × Origin)) (k : κ) :
    (ofTags tags).tagsOf k = ((tags.filter fun e => e.1 = k).map Prod.snd).eraseDups := by
  induction tags using List.reverseRecOn with
  | nil => rfl
  | append_singleton tags e ih =>
      rw [ofTags_concat, List.filter_append, List.map_append]
      by_cases hk : e.1 = k
      · subst hk
        simp only [tagsOf_tag_self, ih, List.filter_singleton, decide_true, cond_true,
          List.map_singleton, eraseDups_concat, List.mem_eraseDups]
      · rw [tagsOf_tag_of_ne (Ne.symm hk), ih]
        simp [hk]

theorem mem_tagsOf_ofTags {tags : List (κ × Origin)} {k : κ} {o : Origin} :
    o ∈ (ofTags tags).tagsOf k ↔ (k, o) ∈ tags := by
  rw [tagsOf_ofTags, List.mem_eraseDups, List.mem_map]
  constructor
  · rintro ⟨⟨k', o'⟩, hmem, rfl⟩
    obtain ⟨htag, hk⟩ := List.mem_filter.mp hmem
    obtain rfl : k' = k := of_decide_eq_true hk
    exact htag
  · intro hmem
    exact ⟨(k, o), List.mem_filter.mpr ⟨hmem, decide_eq_true rfl⟩, rfl⟩

/-- The keys of an origin are listed as keys are. -/
theorem taggedWith_eq_filter (m : OrderedMap κ (OrderedSet Origin)) (o : Origin) :
    m.taggedWith o = m.keys.filter fun k => o ∈ m.tagsOf k := by
  have hentries : ∀ e ∈ m.entries, decide (o ∈ e.2) = decide (o ∈ m.tagsOf e.1) := by
    intro e he
    have hget : m.get? e.1 = some e.2 := get?_eq_some_iff.mpr he
    have hmem : o ∈ e.2 ↔ o ∈ m.tagsOf e.1 := by
      rw [mem_tagsOf, hget]
      simp
    exact decide_eq_decide.mpr hmem
  unfold taggedWith keys
  rw [List.filter_map, List.filter_congr hentries]
  rfl

omit [DecidableEq κ] in
theorem size_eq_length_keys {ν : Type} (m : OrderedMap κ ν) : m.size = m.keys.length :=
  (List.length_map Prod.fst).symm

end OrderedMap

/-- The answers of a table in both directions, with the number of its keys,
are those of a list of tags. -/
structure Multimap {κ : Type} [DecidableEq κ] (tags : List (κ × Origin))
    (originsOf : κ → List Origin) (keysOf : Origin → List κ) (count : Nat) : Prop where
  mem_originsOf : ∀ k o, o ∈ originsOf k ↔ (k, o) ∈ tags
  mem_keysOf : ∀ k o, k ∈ keysOf o ↔ (k, o) ∈ tags
  /-- Origins by the age of their first tag of the key. -/
  originsOf_eq : ∀ k, originsOf k = ((tags.filter fun e => e.1 = k).map Prod.snd).eraseDups
  /-- Keys by the age of their first tag with any origin. -/
  keysOf_eq : ∀ o, keysOf o = (tags.map Prod.fst).eraseDups.filter fun k => (k, o) ∈ tags
  nodup_originsOf : ∀ k, (originsOf k).Nodup
  nodup_keysOf : ∀ o, (keysOf o).Nodup
  count_eq : count = (tags.map Prod.fst).toFinset.card

theorem OrderedMap.multimap_ofTags {κ : Type} [DecidableEq κ] (tags : List (κ × Origin)) :
    Multimap tags (ofTags tags).tagsOf (ofTags tags).taggedWith (ofTags tags).size where
  mem_originsOf _ _ := mem_tagsOf_ofTags
  mem_keysOf _ _ := mem_taggedWith.trans mem_tagsOf_ofTags
  originsOf_eq := tagsOf_ofTags tags
  keysOf_eq o := by
    rw [taggedWith_eq_filter, keys_ofTags]
    simp only [mem_tagsOf_ofTags]
  nodup_originsOf k := by
    rw [tagsOf_ofTags]
    exact nodup_eraseDups _
  nodup_keysOf o := by
    rw [taggedWith_eq_filter]
    exact (ofTags tags).nodup_keys.filter _
  count_eq := by
    have hkeys : (tags.map Prod.fst).toFinset = (tags.map Prod.fst).eraseDups.toFinset := by
      ext k
      rw [List.mem_toFinset, List.mem_toFinset, List.mem_eraseDups]
    rw [size_eq_length_keys, keys_ofTags, hkeys, List.toFinset_card_of_nodup (nodup_eraseDups _)]

/-! ## Histories of tags -/

/-- A fact that is attributed to an origin. -/
inductive Tagging where
  | element (guid : Guid) (o : Origin)
  | call (signature : String) (o : Origin)
deriving DecidableEq, Repr

namespace Tagging

def origin : Tagging → Origin
  | .element _ o => o
  | .call _ o => o

def element? : Tagging → Option (Guid × Origin)
  | .element guid o => some (guid, o)
  | .call _ _ => none

def call? : Tagging → Option (String × Origin)
  | .element _ _ => none
  | .call signature o => some (signature, o)

end Tagging

namespace Attribution

/-- Attribute a fact, and say whether it was not yet attributed to the
origin. -/
def record (a : Attribution) : Tagging → Bool × Attribution
  | .element guid o => a.tagElementNew guid o
  | .call signature o => a.tagCallNew signature o

/-- The attribution after the given tags, the first one first. -/
def ofHistory (history : List Tagging) : Attribution :=
  history.foldl (fun a t => (a.record t).2) {}

theorem ofHistory_concat (history : List Tagging) (t : Tagging) :
    ofHistory (history ++ [t]) = ((ofHistory history).record t).2 :=
  List.foldl_append

/-- A tag goes into one of the two tables, and leaves the other alone. -/
theorem tables_ofHistory (history : List Tagging) :
    (ofHistory history).elements = .ofTags (history.filterMap Tagging.element?) ∧
      (ofHistory history).calls = .ofTags (history.filterMap Tagging.call?) := by
  induction history using List.reverseRecOn with
  | nil => exact ⟨rfl, rfl⟩
  | append_singleton history t ih =>
      obtain ⟨helements, hcalls⟩ := ih
      rw [ofHistory_concat, List.filterMap_append, List.filterMap_append]
      cases t with
      | element guid o =>
          refine ⟨Eq.trans ?_ (OrderedMap.ofTags_concat _ (guid, o)).symm, Eq.trans hcalls ?_⟩
          · rw [← helements]
            rfl
          · exact congrArg _ (List.append_nil _).symm
      | call signature o =>
          refine ⟨Eq.trans helements ?_,
            Eq.trans ?_ (OrderedMap.ofTags_concat _ (signature, o)).symm⟩
          · exact congrArg _ (List.append_nil _).symm
          · rw [← hcalls]
            rfl

theorem mem_originsOf_ofHistory {history : List Tagging} {guid : Guid} {o : Origin} :
    o ∈ (ofHistory history).originsOf guid ↔ Tagging.element guid o ∈ history := by
  unfold originsOf
  rw [(tables_ofHistory history).1, OrderedMap.mem_tagsOf_ofTags, List.mem_filterMap]
  constructor
  · rintro ⟨t, ht, heq⟩
    cases t <;> cases heq
    exact ht
  · exact fun ht => ⟨_, ht, rfl⟩

theorem mem_originsOfCall_ofHistory {history : List Tagging} {signature : String} {o : Origin} :
    o ∈ (ofHistory history).originsOfCall signature ↔ Tagging.call signature o ∈ history := by
  unfold originsOfCall
  rw [(tables_ofHistory history).2, OrderedMap.mem_tagsOf_ofTags, List.mem_filterMap]
  constructor
  · rintro ⟨t, ht, heq⟩
    cases t <;> cases heq
    exact ht
  · exact fun ht => ⟨_, ht, rfl⟩

/-- A tag is new if it is not in the history. -/
theorem fst_record_ofHistory (history : List Tagging) (t : Tagging) :
    ((ofHistory history).record t).1 = true ↔ t ∉ history := by
  cases t with
  | element guid o =>
      rw [← mem_originsOf_ofHistory]
      simp [record, tagElementNew]
  | call signature o =>
      rw [← mem_originsOfCall_ofHistory]
      simp [record, tagCallNew]

/-- Origins are those of the two tables. -/
theorem mem_origins {a : Attribution} {o : Origin} :
    o ∈ a.origins ↔
      (∃ guid, o ∈ a.originsOf guid) ∨ ∃ signature, o ∈ a.originsOfCall signature := by
  have hvalues : ∀ {κ : Type} [DecidableEq κ] (m : OrderedMap κ (OrderedSet Origin)),
      (∃ origins ∈ m.values, o ∈ origins.toList) ↔ ∃ k, o ∈ m.tagsOf k := by
    intro κ _ m
    simp only [OrderedMap.mem_tagsOf, OrderedMap.get?_eq_some_iff, OrderedMap.values, List.mem_map,
      Prod.exists, exists_eq_right]
    constructor
    · rintro ⟨origins, ⟨k, hentry⟩, ho⟩
      exact ⟨k, origins, hentry, ho⟩
    · rintro ⟨k, origins, hentry, ho⟩
      exact ⟨origins, ⟨k, hentry⟩, ho⟩
  unfold origins
  rw [← OrderedSet.mem_def, OrderedSet.mem_ofList, List.mem_flatMap]
  simp only [List.mem_append, or_and_right, exists_or, hvalues]
  rfl

/-- An attribution reads its history back. Whatever was tagged, in whatever
order: a tag is reported as new just if it was not made before; the
elements and the calls are multimaps of their tags, in both directions,
with each answer in the order of first tags; and the origins are those of
the tags, each listed once. -/
theorem reads_history_back (history : List Tagging) :
    let a := ofHistory history
    (∀ t, (a.record t).1 = true ↔ t ∉ history) ∧
      Multimap (history.filterMap Tagging.element?) a.originsOf a.elementsOf a.elements.size ∧
      Multimap (history.filterMap Tagging.call?) a.originsOfCall a.callsOf a.calls.size ∧
      a.origins.Nodup ∧
      (∀ o, o ∈ a.origins ↔
        (∃ guid, o ∈ a.originsOf guid) ∨ ∃ signature, o ∈ a.originsOfCall signature) ∧
      ∀ o, o ∈ a.origins ↔ ∃ t ∈ history, t.origin = o := by
  intro a
  refine ⟨fst_record_ofHistory history, ?_, ?_, OrderedSet.nodup _, fun o => mem_origins, ?_⟩
  · unfold a originsOf elementsOf
    rw [(tables_ofHistory history).1]
    exact OrderedMap.multimap_ofTags _
  · unfold a originsOfCall callsOf
    rw [(tables_ofHistory history).2]
    exact OrderedMap.multimap_ofTags _
  · intro o
    rw [mem_origins]
    simp only [a, mem_originsOf_ofHistory, mem_originsOfCall_ofHistory]
    constructor
    · rintro (⟨guid, ht⟩ | ⟨signature, ht⟩)
      · exact ⟨_, ht, rfl⟩
      · exact ⟨_, ht, rfl⟩
    · rintro ⟨t, ht, rfl⟩
      cases t with
      | element guid o => exact Or.inl ⟨guid, ht⟩
      | call signature o => exact Or.inr ⟨signature, ht⟩

/-- The second element comes to the screen before the first one does, and
is listed behind it all the same. -/
example :
    (ofHistory [.element ⟨1⟩ (.fragment "List"), .element ⟨2⟩ (.activity "Main" ""),
      .element ⟨1⟩ (.activity "Main" "")]).elementsOf (.activity "Main" "") = [⟨1⟩, ⟨2⟩] := by
  decide +kernel

end Attribution

end UiRecovery
