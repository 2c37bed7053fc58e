import Mathlib.Data.List.Shortlex
import UiRecovery.Proofs.Flattening

/-!
# The nearest widget

A search by id comes to the nearest widget with that id. A path is a list
of positions: which child to take first, which of its children next, and
so on (`Scene.follow`). Of the paths to widgets with the id the search
takes the shortest, and of several that are as short the one that is first
in the order of positions (`Nearest`, `search_exact`).

The proof puts all paths into one list, the shortest first
(`routesBelow`). The ends of the paths of `n + 1` steps are the children of
the ends of the paths of `n` steps, in order. So a walk that expands the
earliest find first comes by the ends of this list, less those that it has
come by before (`layers_prefix`): a widget that is left out of a layer has
been expanded already, and its children are found. The first path of the
list whose end has the id is therefore the one that the search ends with.

`Searched` is the search without a bound on its steps, as `Walked` is the
walk. It looks at a widget when its turn comes, and stops there if the
widget fits.
-/

namespace UiRecovery

theorem fresh_eq_nil {found hs : List Nat} (hsub : hs ⊆ found) : fresh found hs = [] := by
  refine List.eq_nil_iff_forall_not_mem.mpr ?_
  intro x hx
  obtain ⟨hin, hnew⟩ := mem_fresh.mp hx
  exact hnew (hsub hin)

/-- Handles whose children are all found add nothing by being expanded. -/
theorem fresh_flatMap_fresh {next : Nat → List Nat} :
    ∀ (hs : List Nat) {done found : List Nat}, (∀ x ∈ done, next x ⊆ found) →
      fresh found ((fresh done hs).flatMap next) = fresh found (hs.flatMap next)
  | [], _, _, _ => rfl
  | h :: hs, done, found, hdone => by
      by_cases hh : h ∈ done
      · rw [fresh, if_pos hh, List.flatMap_cons, fresh_append, fresh_eq_nil (hdone h hh),
          List.nil_append, List.append_nil]
        exact fresh_flatMap_fresh hs hdone
      · rw [fresh, if_neg hh, List.flatMap_cons, List.flatMap_cons, fresh_append, fresh_append]
        refine congrArg _ (fresh_flatMap_fresh hs ?_)
        intro x hx y hy
        rcases List.mem_cons.mp hx with rfl | hx
        · by_cases hfound : y ∈ found
          · exact List.mem_append_left _ hfound
          · exact List.mem_append_right _ (mem_fresh.mpr ⟨hy, hfound⟩)
        · exact List.mem_append_left _ (hdone x hx hy)

/-- What is left out has been met before, so the first that fits is the
same. -/
theorem find?_fresh {p : Nat → Bool} : ∀ (hs : List Nat) {found : List Nat},
    (∀ x ∈ found, p x = false) → (fresh found hs).find? p = hs.find? p
  | [], _, _ => rfl
  | h :: hs, found, hfound => by
      by_cases hh : h ∈ found
      · rw [fresh, if_pos hh, find?_fresh hs hfound, List.find?_cons_of_neg (by simp [hfound h hh])]
      · rw [fresh, if_neg hh]
        cases hp : p h with
        | true => rw [List.find?_cons_of_pos hp, List.find?_cons_of_pos hp]
        | false =>
            have hfound' : ∀ x ∈ h :: found, p x = false := by
              intro x hx
              rcases List.mem_cons.mp hx with rfl | hx
              · exact hp
              · exact hfound x hx
            rw [List.find?_cons_of_neg (by simp [hp]), List.find?_cons_of_neg (by simp [hp])]
            exact find?_fresh hs hfound'

/-! ## A walk by layers -/

theorem prefix_explore {next : Nat → List Nat} {place : List Nat → List Nat → List Nat} :
    ∀ (n : Nat) (found waiting : List Nat), found <+: explore next place n found waiting
  | 0, _, _ => List.prefix_rfl
  | _ + 1, _, [] => List.prefix_rfl
  | n + 1, _, _ :: _ => (List.prefix_append ..).trans (prefix_explore n _ _)

/-- All of a layer is expanded before what it adds. -/
theorem explore_layer (next : Nat → List Nat) (n : Nat) :
    ∀ (layer found waiting : List Nat),
      explore next placeFirst (n + layer.length) found (layer ++ waiting) =
        explore next placeFirst n (found ++ fresh found (layer.flatMap next))
          (waiting ++ fresh found (layer.flatMap next))
  | [], found, waiting => by simp [fresh]
  | h :: layer, found, waiting => by
      have hrest := explore_layer next n layer (found ++ fresh found (next h))
        (waiting ++ fresh found (next h))
      rw [List.append_assoc, List.append_assoc, ← fresh_append] at hrest
      rw [List.flatMap_cons, ← hrest, ← List.append_assoc]
      rfl

/-! ## Searches without a bound -/

/-- The search that goes on from `found`, with `waiting` yet to be looked
at, ends with `result`. -/
inductive Searched (next : Nat → List Nat) (fits : Nat → Bool) :
    List Nat → List Nat → Option Nat → Prop
  | missed (found : List Nat) : Searched next fits found [] none
  | hit {found waiting : List Nat} {h : Nat} (hh : fits h = true) :
      Searched next fits found (h :: waiting) (some h)
  | expand {found waiting : List Nat} {h : Nat} {result : Option Nat} (hh : fits h = false)
      (hrest : Searched next fits (found ++ fresh found (next h))
        (waiting ++ fresh found (next h)) result) :
      Searched next fits found (h :: waiting) result

/-- What has been expanded stands before what waits, and did not fit. -/
theorem Exploring.searched {next : Nat → List Nat} {fits : Nat → Bool} {all : List Nat}
    (hnext : ∀ x, next x ⊆ all) :
    ∀ {steps : Nat} {expanded waiting : List Nat},
      Exploring next all steps (expanded ++ waiting) waiting → (∀ x ∈ expanded, fits x = false) →
      Searched next fits (expanded ++ waiting) waiting
        ((explore next placeFirst steps (expanded ++ waiting) waiting).find? fits)
  | 0, expanded, waiting, hw, hmiss => by
      obtain rfl := hw.waiting_eq_nil
      have hnone : (expanded ++ []).find? fits = none := by simpa using hmiss
      show Searched next fits (expanded ++ []) [] ((expanded ++ []).find? fits)
      rw [hnone]
      exact .missed _
  | _ + 1, expanded, [], _, hmiss => by
      have hnone : (expanded ++ []).find? fits = none := by simpa using hmiss
      show Searched next fits (expanded ++ []) [] ((expanded ++ []).find? fits)
      rw [hnone]
      exact .missed _
  | steps + 1, expanded, h :: waiting, hw, hmiss => by
      cases hh : fits h with
      | true =>
          have hfirst : (expanded ++ h :: waiting).find? fits = some h := by
            rw [List.find?_append, List.find?_eq_none.mpr (by simpa using hmiss),
              List.find?_cons_of_pos hh]
            rfl
          rw [(prefix_explore _ _ _).find?_eq_some hfirst]
          exact .hit hh
      | false =>
          have hmiss' : ∀ x ∈ expanded ++ [h], fits x = false := by
            intro x hx
            rcases List.mem_append.mp hx with hx | hx
            · exact hmiss x hx
            · rw [List.mem_singleton.mp hx]
              exact hh
          let new := fresh (expanded ++ h :: waiting) (next h)
          have hsplit :
              expanded ++ h :: waiting ++ new = (expanded ++ [h]) ++ (waiting ++ new) := by
            simp
          have hstep := hw.step hnext placeFirst_perm
          refine .expand hh ?_
          show Searched next fits (expanded ++ h :: waiting ++ new) (waiting ++ new)
            ((explore next placeFirst steps (expanded ++ h :: waiting ++ new)
              (waiting ++ new)).find? fits)
          rw [hsplit]
          refine searched hnext ?_ hmiss'
          rw [← hsplit]
          exact hstep

namespace Scene

variable {s : Scene} {h x n : Nat}

/-! ## Paths -/

/-- The widget at the end of a path from `h`, if there is such a path. -/
def follow (s : Scene) : Nat → List Nat → Option Nat
  | h, [] => some h
  | h, i :: path => ((s.children h)[i]?).bind fun c => s.follow c path

theorem reaches_of_follow : ∀ {path : List Nat} {h : Nat}, s.follow h path = some x → s.Reaches h x
  | [], h, hpath => by
      obtain rfl := Option.some.inj hpath
      exact .refl
  | i :: path, h, hpath => by
      obtain ⟨c, hc, hrest⟩ := Option.bind_eq_some_iff.mp hpath
      exact .head (List.mem_of_getElem? hc) (reaches_of_follow hrest)

theorem exists_follow (hx : s.Reaches h x) : ∃ path, s.follow h path = some x := by
  induction hx using Relation.ReflTransGen.head_induction_on with
  | refl => exact ⟨[], rfl⟩
  | head hc _ ih =>
      obtain ⟨i, hi⟩ := List.getElem?_of_mem hc
      obtain ⟨path, hpath⟩ := ih
      refine ⟨i :: path, ?_⟩
      rw [follow, hi]
      exact hpath

/-- The paths of `n` steps from `h`, each with its end, in the order of
positions. -/
def routes (s : Scene) : Nat → Nat → List (List Nat × Nat)
  | 0, h => [([], h)]
  | n + 1, h =>
    (s.children h).zipIdx.flatMap fun c => (s.routes n c.1).map fun r => (c.2 :: r.1, r.2)

theorem mem_routes : ∀ {n h x : Nat} {path : List Nat},
    (path, x) ∈ s.routes n h ↔ path.length = n ∧ s.follow h path = some x
  | 0, h, x, path => by
      cases path with
      | nil => simp [routes, follow, eq_comm]
      | cons i path => simp [routes]
  | n + 1, h, x, path => by
      cases path with
      | nil => simp [routes]
      | cons i path =>
          simp only [routes, List.mem_flatMap, List.mem_map, Prod.mk.injEq, List.cons.injEq,
            List.length_cons, Nat.add_right_cancel_iff, follow, Option.bind_eq_some_iff]
          constructor
          · rintro ⟨⟨c, j⟩, hc, ⟨path', x'⟩, hr, ⟨rfl, rfl⟩, rfl⟩
            obtain ⟨hlength, hpath⟩ := mem_routes.mp hr
            exact ⟨hlength, c, List.mem_zipIdx_iff_getElem?.mp hc, hpath⟩
          · rintro ⟨hlength, c, hc, hpath⟩
            exact ⟨(c, i), List.mem_zipIdx_iff_getElem?.mpr hc, (path, x),
              mem_routes.mpr ⟨hlength, hpath⟩, ⟨rfl, rfl⟩, rfl⟩

theorem pairwise_zipIdx (hs : List Nat) : hs.zipIdx.Pairwise fun c c' => c.2 < c'.2 := by
  have hpositions : (hs.zipIdx.map Prod.snd).Pairwise (· < ·) := by
    rw [List.zipIdx_map_snd]
    exact List.pairwise_lt_range'
  exact List.pairwise_map.mp hpositions

theorem pairwise_routes : ∀ (n h : Nat), (s.routes n h).Pairwise fun r r' => r.1 < r'.1
  | 0, _ => List.pairwise_singleton _ _
  | n + 1, h => by
      refine List.pairwise_flatMap.mpr ⟨?_, ?_⟩
      · intro c _
        refine List.pairwise_map.mpr ((pairwise_routes n c.1).imp ?_)
        intro r r' hlt
        exact List.cons_lt_cons_iff.mpr (Or.inr ⟨rfl, hlt⟩)
      · refine (pairwise_zipIdx _).imp ?_
        intro c c' hlt r hr r' hr'
        obtain ⟨_, -, rfl⟩ := List.mem_map.mp hr
        obtain ⟨_, -, rfl⟩ := List.mem_map.mp hr'
        exact List.cons_lt_cons_iff.mpr (Or.inl hlt)

/-- The paths of less than `n` steps, shorter ones first. -/
def routesBelow (s : Scene) (n h : Nat) : List (List Nat × Nat) :=
  (List.range n).flatMap fun k => s.routes k h

theorem mem_routesBelow {path : List Nat} :
    (path, x) ∈ s.routesBelow n h ↔ path.length < n ∧ s.follow h path = some x := by
  simp only [routesBelow, List.mem_flatMap, List.mem_range, mem_routes]
  constructor
  · rintro ⟨k, hk, rfl, hpath⟩
    exact ⟨hk, hpath⟩
  · rintro ⟨hlt, hpath⟩
    exact ⟨path.length, hlt, rfl, hpath⟩

theorem pairwise_routesBelow (s : Scene) (n h : Nat) :
    (s.routesBelow n h).Pairwise fun r r' => List.Shortlex (· < ·) r.1 r'.1 := by
  refine List.pairwise_flatMap.mpr ⟨?_, ?_⟩
  · intro k _
    refine (pairwise_routes k h).imp_of_mem ?_
    intro r r' hr hr' hlt
    have hlength := (mem_routes.mp hr).1.trans (mem_routes.mp hr').1.symm
    exact .of_lex hlength hlt
  · refine List.pairwise_lt_range.imp ?_
    intro k k' hlt r hr r' hr'
    refine .of_length_lt ?_
    rw [(mem_routes.mp hr).1, (mem_routes.mp hr').1]
    exact hlt

/-! ## Layers -/

/-- The ends of the paths of `n` steps, in the order of the paths. -/
def layer (s : Scene) (n h : Nat) : List Nat := (s.routes n h).map Prod.snd

/-- The ends of the paths of less than `n` steps. -/
def layersBelow (s : Scene) (n h : Nat) : List Nat := (s.routesBelow n h).map Prod.snd

theorem layersBelow_succ (s : Scene) (n h : Nat) :
    s.layersBelow (n + 1) h = s.layersBelow n h ++ s.layer n h := by
  simp [layersBelow, routesBelow, layer, List.range_succ]

theorem layer_succ_eq (s : Scene) (n h : Nat) :
    s.layer (n + 1) h = (s.children h).flatMap (s.layer n) := by
  have hfst : (s.children h).zipIdx.map Prod.fst = s.children h := List.zipIdx_map_fst ..
  rw [← hfst, List.flatMap_map]
  simp only [layer, routes, List.map_flatMap, List.map_map]
  rfl

/-- The next layer has the children of the layer before it. -/
theorem layer_succ (s : Scene) : ∀ n h : Nat, s.layer (n + 1) h = (s.layer n h).flatMap s.children
  | 0, h => by
      have hzero : s.layer 0 = fun c => [c] := rfl
      rw [layer_succ_eq, hzero]
      simp
  | n + 1, h => by
      rw [layer_succ_eq, s.layer_succ_eq n, List.flatMap_assoc]
      exact List.flatMap_congr fun c _ => layer_succ s n c

theorem children_subset_layersBelow (hx : x ∈ s.layersBelow n h) :
    s.children x ⊆ s.layersBelow (n + 1) h := by
  intro c hc
  obtain ⟨⟨path, x⟩, hr, rfl⟩ := List.mem_map.mp hx
  obtain ⟨k, hk, hr⟩ := List.mem_flatMap.mp hr
  have hnext : c ∈ s.layer (k + 1) h := by
    rw [layer_succ]
    exact List.mem_flatMap.mpr ⟨x, List.mem_map.mpr ⟨_, hr, rfl⟩, hc⟩
  obtain ⟨r, hr', rfl⟩ := List.mem_map.mp hnext
  refine List.mem_map.mpr ⟨r, List.mem_flatMap.mpr ⟨k + 1, ?_, hr'⟩, rfl⟩
  have hlt := List.mem_range.mp hk
  exact List.mem_range.mpr (by omega)

/-- After the walk has expanded some layers, the next one waits, less what
has been found before. -/
theorem explore_layers (s : Scene) (h : Nat) : ∀ n : Nat, ∃ k, ∀ m,
    explore s.children placeFirst (m + k) [h] [h] =
      explore s.children placeFirst m (fresh [] (s.layersBelow (n + 1) h))
        (fresh (fresh [] (s.layersBelow n h)) (s.layer n h))
  | 0 => ⟨0, fun _ => rfl⟩
  | n + 1 => by
      obtain ⟨k, hk⟩ := explore_layers s h n
      let found := fresh [] (s.layersBelow (n + 1) h)
      let waiting := fresh (fresh [] (s.layersBelow n h)) (s.layer n h)
      have hnew : fresh found (waiting.flatMap s.children) = fresh found (s.layer (n + 1) h) := by
        rw [layer_succ]
        refine fresh_flatMap_fresh _ ?_
        intro x hx c hc
        obtain ⟨hx, -⟩ := mem_fresh.mp hx
        exact mem_fresh.mpr ⟨children_subset_layersBelow hx hc, List.not_mem_nil⟩
      have hfound : found ++ fresh found (s.layer (n + 1) h) =
          fresh [] (s.layersBelow (n + 1 + 1) h) := by
        rw [layersBelow_succ s (n + 1), fresh_append, List.nil_append]
      refine ⟨waiting.length + k, ?_⟩
      intro m
      have hexpand := explore_layer s.children m waiting found []
      rw [List.append_nil, List.nil_append, hnew, hfound] at hexpand
      rw [← Nat.add_assoc, hk, hexpand]

/-- The walk finds the ends of the paths in the order of the paths. -/
theorem layers_prefix (s : Scene) (n h : Nat) :
    fresh [] (s.layersBelow (n + 1) h) <+: s.breadthFirst h := by
  obtain ⟨k, hk⟩ := s.explore_layers h n
  rw [breadthFirst_eq (Nat.le_add_right s.walkBound k), hk]
  exact prefix_explore _ _ _

/-! ## The first path to a fitting end -/

theorem find?_breadthFirst {fits : Nat → Bool} {r : List Nat × Nat}
    (hr : (s.routesBelow (n + 1) h).find? (fun r => fits r.2) = some r) :
    (s.breadthFirst h).find? fits = some r.2 := by
  have hends : (s.layersBelow (n + 1) h).find? fits = some r.2 := by
    rw [layersBelow, List.find?_map]
    exact congrArg (Option.map Prod.snd) hr
  refine (s.layers_prefix n h).find?_eq_some ?_
  rw [find?_fresh _ (by simp)]
  exact hends

/-- If some path ends at a widget that fits, then there is a first such
path, and the walk comes to its end before any other that fits. -/
theorem exists_first (fits : Nat → Bool) {path : List Nat} (hpath : s.follow h path = some x)
    (hx : fits x = true) :
    ∃ first m, s.follow h first = some m ∧ fits m = true ∧
      (s.breadthFirst h).find? fits = some m ∧
      ∀ y path', s.follow h path' = some y → fits y = true →
        first = path' ∨ List.Shortlex (· < ·) first path' := by
  have hmem : (path, x) ∈ s.routesBelow (path.length + 1) h :=
    mem_routesBelow.mpr ⟨Nat.lt_succ_self _, hpath⟩
  have hsome : ((s.routesBelow (path.length + 1) h).find? fun r => fits r.2).isSome :=
    List.find?_isSome.mpr ⟨(path, x), hmem, hx⟩
  obtain ⟨⟨first, m⟩, hr⟩ := Option.isSome_iff_exists.mp hsome
  obtain ⟨hm, before, after, hsplit, hbefore⟩ := List.find?_eq_some_iff_append.mp hr
  have hfirst : (first, m) ∈ s.routesBelow (path.length + 1) h := List.mem_of_find?_eq_some hr
  obtain ⟨hlength, hfollow⟩ := mem_routesBelow.mp hfirst
  refine ⟨first, m, hfollow, hm, find?_breadthFirst hr, ?_⟩
  intro y path' hpath' hy
  by_cases hlong : path'.length < path.length + 1
  · have hmem' : (path', y) ∈ before ++ (first, m) :: after := by
      rw [← hsplit]
      exact mem_routesBelow.mpr ⟨hlong, hpath'⟩
    have hsorted := s.pairwise_routesBelow (path.length + 1) h
    rw [hsplit] at hsorted
    rcases List.mem_append.mp hmem' with hin | hin
    · have hmiss := hbefore _ hin
      simp [hy] at hmiss
    · rcases List.mem_cons.mp hin with heq | hin
      · exact Or.inl (congrArg Prod.fst heq).symm
      · exact Or.inr (List.rel_of_pairwise_cons (List.pairwise_append.mp hsorted).2.1 hin)
  · exact Or.inr (.of_length_lt (by omega))

/-- The widget `x` has the id, and a path to it that no path to a widget
with the id comes before: none is shorter, and none of its length is less
in the order of positions. -/
def Nearest (s : Scene) (h : Nat) (id : Int32) (x : Nat) : Prop :=
  (s.widget x).id = id ∧ ∃ path, s.follow h path = some x ∧
    ∀ y path', (s.widget y).id = id → s.follow h path' = some y →
      path.length ≤ path'.length ∧ (path'.length = path.length → path ≤ path')

theorem le_of_shortlex {path path' : List Nat}
    (hle : path = path' ∨ List.Shortlex (· < ·) path path') :
    path.length ≤ path'.length ∧ (path'.length = path.length → path ≤ path') := by
  rcases hle with rfl | hlt
  · exact ⟨Nat.le_refl _, fun _ => le_refl _⟩
  · rcases List.shortlex_def.mp hlt with hlength | ⟨hlength, hlex⟩
    · exact ⟨Nat.le_of_lt hlength, fun heq => by omega⟩
    · exact ⟨Nat.le_of_eq hlength, fun _ => le_of_lt hlex⟩

theorem find?_of_isContainer (hcontainer : s.isContainer h = true) (id : Int32) :
    s.find? h id = (s.breadthFirst h).find? fun x => (s.widget x).id = id := by
  rw [find?_eq, if_pos hcontainer]

theorem nearest_of_find? {id : Int32} (hcontainer : s.isContainer h = true)
    (hx : s.find? h id = some x) : s.Nearest h id x := by
  obtain ⟨path, hpath⟩ := exists_follow (reaches_of_find? hx)
  have hid := id_of_find? hx
  rw [find?_of_isContainer hcontainer] at hx
  obtain ⟨first, m, hfirst, hm, hfind, hleast⟩ :=
    exists_first (fun x => (s.widget x).id = id) hpath (decide_eq_true hid)
  obtain rfl : m = x := Option.some.inj (hfind.symm.trans hx)
  refine ⟨of_decide_eq_true hm, first, hfirst, ?_⟩
  intro y path' hy hpath'
  exact le_of_shortlex (hleast y path' hpath' (decide_eq_true hy))

theorem find?_of_nearest {id : Int32} (hcontainer : s.isContainer h = true)
    (hx : s.Nearest h id x) : s.find? h id = some x := by
  obtain ⟨hid, path, hpath, hbest⟩ := hx
  obtain ⟨first, m, hfirst, hm, hfind, hleast⟩ :=
    exists_first (fun x => (s.widget x).id = id) hpath (decide_eq_true hid)
  -- Each of the two paths comes no later than the other.
  obtain ⟨hshort, hfront⟩ := le_of_shortlex (hleast x path hpath (decide_eq_true hid))
  obtain ⟨hshort', hfront'⟩ := hbest m first (of_decide_eq_true hm) hfirst
  have hlength : path.length = first.length := Nat.le_antisymm hshort' hshort
  obtain rfl : path = first := le_antisymm (hfront' hlength.symm) (hfront hlength)
  obtain rfl : x = m := Option.some.inj (hpath.symm.trans hfirst)
  rw [find?_of_isContainer hcontainer, hfind]

theorem find?_eq_none {id : Int32} (hcontainer : s.isContainer h = true) :
    s.find? h id = none ↔ ∀ x, s.Reaches h x → (s.widget x).id ≠ id := by
  constructor
  · intro hnone x hx hid
    obtain ⟨path, hpath⟩ := exists_follow hx
    obtain ⟨-, m, -, -, hfind, -⟩ :=
      exists_first (fun x => (s.widget x).id = id) hpath (decide_eq_true hid)
    rw [find?_of_isContainer hcontainer, hfind] at hnone
    cases hnone
  · intro hmiss
    cases hfind : s.find? h id with
    | none => rfl
    | some m => exact absurd (id_of_find? hfind) (hmiss m (reaches_of_find? hfind))

theorem searched_find? {id : Int32} (hcontainer : s.isContainer h = true) :
    Searched s.children (fun x => (s.widget x).id = id) [h] [h] (s.find? h id) := by
  have hstart : Exploring s.children (h :: s.attached) s.walkBound ([] ++ [h]) [h] := s.exploring h
  rw [find?_of_isContainer hcontainer]
  exact hstart.searched (s.children_subset_cons h) (by simp)

/-- A search by id, circles and shared widgets or not: it comes to its end
without a look behind a handle that is not in the scene. In a container it
comes up with nothing if nothing that the container holds has the id, and
otherwise with the nearest widget that has it. A leaf is not searched. -/
theorem search_exact (hs : s.InRange) (hh : h < s.size) (id : Int32) :
    Guarded.find s h id = some (s.find? h id) ∧
      (s.isContainer h = true →
        Searched s.children (fun x => (s.widget x).id = id) [h] [h] (s.find? h id) ∧
          (s.find? h id = none ↔ ∀ x, s.Reaches h x → (s.widget x).id ≠ id) ∧
          ∀ m, (s.find? h id = some m → s.Reaches h m) ∧
            (s.find? h id = some m ↔ s.Nearest h id m)) ∧
      (s.isContainer h = false → s.find? h id = none) := by
  refine ⟨Guarded.find_eq hs hh id, ?_, ?_⟩
  · intro hcontainer
    refine ⟨searched_find? hcontainer, find?_eq_none hcontainer, ?_⟩
    intro m
    exact ⟨reaches_of_find?, nearest_of_find? hcontainer, find?_of_nearest hcontainer⟩
  · intro hleaf
    simp [find?_eq, hleaf]

/-- Two widgets have the id 9. Both are two steps from the first, and the
later of them is in the branch that comes first. The circle leads back to
the first widget, and the branch is held twice. -/
def twoMatches : Scene where
  widgets :=
    [{ id := 1, guid := ⟨1⟩, className := "android.widget.LinearLayout", kind := .group [2, 1, 2] },
      { id := 2, guid := ⟨2⟩, className := "android.widget.FrameLayout", kind := .group [3] },
      { id := 3, guid := ⟨3⟩, className := "android.widget.FrameLayout", kind := .group [0, 4] },
      { id := 9, guid := ⟨4⟩, className := "android.view.View", kind := .view },
      { id := 9, guid := ⟨5⟩, className := "android.widget.FrameLayout", kind := .group [3] }]
  mint := ⟨6⟩

theorem search_exact_twoMatches :
    let s := twoMatches
    s.InRange ∧ s.follow 0 [0, 1] = some 4 ∧ s.follow 0 [1, 0] = some 3 ∧
      Guarded.find s 0 9 = some (some 4) ∧ s.Nearest 0 9 4 ∧ ¬ s.Nearest 0 9 3 ∧
      Searched s.children (fun x => (s.widget x).id = 9) [0] [0] (some 4) ∧
      (∀ x, s.Reaches 0 x → (s.widget x).id ≠ 7) ∧ s.find? 3 9 = none := by
  intro s
  have hrange : s.InRange := by decide +kernel
  have hfind : s.find? 0 9 = some 4 := by decide +kernel
  have hmiss : s.find? 0 7 = none := by decide +kernel
  obtain ⟨hguarded, hcontainer, -⟩ := search_exact hrange (h := 0) (by decide) 9
  obtain ⟨hsearched, -, hnearest⟩ := hcontainer rfl
  obtain ⟨-, habsent, -⟩ := search_exact hrange (h := 0) (by decide) 7
  obtain ⟨-, -, hleaf⟩ := search_exact hrange (h := 3) (by decide) 9
  refine ⟨hrange, rfl, rfl, ?_, (hnearest 4).2.mp hfind, ?_, ?_, ?_, hleaf rfl⟩
  · rw [hguarded, hfind]
  · intro hthird
    have hfind' := (hnearest 3).2.mpr hthird
    rw [hfind] at hfind'
    cases hfind'
  · rw [← hfind]
    exact hsearched
  · exact (habsent rfl).2.1.mp hmiss

end Scene

end UiRecovery
