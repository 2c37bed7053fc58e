import UiRecovery.Proofs.Lookups
import UiRecovery.Proofs.Touches

/-!
# Images

An image goes in under the number of images so far, if it is not there and
the name for it is free. `Illustrated e images e'` says that `e'` has come
from `e` in this way: it has these images more, numbered on from the ones
of `e`.

Names that have got their number from other images are never in the way
(`Illustrated.contains_next`), as decimal numerals differ. Names that `e`
had from elsewhere may be. The first one that is met ends it: no image goes
in any more (`illustrated_foldl`). So one call keeps all that it is given
just if the names that it needs are free (`image_setter_keeps_iff`).

A widget without images has all names free. Since nothing but an image
setter comes near the further attributes of a widget, the images of such a
widget are those of all the calls on it in their order, without repetition
(`images_numbered`). The induction is on `Passes`.
-/

namespace UiRecovery

theorem OrderedMap.contains_eq_false_iff {κ ν : Type} [DecidableEq κ] {m : OrderedMap κ ν}
    {k : κ} : m.contains k = false ↔ k ∉ m.keys := by
  unfold contains
  rw [Option.isSome_eq_false_iff, Option.isNone_iff_eq_none]
  exact get?_eq_none_iff

namespace Widget

/-! ## Numbered names -/

/-- The name of the image with a number. -/
def imageName (n : Nat) : String := imageStem ++ toString n

theorem isImageName_imageName (n : Nat) : isImageName (imageName n) = true :=
  isImageName_append _

theorem imageName_injective : Function.Injective imageName := by
  have hread :
      Function.LeftInverse (fun s : String => Nat.ofDigitChars 10 s.toList 0) Nat.repr := by
    intro n
    dsimp only
    rw [Nat.repr_eq_ofList_toDigits, String.toList_ofList]
    exact Nat.ofDigitChars_ten_toDigits
  intro n n' heq
  exact hread.injective ((String.append_right_inj imageStem).mp heq)

/-- The entries of images, numbered from `n` on. -/
def imageEntries (n : Nat) (images : List String) : List (String × Attr) :=
  (images.zipIdx n).map fun x => (imageName x.2, Attr.dynamic (imageName x.2) x.1)

theorem imageEntries_concat (n : Nat) (images : List String) (value : String) :
    imageEntries n (images ++ [value]) = imageEntries n images ++
      [(imageName (n + images.length), Attr.dynamic (imageName (n + images.length)) value)] := by
  simp [imageEntries, List.zipIdx_append]

theorem mem_keys_imageEntries {n m : Nat} {images : List String} :
    imageName m ∈ (imageEntries n images).map Prod.fst ↔ n ≤ m ∧ m < n + images.length := by
  simp only [imageEntries, List.map_map, List.mem_map, Prod.exists, Function.comp_apply,
    List.mem_zipIdx_iff_le_and_getElem?_sub]
  constructor
  · rintro ⟨value, i, ⟨hle, hget⟩, heq⟩
    obtain ⟨hlt, -⟩ := List.getElem?_eq_some_iff.mp hget
    rw [← imageName_injective heq]
    omega
  · rintro ⟨hle, hlt⟩
    have hget : m - n < images.length := by omega
    exact ⟨images[m - n], m, ⟨hle, List.getElem?_eq_getElem hget⟩, rfl⟩

/-! ## Images beyond those of a widget -/

/-- `e'` has the images besides what `e` has, numbered on from there. -/
def Illustrated (e : Widget) (images : OrderedSet String) (e' : Widget) : Prop :=
  e'.others.entries = e.others.entries ++ imageEntries e.imageCount images.toList

namespace Illustrated

variable {e e' : Widget} {images : OrderedSet String} {value : String}

theorem refl (e : Widget) : e.Illustrated ∅ e := (List.append_nil _).symm

theorem keys_eq (h : e.Illustrated images e') :
    e'.others.keys = e.others.keys ++ (imageEntries e.imageCount images.toList).map Prod.fst := by
  unfold OrderedMap.keys
  rw [h, List.map_append]

theorem imageCount_eq (h : e.Illustrated images e') :
    e'.imageCount = e.imageCount + images.toList.length := by
  have hall : ∀ k ∈ (imageEntries e.imageCount images.toList).map Prod.fst,
      isImageName k = true := by
    simp only [imageEntries, List.map_map, List.mem_map, Function.comp_apply]
    rintro k ⟨x, -, rfl⟩
    exact isImageName_imageName x.2
  unfold imageCount
  rw [h.keys_eq, List.filter_append, List.filter_eq_self.mpr hall, List.length_append]
  simp [imageEntries, imageCount]

theorem hasImage_iff (h : e.Illustrated images e') :
    e'.hasImage value = true ↔ e.hasImage value = true ∨ value ∈ images := by
  have hnew : ((imageEntries e.imageCount images.toList).map Prod.snd).any
      (fun a => isImageName a.name ∧ a.value = value) = true ↔ value ∈ images.toList := by
    simp only [imageEntries, List.map_map, List.any_map, List.any_eq_true, Function.comp_apply,
      Attr.dynamic, isImageName_imageName, true_and, decide_eq_true_eq, Prod.exists]
    constructor
    · rintro ⟨image, i, hmem, rfl⟩
      exact List.mem_of_getElem? (List.mem_zipIdx_iff_le_and_getElem?_sub.mp hmem).2
    · intro hmem
      obtain ⟨i, hget⟩ := List.getElem?_of_mem hmem
      refine ⟨value, e.imageCount + i, List.mem_zipIdx_iff_le_and_getElem?_sub.mpr ?_, rfl⟩
      exact ⟨Nat.le_add_right _ _, by rwa [Nat.add_sub_cancel_left]⟩
  unfold hasImage OrderedMap.values
  rw [h, List.map_append, List.any_append, Bool.or_eq_true, hnew]
  rfl

/-- The next name is free unless it was taken from the start. -/
theorem contains_next (h : e.Illustrated images e') :
    e'.others.contains e'.nextImageName =
      e.others.contains (imageName (e.imageCount + images.toList.length)) := by
  have hnext : e'.nextImageName = imageName (e.imageCount + images.toList.length) :=
    congrArg imageName h.imageCount_eq
  have hfresh : imageName (e.imageCount + images.toList.length) ∉
      (imageEntries e.imageCount images.toList).map Prod.fst := by
    rw [mem_keys_imageEntries]
    omega
  rw [hnext, Bool.eq_iff_iff, ← not_iff_not, Bool.not_eq_true, Bool.not_eq_true,
    OrderedMap.contains_eq_false_iff, OrderedMap.contains_eq_false_iff, h.keys_eq,
    List.mem_append, not_or]
  exact and_iff_left hfresh

theorem addImage_of_known (h : e.Illustrated images e')
    (hvalue : e.hasImage value = true ∨ value ∈ images) : e'.addImage value = e' :=
  Finding.record_of_known (x := .image value) (Or.inl (h.hasImage_iff.mpr hvalue))

theorem addImage_of_taken (h : e.Illustrated images e')
    (htaken : e.others.contains (imageName (e.imageCount + images.toList.length)) = true) :
    e'.addImage value = e' :=
  Finding.record_of_known (x := .image value) (Or.inr (h.contains_next.trans htaken))

theorem addImage_of_free (h : e.Illustrated images e') (hknown : e.hasImage value = false)
    (hvalue : value ∉ images)
    (hfree : e.others.contains (imageName (e.imageCount + images.toList.length)) = false) :
    e.Illustrated (images.insert value) (e'.addImage value) := by
  have hnew : e'.hasImage value = false := by
    rw [← Bool.not_eq_true, h.hasImage_iff, hknown]
    simpa using hvalue
  have hname := h.contains_next.trans hfree
  have hnext : e'.nextImageName = imageName (e.imageCount + images.toList.length) :=
    congrArg imageName h.imageCount_eq
  unfold Illustrated
  rw [addImage_eq, hnew, hname, OrderedSet.toList_insert, if_neg hvalue, imageEntries_concat,
    ← List.append_assoc, ← h, ← hnext]
  exact OrderedMap.entries_insert_of_not_contains _ hname

end Illustrated

/-! ## Several images -/

/-- Of the images that are to go in, those that do: all until a name is
taken. -/
structure Admits (e : Widget) (new images : OrderedSet String) : Prop where
  initial : images.toList <+: new.toList
  free : ∀ i < images.toList.length, e.others.contains (imageName (e.imageCount + i)) = false
  ended : images = new ∨
    e.others.contains (imageName (e.imageCount + images.toList.length)) = true

namespace Admits

variable {e : Widget} {new images : OrderedSet String} {value : String}

theorem empty (e : Widget) : e.Admits ∅ ∅ := ⟨List.prefix_rfl, by simp, Or.inl rfl⟩

theorem getElem?_eq (h : e.Admits new images) {j : Nat} (hlt : j < images.toList.length) :
    new.toList[j]? = images.toList[j]? := by
  obtain ⟨rest, hrest⟩ := h.initial
  rw [← hrest, List.getElem?_append_left hlt]

/-- An image goes in just if it is reached before a name that is taken. -/
theorem mem_iff (h : e.Admits new images) :
    value ∈ images ↔ ∃ j, new.toList[j]? = some value ∧
      ∀ i ≤ j, e.others.contains (imageName (e.imageCount + i)) = false := by
  constructor
  · intro hmem
    obtain ⟨j, hget⟩ := List.getElem?_of_mem hmem
    obtain ⟨hlt, -⟩ := List.getElem?_eq_some_iff.mp hget
    exact ⟨j, (h.getElem?_eq hlt).trans hget, fun i hi => h.free i (hi.trans_lt hlt)⟩
  · rintro ⟨j, hget, hfree⟩
    rcases h.ended with rfl | htaken
    · exact List.mem_of_getElem? hget
    · have hlt : j < images.toList.length := by
        refine Nat.lt_of_not_le fun hle => ?_
        rw [hfree _ hle] at htaken
        cases htaken
      exact List.mem_of_getElem? ((h.getElem?_eq hlt).symm.trans hget)

end Admits

theorem illustrated_foldl {e : Widget} : ∀ (values : List String) {e' : Widget}
    {new images : OrderedSet String}, e.Illustrated images e' → e.Admits new images →
      ∃ images', e.Illustrated images' (values.foldl addImage e') ∧
        e.Admits (new.insertAll (values.filter fun value => !e.hasImage value)) images'
  | [], _, _, images, h, hadmits => ⟨images, h, hadmits⟩
  | value :: values, e', new, images, h, hadmits => by
      cases hknown : e.hasImage value with
      | true =>
          have hsame : e'.addImage value = e' := h.addImage_of_known (Or.inl hknown)
          rw [List.foldl_cons, hsame, List.filter_cons_of_neg (by simp [hknown])]
          exact illustrated_foldl values h hadmits
      | false =>
          rw [List.foldl_cons, List.filter_cons_of_pos (by simp [hknown]),
            OrderedSet.insertAll_cons]
          cases hname : e.others.contains (imageName (e.imageCount + images.toList.length)) with
          | true =>
              rw [h.addImage_of_taken hname]
              refine illustrated_foldl values h ⟨?_, hadmits.free, Or.inr hname⟩
              exact hadmits.initial.trans (OrderedSet.prefix_insert new value)
          | false =>
              -- No name has been taken so far, so that all images went in.
              obtain rfl : images = new := by
                rcases hadmits.ended with hall | htaken
                · exact hall
                · rw [hname] at htaken
                  cases htaken
              by_cases hmem : value ∈ images
              · rw [h.addImage_of_known (Or.inr hmem), OrderedSet.insert_of_mem hmem]
                exact illustrated_foldl values h hadmits
              · refine illustrated_foldl values (h.addImage_of_free hknown hmem hname)
                  ⟨List.prefix_rfl, ?_, Or.inl rfl⟩
                intro i hi
                rw [OrderedSet.toList_insert, if_neg hmem, List.length_append,
                  List.length_singleton] at hi
                rcases Nat.lt_succ_iff_lt_or_eq.mp hi with hlt | rfl
                · exact hadmits.free i hlt
                · exact hname

/-- What becomes of the images that are given to a widget. -/
theorem hasImage_foldl_iff (e : Widget) (values : List String) (value : String) :
    let new := (OrderedSet.ofList (values.filter fun value => !e.hasImage value)).toList
    (values.foldl addImage e).hasImage value = true ↔
      e.hasImage value = true ∨ ∃ j, new[j]? = some value ∧
        ∀ i ≤ j, e.others.contains (imageName (e.imageCount + i)) = false := by
  obtain ⟨images, hillustrated, hadmits⟩ := illustrated_foldl values (.refl e) (.empty e)
  intro new
  rw [hillustrated.hasImage_iff, hadmits.mem_iff]
  rfl

theorem forall_hasImage_foldl_iff (e : Widget) (values : List String) :
    let new := (OrderedSet.ofList (values.filter fun value => !e.hasImage value)).toList
    (∀ value ∈ values, (values.foldl addImage e).hasImage value = true) ↔
      ∀ i < new.length, e.others.contains (imageName (e.imageCount + i)) = false := by
  intro new
  have hnew : ∀ value, value ∈ new ↔ value ∈ values ∧ e.hasImage value = false := by
    intro value
    rw [← OrderedSet.mem_def, OrderedSet.mem_ofList, List.mem_filter, Bool.not_eq_true']
  constructor
  · intro hall i hi
    obtain ⟨hvalue, hknown⟩ := (hnew new[i]).mp (List.getElem_mem hi)
    rcases (hasImage_foldl_iff e values _).mp (hall _ hvalue) with himage | ⟨j, hget, hfree⟩
    · rw [hknown] at himage
      cases himage
    · have hnodup : new.Nodup := OrderedSet.nodup _
      have hij : i = j := (List.getElem?_inj hi hnodup).mp
        ((List.getElem?_eq_getElem hi).trans hget.symm)
      exact hfree i hij.le
  · intro hfree value hvalue
    refine (hasImage_foldl_iff e values value).mpr ?_
    cases hknown : e.hasImage value with
    | true => exact Or.inl rfl
    | false =>
        obtain ⟨j, hget⟩ := List.getElem?_of_mem ((hnew value).mpr ⟨hvalue, hknown⟩)
        obtain ⟨hlt, -⟩ := List.getElem?_eq_some_iff.mp hget
        exact Or.inr ⟨j, hget, fun i hi => hfree i (hi.trans_lt hlt)⟩

/-! ## Widgets without images -/

/-- No further attribute is kept under the name of an image, or has one. -/
def Imageless (e : Widget) : Prop :=
  (∀ k ∈ e.others.keys, isImageName k = false) ∧
    ∀ a ∈ e.others.values, isImageName a.name = false

namespace Imageless

variable {e e' : Widget} {images : OrderedSet String}

theorem imageCount_eq (he : e.Imageless) : e.imageCount = 0 := by
  unfold imageCount
  rw [List.length_eq_zero_iff, List.filter_eq_nil_iff]
  intro k hk
  rw [he.1 k hk]
  exact Bool.false_ne_true

theorem hasImage_eq (he : e.Imageless) (value : String) : e.hasImage value = false := by
  unfold hasImage
  rw [List.any_eq_false]
  intro a ha
  simp [he.2 a ha]

theorem contains_eq (he : e.Imageless) (n : Nat) : e.others.contains (imageName n) = false := by
  rw [OrderedMap.contains_eq_false_iff]
  intro hmem
  have himage := he.1 _ hmem
  rw [isImageName_imageName] at himage
  cases himage

theorem foldl_addImage (he : e.Imageless) (h : e.Illustrated images e') (values : List String) :
    e.Illustrated (images.insertAll values) (values.foldl addImage e') := by
  have hadmits : e.Admits images images :=
    ⟨List.prefix_rfl, fun i _ => he.contains_eq _, Or.inl rfl⟩
  obtain ⟨images', hillustrated, hall⟩ := illustrated_foldl values h hadmits
  have hfilter : (values.filter fun value => !e.hasImage value) = values := by
    simp [he.hasImage_eq]
  rw [hfilter] at hall
  rcases hall.ended with rfl | htaken
  · exact hillustrated
  · rw [he.contains_eq] at htaken
    cases htaken

end Imageless

end Widget

namespace Work

variable {σ : Type} [DecidableEq σ] {t : Task σ} {s : σ} {signature : String} {w : Work σ}
  {h : Nat}

/-! ## One call -/

theorem widget_step_image (haction : t.query.action s = .ok (.call signature))
    (himage : Setter.ofSignature? signature = some .image)
    (hdraft : w.draftOf? (t.query.receiver s) = none) (hh : h ∈ w.setterTargets t s)
    (hlt : h < w.scene.size) :
    (w.step t s).1.scene.widget h =
      (t.oracle (.arg 0) s).labels.foldl Widget.addImage (w.scene.widget h) := by
  have hget : (w.step t s).1.scene.get? h = _ := get?_step_setter haction himage hdraft
  rw [if_pos hh, Scene.get?_of_lt hlt] at hget
  rw [Scene.widget, hget]
  exact List.foldl_map

/-- After an image setter, a value is found in an image attribute just if
it was there before, or if all names are free that the new values up to it
need. So none is lost just if the names are free for all of them. -/
theorem image_setter_keeps_iff (hw : w.Underway) (hidiom : t.query.dispatch s = none)
    (hcall : t.query.callSignature s = some signature)
    (hsignature : signature ∈ Toolkit.imageSetters)
    (hdraft : w.draftOf? (t.query.receiver s) = none) (hh : h ∈ w.bound (t.query.receiver s))
    (hclass : w.settings.isIgnored (w.scene.widget h).className = false) :
    let e := w.scene.widget h
    let e' := (w.step t s).1.scene.widget h
    let values := (t.oracle (.arg 0) s).labels
    let new := (OrderedSet.ofList (values.filter fun value => !e.hasImage value)).toList
    let free := fun i => e.others.contains (Widget.imageName (e.imageCount + i)) = false
    let kept := fun value =>
      ∃ a ∈ e'.others.values, Widget.isImageName a.name = true ∧ a.value = value
    (w.step t s).2 = none ∧ h < (w.step t s).1.scene.size ∧
      (∀ value, kept value ↔
        e.hasImage value = true ∨ ∃ j, new[j]? = some value ∧ ∀ i ≤ j, free i) ∧
      ((∀ value ∈ values, kept value) ↔ ∀ i < new.length, free i) := by
  intro e e' values new free kept
  have himage := Setter.ofSignature?_of_mem_imageSetters hsignature
  have haction := Query.action_of_setter hidiom hcall himage
  have hlt : h < w.scene.size := hw.bounded.bound hh
  have hwidget : e' = values.foldl Widget.addImage e :=
    widget_step_image haction himage hdraft (mem_setterTargets.mpr ⟨hh, hclass⟩) hlt
  have hkept : ∀ value, kept value ↔ (values.foldl Widget.addImage e).hasImage value = true := by
    intro value
    show (∃ a ∈ e'.others.values, _) ↔ _
    rw [hwidget]
    unfold Widget.hasImage
    simp
  refine ⟨by rw [step_of_call haction], ?_, ?_, ?_⟩
  · exact hlt.trans_le (touches_step haction w).size_le
  · intro value
    rw [hkept]
    exact Widget.hasImage_foldl_iff e values value
  · simp only [hkept]
    exact Widget.forall_hasImage_foldl_iff e values

end Work

/-! ## A picture with a logo -/

/-- Code that gets hold of a view by the given call, and sets images on
it. -/
def Task.illustrating (call : String) (images : List Value) : Task Nat where
  query := .straightLine [call, "void setImageResource(int)"]
  oracle _ s := .known (.ofList (if s = 0 then [.int 100] else images))
  origin := .activity "Main" ""

def Preparation.logo (key : String) : List Preparation :=
  [.create 5 "android.widget.ImageView" .view,
    .revise 0 (·.addOther key (Attr.dynamic key "logo")),
    .registerLayout 100 (.view 0)]

/-- An assembler that knows a layout with one picture, which has an
attribute under the given key. -/
def Assembler.logo (key : String) : Assembler Nat :=
  (Preparation.logo key).foldl prepare { settings := {}, nextDynamicId := -90000 }

theorem Assembler.lawful_logo (key : String) : (logo key).Lawful := by
  refine .serve (.serve (.serve (.create (show create {} = .ok _ from rfl))
    (.prepare (.create 5 "android.widget.ImageView" .view)) ?_)
    (.prepare (.revise 0 (·.addOther key (Attr.dynamic key "logo")))) ?_)
    (.prepare (.registerLayout 100 (.view 0))) ?_
  · exact nofun
  · show ∀ h ∈ [0], h < 1
    decide
  · exact nofun

/-- The picture has been copied from the layout, and is to get two
images. -/
def Task.twoImages : Task Nat :=
  .illustrating "android.view.View inflate(int,android.view.ViewGroup)" [.int 7, .int 8]

def Work.logo (key : String) : Work Nat :=
  (run .twoImages [0] ((Assembler.logo key).begin .twoImages [0, 1])).1

theorem Work.underway_logo : (logo "imageAlpha").Underway :=
  underway_run (Assembler.lawful_logo "imageAlpha") ⟨[1], rfl⟩ (by decide +kernel)

/-- The attribute of the layout counts as the image 0, and the images go in
as 1 and 2. -/
theorem Work.image_setter_keeps_iff_logo :
    let w := Work.logo "imageAlpha"
    let next := (w.step .twoImages 1).1
    w.Underway ∧ w.bound (some "view") = [1] ∧
      (next.scene.widget 1).others.keys = ["imageAlpha", "image1", "image2"] ∧
      ∀ value ∈ ["7", "8"], ∃ a ∈ (next.scene.widget 1).others.values,
        Widget.isImageName a.name = true ∧ a.value = value := by
  intro w next
  obtain ⟨hbound, hdraft, hclass⟩ : w.bound (some "view") = [1] ∧
      w.draftOf? (some "view") = none ∧
      w.settings.isIgnored (w.scene.widget 1).className = false := by decide +kernel
  have hkeys : (next.scene.widget 1).others.keys = ["imageAlpha", "image1", "image2"] := by
    decide +kernel
  have hmem : 1 ∈ w.bound (some "view") := by
    rw [hbound]
    exact List.mem_cons_self
  obtain ⟨-, -, -, hall⟩ := image_setter_keeps_iff (t := .twoImages) (s := 1) underway_logo
    (by decide +kernel) rfl (by decide +kernel) hdraft hmem hclass
  exact ⟨underway_logo, hbound, hkeys, hall.mpr (by decide +kernel)⟩

/-- If the layout has an attribute under the name that is next, both images
are lost. -/
theorem Work.image_lost_to_markup :
    let w := Work.logo "image1"
    let next := (w.step .twoImages 1).1
    w.bound (some "view") = [1] ∧ w.draftOf? (some "view") = none ∧
      w.settings.isIgnored (w.scene.widget 1).className = false ∧
      (next.scene.widget 1).others.entries = [("image1", Attr.dynamic "image1" "logo")] := by
  decide +kernel

/-! ## Histories -/

namespace Visit

variable {σ : Type} [DecidableEq σ] {v : Visit σ} {h : Nat} {e : Widget}

/-- The images that the call of a visit sets on a widget. -/
def imagesOn (v : Visit σ) (h : Nat) : List String :=
  match v.task.query.action v.site with
  | .ok (.call signature) =>
    let receiver := v.task.query.receiver v.site
    if Setter.ofSignature? signature = some .image ∧ v.work.draftOf? receiver = none ∧
        h ∈ v.work.bound receiver then
      (v.task.oracle (.arg 0) v.site).labels
    else []
  | _ => []

/-- A visit either sets images on a widget, or leaves its further attributes
alone. -/
theorem others_next (hh : h < v.work.scene.size)
    (hclass : v.work.settings.isIgnored (v.work.scene.widget h).className = false) :
    v.next.scene.widget h = (v.imagesOn h).foldl Widget.addImage (v.work.scene.widget h) ∨
      v.imagesOn h = [] ∧
        (v.next.scene.widget h).others = (v.work.scene.widget h).others := by
  unfold imagesOn
  cases haction : v.task.query.action v.site with
  | error error =>
      have htouches := Work.touches_step_of_error haction v.work
      exact Or.inr ⟨rfl, htouches.others_widget hh List.not_mem_nil⟩
  | ok a =>
      have htouches := Work.touches_step haction v.work
      cases a with
      | call signature =>
          dsimp only
          split
          · rename_i hsets
            obtain ⟨himage, hdraft, hbound⟩ := hsets
            have htarget := Work.mem_setterTargets.mpr ⟨hbound, hclass⟩
            exact Or.inl (Work.widget_step_image haction himage hdraft htarget hh)
          · rename_i hnot
            refine Or.inr ⟨rfl, htouches.others_widget hh ?_⟩
            unfold Work.illustrated
            dsimp only
            split
            · rename_i hdraft
              intro htarget
              exact hnot ⟨hdraft.2, hdraft.1, (Work.mem_setterTargets.mp htarget).1⟩
            · exact List.not_mem_nil
      | _ => exact Or.inr ⟨rfl, htouches.others_widget hh List.not_mem_nil⟩

end Visit

namespace Assembler

variable {σ : Type} [DecidableEq σ] {a b : Assembler σ} {e : Widget} {h : Nat}
  {values : List String} {vs : List (Visit σ)}

/-- The widget has been `e`, and has got the images since, in this order. -/
structure Pictures (e : Widget) (h : Nat) (values : List String) (a : Assembler σ) : Prop where
  lt : h < a.scene.size
  regarded : a.settings.isIgnored (a.scene.widget h).className = false
  illustrated : e.Illustrated (.ofList values) (a.scene.widget h)

/-- One visit more. -/
theorem Pictures.next {v : Visit σ} (he : e.Imageless)
    (hv : v.work.toAssembler.Pictures e h values) :
    v.next.toAssembler.Pictures e h (values ++ v.imagesOn h) := by
  have hmoves := v.moves
  have hall : OrderedSet.ofList (values ++ v.imagesOn h) =
      (OrderedSet.ofList values).insertAll (v.imagesOn h) := List.foldl_append
  refine ⟨hv.lt.trans_le hmoves.grows.scene.size_le, ?_, ?_⟩
  · rw [hmoves.untouched.settings, (hmoves.grows.scene.widget hv.lt).className]
    exact hv.regarded
  · rw [hall]
    rcases v.others_next hv.lt hv.regarded with hset | ⟨hnone, hothers⟩
    · rw [hset]
      exact he.foldl_addImage hv.illustrated (v.imagesOn h)
    · rw [hnone]
      exact (congrArg OrderedMap.entries hothers).trans hv.illustrated

/-- Any number of visits more. -/
theorem Pictures.passes (he : e.Imageless) (hpasses : Passes a b vs) :
    ∀ {values : List String}, a.Pictures e h values →
      b.Pictures e h (values ++ vs.flatMap (·.imagesOn h)) := by
  induction hpasses with
  | idle _ hsettings hscene _ =>
      intro values ha
      rw [List.flatMap_nil, List.append_nil]
      refine ⟨?_, ?_, ?_⟩
      · rw [hscene]
        exact ha.lt
      · rw [hsettings, hscene]
        exact ha.regarded
      · rw [hscene]
        exact ha.illustrated
  | visit v =>
      intro values ha
      rw [List.flatMap_singleton]
      exact ha.next he
  | append _ _ ih ih' =>
      intro values ha
      rw [List.flatMap_append, ← List.append_assoc]
      exact ih' (ih ha)

end Assembler

/-- A widget without images is met in the middle of a method. When the rest
of it has been worked through, and any number of methods after it, the
widget has its further attributes as before and then, numbered from 0, the
images of all calls on it, each once and in the order of their first
coming. -/
theorem Work.images_numbered {σ : Type} [DecidableEq σ] (w : Work σ) {h : Nat}
    (hh : h < w.scene.size) (hclass : w.settings.isIgnored (w.scene.widget h).className = false)
    (hkeys : ∀ k ∈ (w.scene.widget h).others.keys, Widget.isImageName k = false)
    (hnames : ∀ a ∈ (w.scene.widget h).others.values, Widget.isImageName a.name = false)
    (t : Task σ) (rest : List σ) (calls : List (AssemblyCall σ)) :
    let left := w.left t rest
    let values := (Work.visits t rest w ++ left.visits calls).flatMap (·.imagesOn h)
    let images := (OrderedSet.ofList values).toList.zipIdx.map fun x =>
      ("image" ++ toString x.2, (⟨"image" ++ toString x.2, x.1, "dynamic"⟩ : Attr))
    let others := ((calls.foldl Assembler.assembled left).scene.widget h).others
    others.entries = (w.scene.widget h).others.entries ++ images ∧
      (others.entries.filter fun x => Widget.isImageName x.1) = images := by
  intro left values images others
  have he : (w.scene.widget h).Imageless := ⟨hkeys, hnames⟩
  have hpasses := (Assembler.passes_left t rest w).append (Assembler.passes_calls calls left)
  have hstart : w.toAssembler.Pictures (w.scene.widget h) h [] := ⟨hh, hclass, .refl _⟩
  have hillustrated := (hstart.passes he hpasses).illustrated
  unfold Widget.Illustrated at hillustrated
  rw [he.imageCount_eq] at hillustrated
  have hentries : others.entries = (w.scene.widget h).others.entries ++ images := hillustrated
  refine ⟨hentries, ?_⟩
  have hold : ((w.scene.widget h).others.entries.filter fun x => Widget.isImageName x.1) = [] := by
    rw [List.filter_eq_nil_iff]
    intro x hx
    rw [hkeys x.1 (List.mem_map_of_mem hx)]
    exact Bool.false_ne_true
  have hnew : (images.filter fun x => Widget.isImageName x.1) = images := by
    rw [List.filter_eq_self]
    intro x hx
    obtain ⟨y, -, rfl⟩ := List.mem_map.mp hx
    exact Widget.isImageName_imageName y.2
  rw [hentries, List.filter_append, hold, hnew]
  rfl

/-- A list is to get images. -/
def Task.imageList (images : List Value) : Task Nat :=
  .illustrating "android.widget.ListView getListView()" images

/-- The list has been made. -/
def Work.imageList : Work Nat :=
  (run (.imageList []) [0] (Assembler.labelledBox.begin (.imageList []) [0, 1])).1

/-- The code comes twice more, for another component the last time. -/
def AssemblyCall.moreImages : List (AssemblyCall Nat) :=
  [.method (.imageList [.int 8, .int 9, .int 7]) [0, 1],
    .units (Task.imageList []).query (Task.imageList [.int 10, .int 9]).oracle
      [⟨[0, 1], .fragment "Sync"⟩]]

theorem Work.images_numbered_imageList :
    (visits (.imageList [.int 7, .int 8]) [1] imageList ++
        (imageList.left (.imageList [.int 7, .int 8]) [1]).visits
          AssemblyCall.moreImages).flatMap (·.imagesOn 2) =
            ["7", "8", "8", "9", "7", "10", "9"] ∧
      ((AssemblyCall.moreImages.foldl Assembler.assembled
          (imageList.left (.imageList [.int 7, .int 8]) [1])).scene.widget 2).others.entries =
        [("image0", ⟨"image0", "7", "dynamic"⟩), ("image1", ⟨"image1", "8", "dynamic"⟩),
          ("image2", ⟨"image2", "9", "dynamic"⟩), ("image3", ⟨"image3", "10", "dynamic"⟩)] := by
  have hvalues : (visits (.imageList [.int 7, .int 8]) [1] imageList ++
      (imageList.left (.imageList [.int 7, .int 8]) [1]).visits
        AssemblyCall.moreImages).flatMap (·.imagesOn 2) =
          ["7", "8", "8", "9", "7", "10", "9"] := by decide +kernel
  obtain ⟨hh, hclass, hold⟩ : 2 < imageList.scene.size ∧
      imageList.settings.isIgnored (imageList.scene.widget 2).className = false ∧
      (imageList.scene.widget 2).others.entries = [] := by decide +kernel
  have hentries := (images_numbered imageList hh hclass
    (by simp [OrderedMap.keys, hold]) (by simp [OrderedMap.values, hold])
    (.imageList [.int 7, .int 8]) [1] AssemblyCall.moreImages).1
  rw [hvalues, hold] at hentries
  refine ⟨hvalues, hentries.trans ?_⟩
  decide +kernel

end UiRecovery
