import UiRecovery.Proofs.Evidence

/-!
# What is already known of a widget

A `Finding` is a piece of evidence that work in code adds to a widget, and
it is `Known` when adding it would change nothing. What has been added is
known (`known_record`), and what is known stays so whatever else is added
(`Known.record`). So evidence that is given a second time, at any later
time, has no effect.

Images are the one kind for which this needs an argument. An image goes
in under the number of images so far. That name may be taken, by an
attribute of the markup, and then the image is dropped and not counted, so
it is not there to be recognised when it is given again. But the number
has not changed either: the same name is taken as before, and no image
will ever go in again.
-/

namespace UiRecovery

/-- What code can tell of a widget. -/
inductive Finding where
  | text (a : Attr)
  | listener (l : String)
  | mask (m : Int32)
  | image (value : String)
  | name (localName : String)

namespace Widget

def record (e : Widget) : Finding → Widget
  | .text a => e.addText a
  | .listener l => e.addListener l
  | .mask m => e.addMask m
  | .image value => e.addImage value
  | .name localName => e.nameAfter localName

def recordAll (e : Widget) (xs : List Finding) : Widget := xs.foldl record e

/-- The name that the next image would have. -/
def nextImageName (e : Widget) : String := imageStem ++ toString e.imageCount

theorem learns_record (e : Widget) (x : Finding) : e.Learns (e.record x) := by
  cases x with
  | text a => exact e.learns_addText a
  | listener l => exact e.learns_addListener l
  | mask m => exact e.learns_addMask m
  | image value => exact e.learns_addImage value
  | name localName => exact e.learns_nameAfter localName

end Widget

/-- Adding the finding changes nothing. -/
def Finding.Known (e : Widget) : Finding → Prop
  | .text a => a ∈ e.texts
  | .listener l => l ∈ e.listeners
  | .mask m => ∀ masks, e.kind = .text masks → m ∈ masks
  | .image value => e.hasImage value = true ∨ e.others.contains e.nextImageName = true
  | .name localName => e.idVariable ≠ "" ∨ localName = ""

namespace Widget

/-! ## Images -/

theorem isImageName_append (s : String) : isImageName (imageStem ++ s) = true := by
  unfold isImageName
  rw [String.toList_append]
  exact List.isPrefixOf_iff_prefix.mpr (List.prefix_append _ _)

theorem addImage_eq (e : Widget) (value : String) :
    e.addImage value =
      if e.hasImage value then e
      else if e.others.contains e.nextImageName then e
      else { e with
        others := e.others.insert e.nextImageName (Attr.dynamic e.nextImageName value) } := rfl

/-- An image that is not known goes in under a free name. -/
theorem addImage_cases (e : Widget) (value : String) :
    e.addImage value = e ∧
        (e.hasImage value = true ∨ e.others.contains e.nextImageName = true) ∨
      e.others.contains e.nextImageName = false ∧
        e.addImage value = { e with
          others := e.others.insert e.nextImageName (Attr.dynamic e.nextImageName value) } := by
  rw [addImage_eq]
  cases himage : e.hasImage value with
  | true => exact Or.inl ⟨rfl, Or.inl rfl⟩
  | false =>
      cases hname : e.others.contains e.nextImageName with
      | true => exact Or.inl ⟨rfl, Or.inr rfl⟩
      | false => exact Or.inr ⟨rfl, rfl⟩

theorem hasImage_insert {e : Widget} {name : String} (hname : e.others.contains name = false)
    (a : Attr) (value : String) :
    hasImage { e with others := e.others.insert name a } value =
      (e.hasImage value || decide (isImageName a.name ∧ a.value = value)) := by
  unfold hasImage OrderedMap.values
  simp [OrderedMap.entries_insert_of_not_contains a hname]

end Widget

namespace Finding

open Widget

variable {e : Widget} {x : Finding}

theorem record_of_known (hx : x.Known e) : e.record x = e := by
  cases x with
  | text a =>
      simp only [Widget.record, addText]
      rw [OrderedSet.insert_of_mem hx]
  | listener l =>
      simp only [Widget.record, addListener]
      rw [OrderedSet.insert_of_mem hx]
  | mask m =>
      simp only [Widget.record, addMask]
      split
      · rename_i masks hkind
        rw [OrderedSet.insert_of_mem (hx masks hkind), ← hkind]
      · rfl
  | image value =>
      rcases e.addImage_cases value with ⟨hsame, -⟩ | ⟨hnew, hadd⟩
      · exact hsame
      · rcases hx with himage | htaken
        · simp only [Widget.record, addImage, himage, if_true]
        · rw [htaken] at hnew
          cases hnew
  | name localName =>
      simp only [Widget.record, nameAfter]
      split
      · rename_i hempty
        rcases hx with hne | rfl
        · exact absurd hempty hne
        · rw [← hempty]
      · rfl

theorem known_record (e : Widget) (x : Finding) : x.Known (e.record x) := by
  cases x with
  | text a => exact OrderedSet.mem_insert.mpr (Or.inr rfl)
  | listener l => exact OrderedSet.mem_insert.mpr (Or.inr rfl)
  | mask m =>
      intro masks hkind
      simp only [Widget.record, addMask] at hkind
      split at hkind
      · obtain rfl := WidgetKind.text.inj hkind
        exact OrderedSet.mem_insert.mpr (Or.inr rfl)
      · rename_i hother
        exact absurd hkind (hother masks)
  | image value =>
      rcases e.addImage_cases value with ⟨hsame, hknown⟩ | ⟨hnew, hadd⟩
      · simp only [Known, Widget.record, hsame]
        exact hknown
      · left
        simp only [Widget.record, hadd]
        rw [hasImage_insert hnew]
        simp [Attr.dynamic, nextImageName, isImageName_append]
  | name localName =>
      simp only [Known, Widget.record, nameAfter]
      split
      · by_cases hempty : localName = ""
        · exact Or.inr hempty
        · exact Or.inl hempty
      · rename_i hne
        exact Or.inl hne

/-- What is known stays known. Each kind of evidence has a field of its
own, so only evidence of the same kind needs a look. -/
theorem Known.record (hx : x.Known e) (y : Finding) : x.Known (e.record y) := by
  cases y with
  | text a =>
      cases x with
      | text b => exact OrderedSet.mem_insert.mpr (Or.inl hx)
      | _ => exact hx
  | listener l =>
      cases x with
      | listener k => exact OrderedSet.mem_insert.mpr (Or.inl hx)
      | _ => exact hx
  | mask m =>
      simp only [Widget.record, addMask]
      split
      · rename_i masks hkind
        cases x with
        | mask k =>
            intro masks' hkind'
            obtain rfl := WidgetKind.text.inj hkind'
            exact OrderedSet.mem_insert.mpr (Or.inl (hx masks hkind))
        | _ => exact hx
      · exact hx
  | image value =>
      rcases e.addImage_cases value with ⟨hsame, -⟩ | ⟨hnew, hadd⟩
      · simp only [Widget.record, hsame]
        exact hx
      · simp only [Widget.record, hadd]
        cases x with
        | image other =>
            -- An image went in, so the name for it was free.
            rcases hx with himage | htaken
            · left
              rw [hasImage_insert hnew, himage]
              rfl
            · rw [htaken] at hnew
              cases hnew
        | _ => exact hx
  | name localName =>
      simp only [Widget.record, nameAfter]
      split
      · rename_i hempty
        cases x with
        | name other =>
            rcases hx with hne | rfl
            · exact absurd hempty hne
            · exact Or.inr rfl
        | _ => exact hx
      · exact hx

/-! ## Several findings -/

theorem Known.recordAll (hx : x.Known e) (xs : List Finding) : x.Known (e.recordAll xs) := by
  induction xs generalizing e with
  | nil => exact hx
  | cons y xs ih => exact ih (hx.record y)

theorem known_recordAll {xs : List Finding} (hx : x ∈ xs) (e : Widget) :
    x.Known (e.recordAll xs) := by
  induction xs generalizing e with
  | nil => cases hx
  | cons y xs ih =>
      rcases List.mem_cons.mp hx with rfl | hx
      · exact (known_record e x).recordAll xs
      · exact ih hx (e.record y)

theorem recordAll_of_known {xs : List Finding} (hxs : ∀ x ∈ xs, x.Known e) :
    e.recordAll xs = e := by
  induction xs with
  | nil => rfl
  | cons y xs ih =>
      have hfirst := record_of_known (hxs y List.mem_cons_self)
      show (e.record y).recordAll xs = e
      rw [hfirst]
      exact ih fun x hx => hxs x (List.mem_cons_of_mem y hx)

end Finding

end UiRecovery
