import UiRecovery.Settings
import UiRecovery.Proofs.JsonSpelling
import UiRecovery.Proofs.Listings

/-!
# Settings in text

Settings are read from an object in which any of the seven fields may be
missing. A `Patch` is a choice of fields with a value for each, and what is
to be read from an object that gives them is the default with these fields
replaced (`Patch.applyTo`).

Each name is looked up by itself, so neither the order of the fields
matters nor what else the object holds: what counts is which fields with a
known name it has, up to order. This is stated for records in general
(`Json.partialRecord?_object`). The rest is about single fields, and each
type is read from what it is written as (`Json.defaultOr?_map`).

The text of settings gives all fields, so that reading it back is a case
of the same (`Settings.patch`).
-/

namespace UiRecovery

namespace Json

/-! ## Objects that give some fields of a record -/

/-- The fields of a record for which there is a value. -/
def given (entries : List (String × Option Json)) : List (String × Json) :=
  entries.flatMap fun e => (e.2.map fun j => (e.1, j)).toList

theorem name_mem_of_mem_given {entries : List (String × Option Json)} {f : String × Json}
    (hf : f ∈ given entries) : f.1 ∈ entries.map Prod.fst := by
  obtain ⟨e, he, hfe⟩ := List.mem_flatMap.mp hf
  obtain ⟨j, -, rfl⟩ := Option.map_eq_some_iff.mp (Option.mem_toList.mp hfe)
  exact List.mem_map_of_mem he

/-- Of a name, the record gives its value and nothing else. -/
theorem filter_given {entries : List (String × Option Json)}
    (hnames : (entries.map Prod.fst).Nodup) {e : String × Option Json} (he : e ∈ entries) :
    (given entries).filter (fun f => decide (f.1 = e.1)) =
      (e.2.map fun j => (e.1, j)).toList := by
  induction entries with
  | nil => cases he
  | cons x entries ih =>
      obtain ⟨hx, hrest⟩ := List.nodup_cons.mp hnames
      rw [given, List.flatMap_cons, List.filter_append]
      obtain rfl | he := List.mem_cons.mp he
      · have hhead : ∀ f ∈ (e.2.map fun j => (e.1, j)).toList, decide (f.1 = e.1) = true := by
          intro f hf
          obtain ⟨j, -, rfl⟩ := Option.map_eq_some_iff.mp (Option.mem_toList.mp hf)
          exact decide_eq_true rfl
        have htail : ∀ f ∈ given entries, ¬decide (f.1 = e.1) = true := by
          intro f hf hname
          exact hx (of_decide_eq_true hname ▸ name_mem_of_mem_given hf)
        rw [List.filter_eq_self.mpr hhead]
        exact (congrArg _ (List.filter_eq_nil_iff.mpr htail)).trans (List.append_nil _)
      · have hhead : ∀ f ∈ (x.2.map fun j => (x.1, j)).toList, ¬decide (f.1 = e.1) = true := by
          intro f hf hname
          obtain ⟨j, -, rfl⟩ := Option.map_eq_some_iff.mp (Option.mem_toList.mp hf)
          exact hx (of_decide_eq_true hname ▸ List.mem_map_of_mem he)
        rw [List.filter_eq_nil_iff.mpr hhead]
        exact ih hrest he

theorem once?_of_perm {fields : List (String × Json)} {name : String} {value : Option Json}
    (h : (fields.filter fun f => decide (f.1 = name)).Perm
      (value.map fun j => (name, j)).toList) : once? fields name = some value := by
  unfold once?
  cases value with
  | none =>
      rw [List.perm_nil.mp h]
  | some j =>
      rw [List.perm_singleton.mp h]

/-- A name that the record has is looked up among the fields with such
names. -/
theorem once?_of_given {entries : List (String × Option Json)} {fields : List (String × Json)}
    (hnames : (entries.map Prod.fst).Nodup)
    (hgiven : (fields.filter fun f => decide (f.1 ∈ entries.map Prod.fst)).Perm (given entries))
    {e : String × Option Json} (he : e ∈ entries) : once? fields e.1 = some e.2 := by
  have hknown : (fields.filter fun f => decide (f.1 ∈ entries.map Prod.fst)).filter
      (fun f => decide (f.1 = e.1)) = fields.filter fun f => decide (f.1 = e.1) := by
    rw [List.filter_filter]
    refine List.filter_congr fun f _ => ?_
    by_cases hf : f.1 = e.1
    · simp [hf, List.mem_map_of_mem he]
    · simp [hf]
  have hperm := hgiven.filter fun f => decide (f.1 = e.1)
  rw [hknown, filter_given hnames he] at hperm
  exact once?_of_perm hperm

theorem named?_object (fields : List (String × Json)) :
    named? (fields.map fun f => (some f.1, f.2)) = some fields := by
  induction fields with
  | nil => rfl
  | cons f fields ih =>
      unfold named? at ih ⊢
      rw [List.map_cons, List.mapM_cons, ih]
      rfl

/-- An object that gives some of the fields of a record, in any order and
among any others, is read as giving these. -/
theorem partialRecord?_object {entries : List (String × Option Json)}
    {fields : List (String × Json)} (hnames : (entries.map Prod.fst).Nodup)
    (hgiven : (fields.filter fun f => decide (f.1 ∈ entries.map Prod.fst)).Perm (given entries)) :
    partialRecord? (entries.map Prod.fst) (object fields) = some (entries.map Prod.snd) := by
  have hfields : ∀ es : List (String × Option Json), (∀ e ∈ es, e ∈ entries) →
      (es.map Prod.fst).mapM (once? fields) = some (es.map Prod.snd) := by
    intro es hes
    induction es with
    | nil => rfl
    | cons e es ih =>
        rw [List.forall_mem_cons] at hes
        rw [List.map_cons, List.mapM_cons, once?_of_given hnames hgiven hes.1, ih hes.2]
        rfl
  show (named? (fields.map fun f => (some f.1, f.2))).bind
    (fun fields => (entries.map Prod.fst).mapM (once? fields)) = _
  rw [named?_object]
  exact hfields entries fun _ he => he

theorem defaultOr?_map {α : Type} {encode : α → Json} {decode : Json → Option α}
    (h : ∀ a, decode (encode a) = some a) (default : α) (value : Option α) :
    defaultOr? decode default (value.map encode) = some (value.getD default) := by
  cases value with
  | none => rfl
  | some a => exact h a

theorem int32?_int32 (i : Int32) : (int32 i).int32? = some i := by
  have hlow := Int32.le_toInt i
  have hhigh := Int32.toInt_lt i
  have hmin := Int32.toInt_minValue
  have hmax := Int32.toInt_maxValue
  have hwithin : intWithin? Int32.minValue.toInt Int32.maxValue.toInt (int32 i) = some i.toInt :=
    if_pos (by omega)
  rw [int32?, hwithin, Option.map_some, Int32.ofInt_toInt]

end Json

namespace Settings

/-! ## Fields -/

/-- Values for some of the fields. -/
structure Patch where
  dynamicIdStart : Option Int32 := none
  viewPackages : Option (List String) := none
  textClasses : Option (List String) := none
  groupClasses : Option (List String) := none
  ignoredClasses : Option (List String) := none
  dialogBuilders : Option (List String) := none
  trackCalls : Option Bool := none

namespace Patch

def entries (p : Patch) : List (String × Option Json) :=
  [("dynamic_id_start", p.dynamicIdStart.map .int32),
    ("view_class_prefixes", p.viewPackages.map (.list .text)),
    ("text_classes", p.textClasses.map (.list .text)),
    ("group_classes", p.groupClasses.map (.list .text)),
    ("ignored_classes", p.ignoredClasses.map (.list .text)),
    ("dialog_builder_classes", p.dialogBuilders.map (.list .text)),
    ("track_api_calls", p.trackCalls.map .bool)]

/-- The fields that have a value, each with its name. -/
def fields (p : Patch) : List (String × Json) := Json.given p.entries

/-- Settings in which the fields that have a value are replaced. -/
def applyTo (p : Patch) (s : Settings) : Settings where
  dynamicIdStart := p.dynamicIdStart.getD s.dynamicIdStart
  viewPackages := p.viewPackages.getD s.viewPackages
  textClasses := p.textClasses.getD s.textClasses
  groupClasses := p.groupClasses.getD s.groupClasses
  ignoredClasses := p.ignoredClasses.getD s.ignoredClasses
  dialogBuilders := p.dialogBuilders.getD s.dialogBuilders
  trackCalls := p.trackCalls.getD s.trackCalls

end Patch

/-- The patch that gives all fields. -/
def patch (s : Settings) : Patch :=
  ⟨s.dynamicIdStart, s.viewPackages, s.textClasses, s.groupClasses, s.ignoredClasses,
    s.dialogBuilders, s.trackCalls⟩

theorem ofJson?_object (p : Patch) {fields : List (String × Json)}
    (hfields : (fields.filter fun f => decide (f.1 ∈ fieldNames)).Perm p.fields) :
    ofJson? (.object fields) = some (p.applyTo default) := by
  have hnames : (p.entries.map Prod.fst).Nodup := by
    show fieldNames.Nodup
    decide
  have hrecord : (Json.object fields).partialRecord? fieldNames = some (p.entries.map Prod.snd) :=
    Json.partialRecord?_object hnames hfields
  have hclasses : ∀ (value : Option (List String)) (default : List String),
      Json.defaultOr? (Json.list? Json.text?) default (value.map (.list .text)) =
        some (value.getD default) :=
    fun value default => Json.defaultOr?_map (Json.list?_list fun s : String => rfl) default value
  have hbool : ∀ (value : Option Bool) (default : Bool),
      Json.defaultOr? Json.bool? default (value.map .bool) = some (value.getD default) :=
    fun value default => Json.defaultOr?_map (fun b : Bool => rfl) default value
  unfold ofJson?
  rw [hrecord]
  simp only [Option.bind_eq_bind, Option.bind_some, Patch.entries, List.map_cons, List.map_nil,
    Json.defaultOr?_map Json.int32?_int32, hclasses, hbool]
  rfl

theorem integral_toJson (s : Settings) : s.toJson.Integral := by
  refine Json.integral_object ?_
  simp only [List.forall_mem_cons]
  have hclasses := Json.integral_list Json.integral_text
  exact ⟨trivial, hclasses _, hclasses _, hclasses _, hclasses _, hclasses _, trivial,
    fun _ hf => nomatch hf⟩

/-- The text of settings gives all fields, in the order of the record. -/
theorem ofJson?_toJson (s : Settings) : ofJson? s.toJson = some s := by
  have hknown : s.patch.fields.filter (fun f => decide (f.1 ∈ fieldNames)) = s.patch.fields := by
    rw [List.filter_eq_self]
    intro f hf
    exact decide_eq_true (Json.name_mem_of_mem_given hf)
  exact ofJson?_object s.patch (.of_eq hknown)

theorem validate_eq (s : Settings) :
    s.validate = if s.dynamicIdStart < 0 then .ok s
      else .error (.settings (startMessage s.dynamicIdStart)) := by
  unfold validate
  by_cases h : 0 ≤ s.dynamicIdStart
  · rw [if_pos h, if_neg (Int32.not_lt.mpr h)]
  · rw [if_neg h, if_pos (Int32.not_le.mp h)]

/-- Settings are read back, and defaults fill exactly the gaps. The compact
text of settings is read as these settings. So is any text of an object
with some of the fields, each once and with a value of its type, in any
order, among any other fields, and whatever blanks and escapes are used:
it gives the default with exactly these fields replaced. Either way
settings are refused, with the reason, if dynamic ids would not start below
zero. -/
theorem text_fills_gaps :
    (∀ s : Settings, ofText s.render =
      if s.dynamicIdStart < 0 then .ok s
      else .error (.settings (startMessage s.dynamicIdStart))) ∧
    ∀ (p : Patch) (fields : List (String × Json)) (t : Json.Spelling .value)
      (before after : Json.Blanks),
      (fields.filter fun f => decide (f.1 ∈ fieldNames)).Perm p.fields →
      t.json = .object fields →
        ofText (t.text before after) =
          if (p.applyTo default).dynamicIdStart < 0 then .ok (p.applyTo default)
          else .error (.settings (startMessage (p.applyTo default).dynamicIdStart)) := by
  refine ⟨fun s => ?_, fun p fields t before after hfields hdenoted => ?_⟩
  · unfold ofText render
    rw [Json.parse?_render s.integral_toJson, Option.bind_some, ofJson?_toJson]
    exact s.validate_eq
  · unfold ofText
    rw [Json.parse?_text, hdenoted, Option.bind_some, ofJson?_object p hfields]
    exact (p.applyTo default).validate_eq

/-- The name of a field with all characters as they are, and a blank after
the colon. -/
def plainName (name : String) : Json.Name where
  parts := name.toList.filterMap fun c =>
    if hc : c ≠ '"' ∧ c ≠ '\\' ∧ ¬c.toNat < 0x20 then some (.plain c hc) else none
  after := ⟨[' '], by decide⟩

/-- Three of the fields between two that are not known, one of which holds
half of a surrogate pair. -/
def sparse : Json.Spelling .value :=
  let half := Json.StringPart.unit 'd' '8' '0' '0' 0xd800 (by decide)
  let letter := Json.StringPart.unit '0' '0' '6' '1' 0x61 (by decide)
  let start : Json.Number := ⟨true, ⟨['5', '0', '0'], by decide, by decide⟩, none, none, by decide⟩
  let ratio : Json.Number :=
    ⟨true, ⟨['0'], by decide, by decide⟩, some ⟨['5', '0'], by decide, by decide⟩,
      some ⟨true, some .plus, ⟨['3'], by decide, by decide⟩⟩, by decide⟩
  let tight : Json.Blanks := {}
  let space : Json.Blanks := ⟨[' '], by decide⟩
  .obj ⟨['\n'], by decide⟩ <|
    .nextField (plainName "note") (.arr tight (.lastItem (.str [half]) tight)) tight tight <|
    .nextField (plainName "track_api_calls") (.bool false) ⟨['\t'], by decide⟩ tight <|
    .nextField (plainName "text_classes") (.arr space (.lastItem (.str [letter]) tight))
      tight tight <|
    .nextField (plainName "dynamic_id_start") (.number start) tight space <|
    .lastField (plainName "ratio") (.number ratio) tight

theorem text_fills_gaps_sparse :
    let text := "\x7b\n\"note\": [\"\\ud800\"],\"track_api_calls\": false\t," ++
      "\"text_classes\": [ \"\\u0061\"],\"dynamic_id_start\": -500, \"ratio\": -0.50E+3\x7d\r"
    sparse.text {} ⟨['\r'], by decide⟩ = text ∧
      ofText text = .ok { (default : Settings) with
        dynamicIdStart := -500, textClasses := ["a"], trackCalls := false } := by
  intro text
  let p : Patch :=
    { dynamicIdStart := some (-500), textClasses := some ["a"], trackCalls := some false }
  let fields : List (String × Json) :=
    [("note", .arr [.str none]), ("track_api_calls", .bool false),
      ("text_classes", .list .text ["a"]), ("dynamic_id_start", .int32 (-500)),
      ("ratio", .decimal (-50) 1)]
  have htext : sparse.text {} ⟨['\r'], by decide⟩ = text := by decide +kernel
  have hfields : (fields.filter fun f => decide (f.1 ∈ fieldNames)).Perm p.fields :=
    List.reverse_perm p.fields
  have hjson : sparse.json = .object fields := rfl
  have hread := text_fills_gaps.2 p fields sparse {} ⟨['\r'], by decide⟩ hfields hjson
  rw [htext] at hread
  exact ⟨htext, hread⟩

end Settings

end UiRecovery
