import UiRecovery.Error
import UiRecovery.Json.Reader
import UiRecovery.Json.Record
import UiRecovery.Json.Writer
import UiRecovery.Toolkit

/-!
# Settings

Which classes count as widgets and of what form, where dynamic ids start, and whether calls are
recorded. Settings are read from JSON: a field that is not given takes its default.
-/

namespace UiRecovery

/-- The form in which a widget of some class is recovered. -/
inductive WidgetForm where
  | view
  | group
  | text
deriving DecidableEq, Repr

structure Settings where
  /-- The id of the first widget that has none of its own. Later ones descend from it. -/
  dynamicIdStart : Int32 := -90000
  /-- Packages, each with its final dot, whose constructors make widgets. -/
  viewPackages : List String := Toolkit.viewPackages
  textClasses : List String := Toolkit.textClasses
  groupClasses : List String := Toolkit.groupClasses
  /-- Widgets of these classes take no attributes. -/
  ignoredClasses : List String := Toolkit.ignoredClasses
  dialogBuilders : List String := Toolkit.dialogBuilders
  /-- Record each call as used by the component for which it was met. -/
  trackCalls : Bool := true
deriving DecidableEq, Repr

instance : Inhabited Settings := ⟨{}⟩

namespace Settings

/-! ## Classes -/

def isIgnored (s : Settings) (className : String) : Bool := s.ignoredClasses.contains className

def isDialogBuilder (s : Settings) (className : String) : Bool :=
  s.dialogBuilders.contains className

/-- The form of a widget class, `none` for any other class. A dialog builder is no widget, and a
class that is listed by name is not judged by its package. -/
def formOf? (s : Settings) (className : String) : Option WidgetForm :=
  if s.isDialogBuilder className then none
  else if s.textClasses.contains className then some .text
  else if s.groupClasses.contains className then some .group
  else if s.viewPackages.any fun p => p.toList.isPrefixOf className.toList then some .view
  else none

def isWidgetClass (s : Settings) (className : String) : Bool := (s.formOf? className).isSome

/-! ## Validity -/

/-- Why dynamic ids may not start at `start`. -/
def startMessage (start : Int32) : String :=
  "dynamic_id_start must be negative, got " ++ toString start.toInt

/-- Dynamic ids must start below zero, where no resource id lies. -/
def validate (s : Settings) : Except Error Settings :=
  if 0 ≤ s.dynamicIdStart then .error (.settings (startMessage s.dynamicIdStart)) else .ok s

/-! ## Text -/

def fieldNames : List String :=
  ["dynamic_id_start", "view_class_prefixes", "text_classes", "group_classes", "ignored_classes",
    "dialog_builder_classes", "track_api_calls"]

def toJson (s : Settings) : Json :=
  .object
    [("dynamic_id_start", .int32 s.dynamicIdStart),
      ("view_class_prefixes", .list .text s.viewPackages),
      ("text_classes", .list .text s.textClasses), ("group_classes", .list .text s.groupClasses),
      ("ignored_classes", .list .text s.ignoredClasses),
      ("dialog_builder_classes", .list .text s.dialogBuilders),
      ("track_api_calls", .bool s.trackCalls)]

def ofJson? (j : Json) : Option Settings := do
  let classes := Json.list? Json.text?
  let base : Settings := {}
  match ← j.partialRecord? fieldNames with
  | [start, packages, texts, groups, ignored, builders, track] =>
    return {
      dynamicIdStart := ← Json.defaultOr? Json.int32? base.dynamicIdStart start
      viewPackages := ← Json.defaultOr? classes base.viewPackages packages
      textClasses := ← Json.defaultOr? classes base.textClasses texts
      groupClasses := ← Json.defaultOr? classes base.groupClasses groups
      ignoredClasses := ← Json.defaultOr? classes base.ignoredClasses ignored
      dialogBuilders := ← Json.defaultOr? classes base.dialogBuilders builders
      trackCalls := ← Json.defaultOr? Json.bool? base.trackCalls track }
  | _ => none

def render (s : Settings) : String := s.toJson.render

/-- Settings from their text. They have to be valid. -/
def ofText (text : String) : Except Error Settings :=
  match (Json.parse? text).bind ofJson? with
  | some s => s.validate
  | none => .error .unreadable

/-! ## Files -/

/-- Why a settings file was refused. -/
inductive FileError where
  /-- The file could not be read as text. -/
  | unread (path : String)
  | rejected (path : String) (cause : Error)
deriving DecidableEq, Repr

def FileError.message : FileError → String
  | .unread path => "Failed to read config file: " ++ path
  | .rejected path _ => "Failed to parse config file: " ++ path

/-- Settings from what reading the file at `path` gave: its bytes, if there were any to read. -/
def ofFile (path : String) (bytes : Option ByteArray) : Except FileError Settings :=
  match bytes.bind String.fromUTF8? with
  | none => .error (.unread path)
  | some text =>
    match ofText text with
    | .ok s => .ok s
    | .error e => .error (.rejected path e)

end Settings

end UiRecovery
