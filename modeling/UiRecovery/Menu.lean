import UiRecovery.Attr
import UiRecovery.Guid
import UiRecovery.Toolkit

/-!
# Menus

A menu has items of its own and may have one submenu, which hangs off an item. Menus are declared
once and shown many times: each showing is a copy whose items have guids of their own.
-/

namespace UiRecovery

/-- Where a menu is shown. -/
inductive MenuType where
  | options
  | context
  | popup
  | panel
  | other
  | undefined
deriving DecidableEq, Repr

instance : Inhabited MenuType := ⟨.undefined⟩

namespace MenuType

def all : List MenuType := [.options, .context, .popup, .panel, .other, .undefined]

def name : MenuType → String
  | .options => "Options"
  | .context => "Context"
  | .popup => "Popup"
  | .panel => "Panel"
  | .other => "Other"
  | .undefined => "Undefined"

/-- The type of a menu that is filled in the given callback. -/
def ofCallback (callback : String) : MenuType :=
  if callback = Toolkit.onCreateOptionsMenu then .options
  else if callback = Toolkit.onCreateContextMenu then .context
  else if callback = Toolkit.onCreatePanelMenu then .panel
  else .other

/-- The callback that is told when an item is chosen. -/
def listener? : MenuType → Option String
  | .options => some Toolkit.onOptionsItemSelected
  | .panel => some Toolkit.onOptionsItemSelected
  | .context => some Toolkit.onContextItemSelected
  | .popup => none
  | .other => none
  | .undefined => none

def ofJson? (j : Json) : Option MenuType := all.find? fun t => j.unitVariant? = some t.name

end MenuType

structure MenuItem where
  id : Int32
  guid : Guid
  title : Attr
  groupId : Int32
  markupCallback : Option String := none
  attributes : List Attr := []
  listeners : List String := []
deriving DecidableEq, Repr

namespace MenuItem

/-- The same item under another identity. -/
def copyAs (item : MenuItem) (id : Int32) (guid : Guid) : MenuItem := { item with id, guid }

def withGuid (item : MenuItem) (guid : Guid) : MenuItem := item.copyAs item.id guid

/-- A copy of an item, which draws its guid. -/
def copyWithId (item : MenuItem) (id : Int32) (mint : Mint) : MenuItem × Mint :=
  let (guid, mint) := mint.draw
  (item.copyAs id guid, mint)

def copy (item : MenuItem) (mint : Mint) : MenuItem × Mint := item.copyWithId item.id mint

/-- Copies of items, made one after the other. -/
def copyAll : List MenuItem → Mint → List MenuItem × Mint
  | [], mint => ([], mint)
  | item :: rest, mint =>
    let (item, mint) := item.copy mint
    let (rest, mint) := copyAll rest mint
    (item :: rest, mint)

theorem snd_copyAll : ∀ (items : List MenuItem) (mint : Mint),
    (copyAll items mint).2 = mint.advance items.length
  | [], _ => rfl
  | item :: rest, mint => by
    show (copyAll rest (mint.advance 1)).2 = _
    rw [snd_copyAll rest, Mint.advance_advance, List.length_cons, Nat.add_comm]

def toJson (item : MenuItem) : Json :=
  .object
    [("id", .int32 item.id), ("guid", item.guid.toJson), ("title", item.title.toJson),
      ("group_id", .int32 item.groupId), ("xml_callback", .optional .text item.markupCallback),
      ("attributes", .list Attr.toJson item.attributes), ("listeners", .list .text item.listeners)]

end MenuItem

structure SubMenu where
  root : MenuItem
  items : List MenuItem
deriving DecidableEq, Repr

/-- A copy of a submenu. The root draws its guid before the items do. -/
def SubMenu.copy (sub : SubMenu) (mint : Mint) : SubMenu × Mint :=
  let (root, mint) := sub.root.copy mint
  let (items, mint) := MenuItem.copyAll sub.items mint
  ({ root, items }, mint)

theorem SubMenu.snd_copy (sub : SubMenu) (mint : Mint) :
    (sub.copy mint).2 = mint.advance (sub.items.length + 1) := by
  show (MenuItem.copyAll sub.items (mint.advance 1)).2 = _
  rw [MenuItem.snd_copyAll, Mint.advance_advance, Nat.add_comm]

structure Menu where
  items : List MenuItem := []
  subMenu : Option SubMenu := none
  type : MenuType := .undefined
  /-- The method that is told when an item is chosen. -/
  listener : Option String := none
deriving DecidableEq, Repr, Inhabited

namespace Menu

/-- The number of items, the root of the submenu included. -/
def itemCount (m : Menu) : Nat :=
  m.items.length + match m.subMenu with
    | some sub => sub.items.length + 1
    | none => 0

/-- A copy of a menu. The menu's own items draw their guids before the submenu does. -/
def copy (m : Menu) (mint : Mint) : Menu × Mint :=
  let (items, mint) := MenuItem.copyAll m.items mint
  match m.subMenu with
  | none => ({ m with items, subMenu := none }, mint)
  | some sub =>
    let (sub, mint) := sub.copy mint
    ({ m with items, subMenu := some sub }, mint)

/-- A copy draws one guid for each item. -/
theorem snd_copy (m : Menu) (mint : Mint) : (m.copy mint).2 = mint.advance m.itemCount := by
  unfold copy itemCount
  cases m.subMenu with
  | none => exact MenuItem.snd_copyAll m.items mint
  | some sub =>
    show (sub.copy (MenuItem.copyAll m.items mint).2).2 = _
    rw [SubMenu.snd_copy, MenuItem.snd_copyAll, Mint.advance_advance]

def toJson (m : Menu) : Json :=
  let sub (s : SubMenu) : Json :=
    .object [("root_item", s.root.toJson), ("items", .list MenuItem.toJson s.items)]
  .object
    [("items", .list MenuItem.toJson m.items), ("sub_menu", .optional sub m.subMenu),
      ("menu_type", .text m.type.name), ("listener", .optional .text m.listener)]

end Menu

end UiRecovery
