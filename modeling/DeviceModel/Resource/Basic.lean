import DeviceModel.Catalog.Basic
import DeviceModel.Item.Run

/-!
# Resources

A resource is the list of items of one entity, at most one for a suffix. Adding an item that is
there changes nothing, whatever type is asked for. Removing one moves the last item into its place.
As JSON, a resource shows its public items that hold a value: `state/bri` as the entry `bri` of the
object `state`, and an identity attribute such as `attr/name` as the entry `name` of the whole.
-/

namespace DeviceModel

open Text

/-- The items of one entity. -/
structure Resource (τ : Type) where
  /-- The path of the kind of the entity. -/
  path : String
  items : List (Item τ) := []
deriving DecidableEq

namespace Resource

variable {τ : Type}

/-- The resource without items. -/
def new (path : String) : Resource τ where
  path := path

/-- The item with this suffix. -/
def item? (resource : Resource τ) (suffix : String) : Option (Item τ) :=
  resource.items.find? fun item => item.suffix == suffix

/-- The place of the item with this suffix. -/
def indexOf? (resource : Resource τ) (suffix : String) : Option Nat :=
  resource.items.findIdx? fun item => item.suffix == suffix

/-- An item of a resource, by its place. -/
structure Slot (τ : Type) where
  resource : Resource τ
  index : Fin resource.items.length

/-- The item in a slot. -/
def Slot.item (slot : Slot τ) : Item τ :=
  slot.resource.items[slot.index]

/-- The resource with another item in the slot. -/
def Slot.put (slot : Slot τ) (item : Item τ) : Resource τ :=
  { slot.resource with items := slot.resource.items.set slot.index item }

/-- The slot of the item with this suffix. If there is none yet, it is added at the end as the
catalog describes it, which must have the suffix with this type. -/
def ensure (resource : Resource τ) (catalog : Catalog) (dataType : DataType) (suffix : String) :
    Except Error (Slot τ) :=
  match resource.items.findFinIdx? fun item => item.suffix == suffix with
  | some index => .ok ⟨resource, index⟩
  | none =>
    match catalog.find? dataType suffix with
    | some descriptor =>
      let items := resource.items ++ [Item.new descriptor]
      .ok ⟨{ resource with items }, ⟨resource.items.length, by simp [items]⟩⟩
    | none => .error (.unregistered dataType suffix)

/-- The resource with an item of this suffix. -/
def add (resource : Resource τ) (catalog : Catalog) (dataType : DataType) (suffix : String) :
    Except Error (Resource τ) :=
  (resource.ensure catalog dataType suffix).map Slot.resource

/-- A list without the element at `index`, whose place the last element takes. -/
def swapRemove {α : Type} (list : List α) (index : Nat) : List α :=
  match list.getLast? with
  | none => []
  | some last => (list.set index last).dropLast

/-- The item with this suffix and the resource without it, if there is one. -/
def remove? (resource : Resource τ) (suffix : String) : Option (Item τ × Resource τ) := do
  let index ← resource.indexOf? suffix
  let item ← resource.items[index]?
  return (item, { resource with items := swapRemove resource.items index })

/-- The resource with the item at `index` changed. -/
def modifyAt (resource : Resource τ) (index : Nat) (change : Item τ → Item τ) : Resource τ :=
  { resource with items := resource.items.modify index change }

/-- The resource with the item of this suffix changed. -/
def modify (resource : Resource τ) (suffix : String) (change : Item τ → Item τ) : Resource τ :=
  match resource.indexOf? suffix with
  | some index => resource.modifyAt index change
  | none => resource

/-- Whether the number of an item is other than zero. -/
def toBool (resource : Resource τ) (suffix : String) : Bool :=
  (resource.item? suffix).any Item.toBool

/-- The number of an item, zero if there is none. -/
def toNumber (resource : Resource τ) (suffix : String) : Int64 :=
  (resource.item? suffix).elim 0 Item.number

/-- The text of an item, the invalid one if there is none. -/
def toText (resource : Resource τ) (suffix : String) : String :=
  (resource.item? suffix).elim invalidText Item.toText

/-! ### JSON -/

/-- Where the value of an item stands in the JSON form of its resource. -/
inductive Place
  /-- An entry of the whole. -/
  | top (key : String)
  /-- An entry of the object of a group. -/
  | grouped (group key : String)
deriving DecidableEq

/-- The place of an attribute. -/
def Place.ofSuffix (suffix : String) : Place :=
  match splitFirst? '/' suffix with
  | some (group, key) => if group = "attr" then .top key else .grouped group key
  | none => .top suffix

/-- The entries with a value at a place. An entry of a group is dropped if something other than an
object stands in the place of its group. -/
def insertAt (members : Json.Members) (place : Place) (value : Json) : Json.Members :=
  match place with
  | .top key => members.insert key value
  | .grouped group key =>
    match members.get? group with
    | none => members.insert group (.object [(key, value)])
    | some (.object inner) => members.insert group (.object (Json.insertEntry key value inner))
    | some _ => members

/-- Whether an item is shown. -/
def isShown (item : Item τ) : Bool :=
  item.isPublic && item.hasValue

/-- The entries of the JSON form of a resource. -/
def toJson (resource : Resource τ) : Json.Members :=
  (resource.items.filter isShown).foldl
    (fun members item => insertAt members (.ofSuffix item.suffix) item.toValue.toJson) .empty

end Resource

end DeviceModel
