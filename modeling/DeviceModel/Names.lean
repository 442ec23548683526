/-!
# Well-known names

The kinds of entities with their paths, the names of events, and the placeholder for a suffix that
could not be resolved. These are the names on the wire, so they never change.
-/

namespace DeviceModel

/-- What a resource stands for. -/
inductive EntityKind
  | sensors
  | lights
  | groups
  | config
deriving DecidableEq, Repr

namespace EntityKind

/-- All kinds, in order. -/
def all : List EntityKind :=
  [sensors, lights, groups, config]

/-- The path under which entities of the kind are found. -/
def path : EntityKind → String
  | sensors => "/sensors"
  | lights => "/lights"
  | groups => "/groups"
  | config => "/config"

/-- The kind with this path. -/
def ofPath? (path : String) : Option EntityKind :=
  all.find? fun kind => kind.path == path

end EntityKind

/-- What can happen to an entity. -/
inductive Event
  | added
  | deleted
  | validGroup
  | checkGroupAnyOn
deriving DecidableEq, Repr

/-- All events, in order. -/
def Event.all : List Event :=
  [added, deleted, validGroup, checkGroupAnyOn]

/-- The name of an event. -/
def Event.name : Event → String
  | added => "event/added"
  | deleted => "event/deleted"
  | validGroup => "event/validgroup"
  | checkGroupAnyOn => "event/checkgroupanyon"

/-- Stands for a suffix that could not be resolved. -/
def invalidSuffix : String := "invalid/suffix"

/-- The text of an attribute that has none. -/
def invalidText : String := ""

end DeviceModel
