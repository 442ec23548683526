import DeviceModel.Descriptor

/-!
# Built-in attributes

The attributes that every catalog starts with, in the order in which keys are matched against them.
-/

namespace DeviceModel.Catalog

/-- The attributes that say what an entity is. -/
def identityAttributes : List Descriptor :=
  [⟨"attr/name", .string, 0, 0⟩,
    ⟨"attr/manufacturername", .string, 0, 0⟩,
    ⟨"attr/modelid", .string, 0, 0⟩,
    ⟨"attr/type", .string, 0, 0⟩,
    ⟨"attr/class", .string, 0, 0⟩,
    ⟨"attr/uniqueid", .string, 0, 0⟩,
    ⟨"attr/swversion", .string, 0, 0⟩]

/-- The attributes that change by themselves, and the scene action. -/
def stateAttributes : List Descriptor :=
  [⟨"state/alarm", .bool, 0, 0⟩,
    ⟨"state/alert", .string, 0, 0⟩,
    ⟨"state/all_on", .bool, 0, 0⟩,
    ⟨"state/any_on", .bool, 0, 0⟩,
    ⟨"state/bri", .uint8, 0, 0⟩,
    ⟨"state/buttonevent", .int32, 0, 0⟩,
    ⟨"state/carbonmonoxide", .bool, 0, 0⟩,
    ⟨"state/colormode", .string, 0, 0⟩,
    ⟨"state/consumption", .uint64, 0, 0⟩,
    ⟨"state/current", .uint16, 0, 0⟩,
    ⟨"state/ct", .uint16, 0, 0⟩,
    ⟨"state/dark", .bool, 0, 0⟩,
    ⟨"state/daylight", .bool, 0, 0⟩,
    ⟨"state/effect", .string, 0, 0⟩,
    ⟨"state/fire", .bool, 0, 0⟩,
    ⟨"state/flag", .bool, 0, 0⟩,
    ⟨"state/hue", .uint16, 0, 0⟩,
    ⟨"state/humidity", .uint16, 0, 10000⟩,
    ⟨"state/lastupdated", .time, 0, 0⟩,
    ⟨"state/lightlevel", .uint16, 0, 65534⟩,
    ⟨"state/lowbattery", .bool, 0, 0⟩,
    ⟨"state/lux", .uint32, 0, 0⟩,
    ⟨"state/on", .bool, 0, 0⟩,
    ⟨"state/open", .bool, 0, 0⟩,
    ⟨"state/orientation_x", .int16, 0, 0⟩,
    ⟨"state/orientation_y", .int16, 0, 0⟩,
    ⟨"state/orientation_z", .int16, 0, 0⟩,
    ⟨"state/presence", .bool, 0, 0⟩,
    ⟨"state/pressure", .int16, 0, 32767⟩,
    ⟨"state/power", .int16, 0, 0⟩,
    ⟨"state/reachable", .bool, 0, 0⟩,
    ⟨"state/sat", .uint8, 0, 0⟩,
    ⟨"action/scene", .string, 0, 0⟩,
    ⟨"state/speed", .uint8, 0, 6⟩,
    ⟨"state/status", .int32, 0, 0⟩,
    ⟨"state/tampered", .bool, 0, 0⟩,
    ⟨"state/temperature", .int16, -27315, 32767⟩,
    ⟨"state/tiltangle", .uint16, 0, 0⟩,
    ⟨"state/valve", .uint8, 0, 0⟩,
    ⟨"state/vibration", .bool, 0, 0⟩,
    ⟨"state/vibrationstrength", .uint16, 0, 0⟩,
    ⟨"state/voltage", .uint16, 0, 0⟩,
    ⟨"state/water", .bool, 0, 0⟩,
    ⟨"state/x", .uint16, 0, 0⟩,
    ⟨"state/y", .uint16, 0, 0⟩]

/-- The attributes that are set by the user or by commissioning. -/
def configAttributes : List Descriptor :=
  [⟨"config/alert", .string, 0, 0⟩,
    ⟨"config/battery", .uint8, 0, 100⟩,
    ⟨"config/colorcapabilities", .uint16, 0, 0⟩,
    ⟨"config/ctmin", .uint16, 0, 0⟩,
    ⟨"config/ctmax", .uint16, 0, 0⟩,
    ⟨"config/configured", .bool, 0, 0⟩,
    ⟨"config/delay", .uint16, 0, 0⟩,
    ⟨"config/displayflipped", .bool, 0, 0⟩,
    ⟨"config/duration", .uint16, 0, 0⟩,
    ⟨"config/group", .string, 0, 0⟩,
    ⟨"config/heatsetpoint", .int16, 500, 3000⟩,
    ⟨"config/hostflags", .uint32, 0, 0⟩,
    ⟨"config/id", .uint32, 0, 0⟩,
    ⟨"config/lat", .string, 0, 0⟩,
    ⟨"config/ledindication", .bool, 0, 0⟩,
    ⟨"config/localtime", .time, 0, 0⟩,
    ⟨"config/locked", .bool, 0, 0⟩,
    ⟨"config/long", .string, 0, 0⟩,
    ⟨"config/levelmin", .uint8, 0, 0⟩,
    ⟨"config/mode", .string, 0, 0⟩,
    ⟨"config/offset", .int16, -500, 500⟩,
    ⟨"config/on", .bool, 0, 0⟩,
    ⟨"config/pending", .uint8, 0, 0⟩,
    ⟨"config/powerup", .uint32, 0, 0⟩,
    ⟨"config/poweronlevel", .uint8, 0, 0⟩,
    ⟨"config/poweronct", .uint16, 0, 0⟩,
    ⟨"config/reachable", .bool, 0, 0⟩,
    ⟨"config/scheduler", .string, 0, 0⟩,
    ⟨"config/scheduleron", .bool, 0, 0⟩,
    ⟨"config/sensitivity", .uint8, 0, 0⟩,
    ⟨"config/sensitivitymax", .uint8, 0, 0⟩,
    ⟨"config/sunriseoffset", .int8, -120, 120⟩,
    ⟨"config/sunsetoffset", .int8, -120, 120⟩,
    ⟨"config/temperature", .int16, -27315, 32767⟩,
    ⟨"config/tholddark", .uint16, 0, 65534⟩,
    ⟨"config/tholdoffset", .uint16, 1, 65534⟩,
    ⟨"config/url", .string, 0, 0⟩,
    ⟨"config/usertest", .bool, 0, 0⟩,
    ⟨"config/windowcoveringtype", .uint8, 0, 0⟩,
    ⟨"config/ubisys_j1_mode", .uint8, 0, 0⟩,
    ⟨"config/ubisys_j1_windowcoveringtype", .uint8, 0, 0⟩,
    ⟨"config/ubisys_j1_configurationandstatus", .uint8, 0, 0⟩,
    ⟨"config/ubisys_j1_installedopenlimitlift", .uint16, 0, 0⟩,
    ⟨"config/ubisys_j1_installedclosedlimitlift", .uint16, 0, 0⟩,
    ⟨"config/ubisys_j1_installedopenlimittilt", .uint16, 0, 0⟩,
    ⟨"config/ubisys_j1_installedclosedlimittilt", .uint16, 0, 0⟩,
    ⟨"config/ubisys_j1_turnaroundguardtime", .uint8, 0, 0⟩,
    ⟨"config/ubisys_j1_lifttotilttransitionsteps", .uint16, 0, 0⟩,
    ⟨"config/ubisys_j1_totalsteps", .uint16, 0, 0⟩,
    ⟨"config/ubisys_j1_lifttotilttransitionsteps2", .uint16, 0, 0⟩,
    ⟨"config/ubisys_j1_totalsteps2", .uint16, 0, 0⟩,
    ⟨"config/ubisys_j1_additionalsteps", .uint8, 0, 0⟩,
    ⟨"config/ubisys_j1_inactivepowerthreshold", .uint16, 0, 0⟩,
    ⟨"config/ubisys_j1_startupsteps", .uint16, 0, 0⟩]

/-- All built-in attributes, in order. -/
def builtinAttributes : List Descriptor :=
  identityAttributes ++ stateAttributes ++ configAttributes

/-- No suffix is registered twice. -/
theorem nodup_builtinAttributes : (builtinAttributes.map (·.suffix)).Nodup := by
  decide +kernel

end DeviceModel.Catalog
