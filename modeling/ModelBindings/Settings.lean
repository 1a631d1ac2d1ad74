import ModelBindings.Fault
import ModelBindings.Naming
import ModelBindings.Text.Blank

/-!
# Settings

The six settings of a run. A configuration file sets them by their own names and keeps every value
as it is. The options of a generator block may spell a name in camel case, and a text given for a
yes-or-no setting means yes when it says `true`.

* `Settings.read` : the settings of a configuration file.
* `Settings.readOptions` : the settings of a generator block.
* `Settings.toMembers` : the settings by name.
-/

set_option autoImplicit false

namespace ModelBindings

/-- The names of the settings. -/
inductive Setting where
  | enabled
  | outputDir
  | enumsModule
  | addHeader
  | writeMarker
  | validate
  deriving Repr, DecidableEq

namespace Setting

/-- The key of a setting. -/
def key : Setting → Text
  | .enabled => "enabled"
  | .outputDir => "output_dir"
  | .enumsModule => "enums_module"
  | .addHeader => "add_generation_comment"
  | .writeMarker => "write_py_typed"
  | .validate => "validate_before_write"

/-- All settings. -/
def all : List Setting :=
  [.enabled, .outputDir, .enumsModule, .addHeader, .writeMarker, .validate]

/-- The setting of a key. -/
def ofKey? (k : Text) : Option Setting :=
  all.find? fun s => s.key == k

/-- The setting is answered by yes or no. -/
def isYesNo : Setting → Bool
  | .outputDir => false
  | .enumsModule => false
  | _ => true

end Setting

/-- The settings of a run. -/
structure Settings where
  /-- Whether anything is written at all. -/
  enabled : Value
  /-- The directory of the package. -/
  outputDir : Value
  /-- The module that holds the enums. -/
  enumsModule : Value
  /-- Whether each file starts with a comment on its origin. -/
  addHeader : Value
  /-- Whether the package is marked as typed. -/
  writeMarker : Value
  /-- Whether a file is checked before it replaces another. -/
  validate : Value
  deriving Repr

namespace Settings

/-- The settings where nothing is said. -/
def defaults : Settings :=
  { enabled := .bool false, outputDir := .null, enumsModule := .text "enums"
    addHeader := .bool true, writeMarker := .bool true, validate := .bool true }

/-- The value of a setting. -/
def get (c : Settings) : Setting → Value
  | .enabled => c.enabled
  | .outputDir => c.outputDir
  | .enumsModule => c.enumsModule
  | .addHeader => c.addHeader
  | .writeMarker => c.writeMarker
  | .validate => c.validate

/-- Give a setting a value. -/
def set (c : Settings) (s : Setting) (v : Value) : Settings :=
  match s with
  | .enabled => { c with enabled := v }
  | .outputDir => { c with outputDir := v }
  | .enumsModule => { c with enumsModule := v }
  | .addHeader => { c with addHeader := v }
  | .writeMarker => { c with writeMarker := v }
  | .validate => { c with validate := v }

theorem get_set (c : Settings) (s t : Setting) (v : Value) :
    (c.set s v).get t = if s = t then v else c.get t := by
  cases s <;> cases t <;> rfl

/-- The settings by name. -/
def toMembers (c : Settings) : Members :=
  Setting.all.map fun s => (s.key, c.get s)

/-- Give the setting of a key a value; other keys say nothing. -/
def setKey (c : Settings) (m : Text × Value) : Settings :=
  match Setting.ofKey? m.1 with
  | some s => c.set s m.2
  | none => c

/-- One member of a configuration file. Three names belong to the settings as a whole: the first
replaces them all, the other two cannot be given. -/
def readMember (c : Settings) (m : Text × Value) : Except Fault Settings :=
  if m.1 = "__dict__" then
    match m.2 with
    | .object ms => .ok (ms.foldl setKey defaults)
    | _ => .error (.value (.refused m.1))
  else if m.1 = "__class__" then .error (.value (.refused m.1))
  else if m.1 = "__weakref__" then .error (.value (.readOnly m.1))
  else .ok (c.setKey m)

/-- The settings of a configuration file. -/
def read : Value → Except Fault Settings
  | .object ms => ms.foldlM readMember defaults
  | v => .error (.value (.lacks v "items"))

/-- A text that says yes: `true` in any case, with blanks around it. -/
def saysYes (s : Text) : Bool :=
  Text.lower (Text.strip s.toList) == ("true" : Text).toList

/-- The value that an option gives to a setting. -/
def optionValue (s : Setting) (v : Value) : Value :=
  match v with
  | .text t => if s.isYesNo then .bool (saysYes t) else v
  | _ => v

/-- One option of a generator block. -/
def setOption (c : Settings) (m : Text × Value) : Settings :=
  match Setting.ofKey? (snakeCase m.1) with
  | some s => c.set s (optionValue s m.2)
  | none => c

/-- The settings of a generator block. -/
def readOptions : Value → Except Fault Settings
  | .object ms => .ok (ms.foldl setOption defaults)
  | v => .error (.value (.lacks v "items"))

end Settings

end ModelBindings
