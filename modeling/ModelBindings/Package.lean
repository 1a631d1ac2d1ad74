import ModelBindings.Source.ModelClass
import ModelBindings.Source.PackageInit

/-!
# Packages

The files that a data model becomes, in the order in which they are written: the module of the
enums if there are any, a module for each model, the package's own module, and a marker that the
package is typed.

* `Package.Files` : texts by file name, each name once.
* `Package.generate` : the files of a data model. A model whose file name is taken is refused.
-/

set_option autoImplicit false

namespace ModelBindings.Package

/-- Texts by file name, in order. -/
abbrev Files := Association Text Text

/-- The comment on the origin of a file. -/
def originComment : Text :=
  "# Generated by prisma-pydantic-generator 0.1.0. Do not edit manually.\n\n"

/-- What each module starts with. -/
def header (c : Settings) : Text :=
  if c.addHeader.isTruthy then originComment else ""

/-- The file of a module. -/
def fileName (moduleName : Text) : Text :=
  moduleName ++ ".py"

/-- The name of the package's own module. -/
def initModule : Text := "__init__"

/-- The name of the marker. -/
def markerName : Text := "py.typed"

/-- The module name of a model. -/
def moduleName (m : Model) : Text :=
  snakeCase m.name

/-- The module of the enums, where there are any. -/
def enumFiles (c : Settings) (enums : List Enum) : Except Fault Files :=
  if enums.isEmpty then .ok []
  else
    match Source.enumsFile enums with
    | .error f => .error f
    | .ok text => .ok [(fileName c.enumsModule.display, header c ++ text)]

/-- The module of one more model. -/
def addModel (c : Settings) (enumNames : List Text) (files : Files) (m : Model) : Traced Files :=
  let name := moduleName m
  if (Association.keys files).contains (fileName name) || name == initModule then
    .fail (.package (.nameTaken m.name (fileName name)))
  else
    (Source.modelFile enumNames c.enumsModule m).bind fun text =>
    .ok (Association.put (fileName name) (header c ++ text) files)

/-- The modules of models, one after another. -/
def addModels (c : Settings) (enumNames : List Text) (files : Files) :
    List Model → Traced Files
  | [] => .ok files
  | m :: r => (addModel c enumNames files m).bind fun fs => addModels c enumNames fs r

/-- The module and name of a model. -/
def moduleEntry (m : Model) : Source.ModuleEntry :=
  { moduleName := moduleName m, name := m.name }

/-- The text of the package's own module. -/
def initText (c : Settings) (d : Datamodel) : Text :=
  header c ++ Source.packageInit d.enumNames c.enumsModule (d.models.map moduleEntry)

/-- The package's own module and the marker behind the other modules. -/
def close (c : Settings) (d : Datamodel) (files : Files) : Files :=
  let files := Association.put (fileName initModule) (initText c d) files
  if c.writeMarker.isTruthy then Association.put markerName "" files else files

/-- The files of a data model. -/
def generate (c : Settings) (d : Datamodel) : Traced Files :=
  (Traced.ofExcept (enumFiles c d.enums)).bind fun files =>
  (addModels c d.enumNames files d.models).bind fun files =>
  .ok (close c d files)

end ModelBindings.Package
