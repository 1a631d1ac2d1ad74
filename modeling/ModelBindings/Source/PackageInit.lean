import ModelBindings.Source.Imports
import ModelBindings.Value.Display

/-!
# The package's own module

It imports every enum and model under its name, lists them as what the package offers, and resolves
the references of the models among each other.
-/

set_option autoImplicit false

namespace ModelBindings.Source

/-- The module and the name of a model. -/
structure ModuleEntry where
  moduleName : Text
  name : Text
  deriving Repr, DecidableEq

/-- A line of the list of offered names. -/
def exportLine (name : Text) : Text :=
  "    \"" ++ name ++ "\",\n"

/-- The line that resolves the references of a model. -/
def rebuildLine (m : ModuleEntry) : Text :=
  m.name ++ ".model_rebuild()\n"

/-- The import lines. -/
def initImports (enumNames : List Text) (enumsModule : Text) (models : List ModuleEntry) :
    List Text :=
  (enumNames.map (enumImport enumsModule)
    ++ models.map fun m => enumImport m.moduleName m.name).map (· ++ "\n")

/-- The part that resolves references. -/
def rebuildPart (models : List ModuleEntry) : Text :=
  if models.isEmpty then ""
  else "\n# Resolve cross-module forward references\n" ++ Text.concat (models.map rebuildLine)

/-- The package's own module. -/
def packageInit (enumNames : List Text) (enumsModule : Value) (models : List ModuleEntry) :
    Text :=
  Text.concat (initImports enumNames enumsModule.display models)
    ++ "\n__all__ = [\n"
    ++ Text.concat ((enumNames ++ models.map (·.name)).map exportLine)
    ++ "]\n" ++ rebuildPart models

end ModelBindings.Source
