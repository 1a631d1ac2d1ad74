import ModelBindings.Settings
import ModelBindings.Source.EnumClass
import ModelBindings.Source.Field

/-!
# Modules of models

Each model has a module of its own: the imports that its fields need, and a class with one line for
each field. The class body closes with the settings of the class.

* `renderFields` : the lines of fields in order, and what they need together.
* `modelFile` : the module of a model.
-/

set_option autoImplicit false

namespace ModelBindings.Source

/-- The lines of fields, and what they need together. -/
structure RenderedFields where
  needs : Needs
  lines : List Text
  deriving Repr

/-- The lines of fields in order, starting from the needs so far; the first fault stops. -/
def renderFields (knownEnums : List Text) (needs : Needs) :
    List Field → Traced RenderedFields
  | [] => .ok { needs, lines := [] }
  | f :: r =>
    let rendered := renderField knownEnums f
    (⟨rendered.log, rendered.line⟩ : Traced FieldLine).bind fun line =>
    (renderFields knownEnums (needs.absorb rendered.usage) r).bind fun rest =>
    .ok { rest with lines := line.text :: rest.lines }

/-- The settings of every class. -/
def classSettings : Text :=
  "\n    model_config = ConfigDict(\n"
    ++ "        from_attributes=True,\n"
    ++ "        populate_by_name=True,\n"
    ++ "    )\n"

/-- A field line as a line of the class body. -/
def fieldBodyLine (line : Text) : Text :=
  bodyIndent ++ line ++ "\n"

/-- The import block of a model's module. -/
def modelImports (enumsModule : Value) (needs : Needs) : Text :=
  importBlock (needs.imports.addPydantic "ConfigDict") needs.enums enumsModule.display

/-- The class of a model, given its docstring and field lines. -/
def modelClassText (name : Text) (doc : Option Text) (lines : List Text) : Text :=
  "class " ++ name ++ "(BaseModel):\n" ++ docPart doc "\n\n"
    ++ bodyLines (lines.map fieldBodyLine) ++ classSettings

/-- The module of a model. -/
def modelFile (knownEnums : List Text) (enumsModule : Value) (m : Model) : Traced Text :=
  (renderFields knownEnums .initial m.fields).bind fun rendered =>
  (Traced.ofExcept (classDocstring m.documentation)).bind fun doc =>
  .ok (modelImports enumsModule rendered.needs ++ "\n"
    ++ modelClassText m.name doc rendered.lines)

end ModelBindings.Source
