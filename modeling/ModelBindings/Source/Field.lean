import ModelBindings.Log
import ModelBindings.Naming
import ModelBindings.Source.Literal
import ModelBindings.Source.Usage

/-!
# Field lines

One line of a class body for each field: its name, its type, and what is said of its default, its
name in the document and its documentation.

* `FieldLine` : the parts of a line; `FieldLine.text` is the line.
* `RenderedField` : the line of a field or the fault that it meets, what it uses and the records it
  leaves.
* `renderField` : the line of a field.
-/

set_option autoImplicit false

namespace ModelBindings.Source

/-- What a line says of a default. -/
inductive DefaultPart where
  | none
  | literal (text : Text)
  | factory (name : Text)
  deriving Repr, DecidableEq

/-- The parts of a field line. -/
structure FieldLine where
  name : Text
  type : Text
  default : DefaultPart
  /-- The name in the document, where the line has another. -/
  documentName : Option Text
  documentation : Option Text
  deriving Repr, DecidableEq

namespace FieldLine

/-- The arguments of a field call that stand behind the default. -/
def notes (l : FieldLine) : List Text :=
  (l.documentName.map fun a : Text => "alias=\"" ++ a ++ "\"").toList
    ++ (l.documentation.map fun d : Text => "description=\"" ++ escape d ++ "\"").toList

/-- The line has a field call as its value. -/
def hasCall (l : FieldLine) : Bool :=
  match l.default with
  | .factory _ => true
  | _ => !l.notes.isEmpty

/-- The arguments of the field call. -/
def arguments (l : FieldLine) : List Text :=
  match l.default with
  | .none => l.notes
  | .literal s => ("default=" ++ s) :: l.notes
  | .factory s => ("default_factory=" ++ s) :: l.notes

/-- The value behind name and type. -/
def valueText (l : FieldLine) : Text :=
  if l.hasCall then " = Field(" ++ Text.join ", " l.arguments ++ ")"
  else
    match l.default with
    | .literal s => " = " ++ s
    | _ => ""

/-- The line. -/
def text (l : FieldLine) : Text :=
  l.name ++ ": " ++ l.type ++ l.valueText

end FieldLine

/-- The name of a field in the class body: snake case, with an underscore behind a reserved word, a
name that the body refers to and the name of an enum. -/
def fieldName (knownEnums : List Text) (name : Text) : Text :=
  let s := snakeCase name
  if isKeyword s || reservedNames.contains s || knownEnums.contains s then s ++ "_" else s

/-- The type of a field before it is made a list or optional, what it uses and the records it
leaves. -/
structure BaseType where
  usage : Usage
  log : List Record
  text : Text
  deriving Repr

/-- A record of the renderer. -/
def fieldRecord (field : Field) (message : Text) : Record :=
  ⟨.debug, .renderer, "Field " ++ field.name ++ message⟩

/-- The type of a scalar field. -/
def scalarType (field : Field) : Except Fault BaseType :=
  match ScalarType.ofValue? field.type with
  | .error e => .error e
  | .ok s =>
    .ok {
      usage := .ofScalar s
      log := if s.isSome then [] else
        [fieldRecord field (" has unknown scalar type " ++ field.type.quoted ++ ", using Any")]
      text := ScalarType.targetOf s }

/-- The enum that a field names, if it is known. Lists and objects cannot be looked up. -/
def knownEnum? (knownEnums : List Text) (type : Value) : Except Fault (Option Text) :=
  if type.isHashable then
    match type with
    | .text s => .ok (if knownEnums.contains s then some s else none)
    | _ => .ok none
  else .error (.value (.unhashable type))

/-- The type of an enum field. -/
def enumType (knownEnums : List Text) (field : Field) : Except Fault BaseType :=
  match knownEnum? knownEnums field.type with
  | .error e => .error e
  | .ok found =>
    .ok {
      usage := { Usage.nothing with enumName := found }
      log := if found.isSome then [] else
        [fieldRecord field (" references unknown enum " ++ field.type.quoted
          ++ ", using the bare name")]
      text := field.type.display }

/-- The type of a field before it is made a list or optional. -/
def baseType (knownEnums : List Text) (field : Field) : Except Fault BaseType :=
  match field.kind with
  | .scalar => scalarType field
  | .enum => enumType knownEnums field
  | .object =>
    .ok { usage := { Usage.nothing with relation := some field.type }, log := []
          text := field.type.display }
  | .unsupported => .ok { usage := { Usage.nothing with any := true }, log := [], text := "Any" }

/-- The type of a field. -/
def wrapType (field : Field) (base : Text) : Text :=
  if field.isList then "list[" ++ base ++ "]"
  else if field.isRequired then base
  else base ++ " | None"

/-- The field has a default of its own to show; an id has none. -/
def showsDefault (field : Field) : Bool :=
  field.hasDefault && !field.isId && field.default.isGiven

/-- What is said of the default. One that has no literal is dropped, and without a default of its
own a list is made empty and an optional field null. -/
def defaultPart (field : Field) : Except Fault (DefaultPart × List Record) :=
  if showsDefault field then
    match ofDefault field.default with
    | .error e => .error e
    | .ok (some s) => .ok (.literal s, [])
    | .ok none =>
      .ok (.none,
        [fieldRecord field " has a default that is not a Python literal, dropping it"])
  else if field.isList then .ok (.factory "list", [])
  else if field.isRequired then .ok (.none, [])
  else .ok (.literal "None", [])

/-- The line of a field or the fault that it meets, what it uses and the records it leaves. -/
structure RenderedField where
  usage : Usage
  log : List Record
  line : Except Fault FieldLine
  deriving Repr

/-- The line of a field. What its type uses and the records left so far count also when a fault is
met behind them. -/
def renderField (knownEnums : List Text) (field : Field) : RenderedField :=
  match baseType knownEnums field with
  | .error e => ⟨.nothing, [], .error e⟩
  | .ok base =>
    match defaultPart field with
    | .error e => ⟨base.usage, base.log, .error e⟩
    | .ok (default, dropped) =>
      match documentationText field.documentation with
      | .error e => ⟨base.usage, base.log ++ dropped, .error e⟩
      | .ok documentation =>
        let name := fieldName knownEnums field.name
        let line : FieldLine :=
          { name, default, documentation
            type := wrapType field base.text
            documentName := if name = field.name then none else some field.name }
        ⟨{ base.usage with fieldCall := line.hasCall }, base.log ++ dropped, .ok line⟩

end ModelBindings.Source
