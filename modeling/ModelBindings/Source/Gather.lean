import ModelBindings.Source.Field

/-!
# Field lines with their needs gathered on the way

The line of a field is made step by step, and each step adds what it needs to the needs so far. What
a step added stays when a fault is met behind it.

* `Gather` : a step that adds to the needs.
* `gatherField` : the line of a field.
* `gatherAll` : fields one after another.
-/

set_option autoImplicit false

namespace ModelBindings.Source

/-- A step that adds to the needs so far; what it added stays when it meets a fault. -/
abbrev Gather (α : Type) := ExceptT Fault (StateM Needs) α

namespace Gather

/-- The result of a step or the fault that it meets, and the needs after it. -/
def runOn {α : Type} (x : Gather α) (n : Needs) : Except Fault α × Needs :=
  x.run.run n

/-- Import a name of the typing module. -/
def typing (name : Text) : Gather Unit :=
  modify fun n => { n with imports := n.imports.addTyping name }

/-- Import a name of the model library. -/
def pydantic (name : Text) : Gather Unit :=
  modify fun n => { n with imports := n.imports.addPydantic name }

def datetime : Gather Unit :=
  modify fun n => { n with imports := { n.imports with datetime := true } }

def decimal : Gather Unit :=
  modify fun n => { n with imports := { n.imports with decimal := true } }

/-- Use an enum, if it is not used yet. -/
def enum (name : Text) : Gather Unit :=
  modify fun n => if n.enums.contains name then n else { n with enums := n.enums ++ [name] }

/-- Refer to a model, if it is not referred to yet. -/
def relation (v : Value) : Gather Unit :=
  modify fun n => if n.relations.any v.same then n else { n with relations := n.relations ++ [v] }

end Gather

/-- The type that stands for a scalar. -/
def gatherScalar (f : Field) : Gather Text := do
  match ← ScalarType.ofValue? f.type with
  | none =>
    Gather.typing "Any"
    return "Any"
  | some s =>
    if s.target = "datetime" then Gather.datetime
    else if s.target = "Decimal" then Gather.decimal
    else if s.target = "Any" then Gather.typing "Any"
    return s.target

/-- The type of a field before it is made a list or optional. -/
def gatherType (known : List Text) (f : Field) : Gather Text :=
  match f.kind with
  | .scalar => gatherScalar f
  | .enum => do
    if let some name ← knownEnum? known f.type then Gather.enum name
    return f.type.display
  | .object => do
    Gather.relation f.type
    return f.type.display
  | .unsupported => do
    Gather.typing "Any"
    return "Any"

/-- A line with what it imports for its value. -/
def gatherValue (line : FieldLine) : Gather FieldLine := do
  if line.hasCall then Gather.pydantic "Field"
  return line

/-- The line of a field. -/
def gatherField (known : List Text) (f : Field) : Gather FieldLine := do
  let type ← gatherType known f
  let (default, _) ← defaultPart f
  let documentation ← documentationText f.documentation
  let name := fieldName known f.name
  gatherValue
    { name, default, documentation
      type := wrapType f type
      documentName := if name = f.name then none else some f.name }

/-- The needs after fields, whether they have a line or meet a fault. -/
def gatherAll (fields : List (List Text × Field)) (n : Needs) : Needs :=
  fields.foldl (fun n p => ((gatherField p.1 p.2).runOn n).2) n

end ModelBindings.Source
