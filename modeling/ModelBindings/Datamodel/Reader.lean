import ModelBindings.Datamodel
import ModelBindings.Log

/-!
# Reading a data model

A document is an object that holds lists of enums and models, itself or in its member `datamodel`.
Enums come before models, and the first fault in the order of reading is the one reported. A list
may be missing or absent (null, false, zero, empty); an entry has to be an object with a name. A
field of an unknown kind is read as unsupported, which leaves a record.

* `Datamodel.read` : the data model of a document.
-/

set_option autoImplicit false

namespace ModelBindings

namespace Value

/-- A list member of an entry; an absent one is empty. -/
def listMember (node : Value) (key place : Text) : Except Fault (List Value) :=
  match node.memberD key .null with
  | .list items => .ok items
  | v => if v.isTruthy then .error (.schema (.notList place key v)) else .ok []

/-- The name of an entry. -/
def entryName (node : Value) (place : Text) : Except Fault Text :=
  match node.memberD "name" .null with
  | .text s => if s = "" then .error (.schema (.unnamed place)) else .ok s
  | v =>
    if v.isTruthy then .error (.schema (.nameNotText place v))
    else .error (.schema (.unnamed place))

/-- The items that a value stands for: those of a list, the characters of a text, the member names
of an object; an absent value has none. -/
def iterated (v : Value) : Except Fault (List Value) :=
  if v.isTruthy then
    match v with
    | .list items => .ok items
    | .text s => .ok (s.toList.map fun c => .text (.ofList [c]))
    | .object ms => .ok (ms.map fun m => .text m.1)
    | _ => .error (.value (.notIterable v))
  else .ok []

/-- A member read as a truth value. -/
def flag (node : Value) (key : Text) (missing : Bool) : Bool :=
  (node.memberD key (.bool missing)).isTruthy

end Value

/-- A default: an object with a name is a function, anything else a value. -/
def Default.read (v : Value) : Except Fault Default :=
  match v.member? "name" with
  | some name => do
    let args ← (v.memberD "args" .null).iterated
    return .function name args
  | none => .ok (.value v)

/-- An enum value; `enumName` names the enum in faults. -/
def EnumValue.read (enumName : Text) (node : Value) : Except Fault EnumValue := do
  let name ← node.entryName ("value of enum " ++ enumName)
  return { name, storageName := node.memberD "dbName" .null }

/-- An enum. -/
def Enum.read (node : Value) : Except Fault Enum := do
  let name ← node.entryName "enum"
  let nodes ← node.listMember "values" ("enum " ++ name)
  let values ← nodes.mapM (EnumValue.read name)
  return {
    name, values
    documentation := node.memberD "documentation" .null
    storageName := node.memberD "dbName" .null }

/-- The kind of a field, with the record that an unknown one leaves. -/
def FieldKind.read (modelName fieldName : Text) (v : Value) : FieldKind × List Record :=
  match FieldKind.ofValue? v with
  | some k => (k, [])
  | none =>
    (.unsupported,
      [⟨.debug, .reader, "Field " ++ modelName ++ "." ++ fieldName ++ " has unknown kind "
        ++ v.quoted ++ ", treating it as unsupported"⟩])

/-- The rest of a field behind its name and kind. -/
def Field.readRest (name : Text) (kind : FieldKind) (node : Value) : Except Fault Field := do
  let default ← Default.read (node.memberD "default" .null)
  let relationFrom ← (node.memberD "relationFromFields" .null).iterated
  let relationTo ← (node.memberD "relationToFields" .null).iterated
  return {
    name, kind, default, relationFrom, relationTo
    type := node.memberD "type" (.text "")
    isList := node.flag "isList" false
    isRequired := node.flag "isRequired" true
    isId := node.flag "isId" false
    isUnique := node.flag "isUnique" false
    isUpdatedAt := node.flag "isUpdatedAt" false
    hasDefault := node.flag "hasDefaultValue" false
    documentation := node.memberD "documentation" .null
    storageName := node.memberD "dbName" .null
    relationName := node.memberD "relationName" .null }

/-- A field of the model named. -/
def Field.read (modelName : Text) (node : Value) : Traced Field :=
  match node.entryName ("field of model " ++ modelName) with
  | .error e => .fail e
  | .ok name =>
    let (kind, log) := FieldKind.read modelName name (node.memberD "kind" (.text "scalar"))
    ⟨log, Field.readRest name kind node⟩

/-- A model. -/
def Model.read (node : Value) : Traced Model :=
  (Traced.ofExcept (node.entryName "model")).bind fun name =>
  (Traced.ofExcept (node.listMember "fields" ("model " ++ name))).bind fun nodes =>
  (Traced.collect (Field.read name) nodes).bind fun fields =>
  .ok {
    name, fields
    documentation := node.memberD "documentation" .null
    storageName := node.memberD "dbName" .null }

namespace Datamodel

/-- The object that holds the lists of a document. -/
def root (data : Value) : Except Fault Value :=
  match data with
  | .object ms =>
    match (Association.get? ("datamodel" : Text) ms).getD data with
    | .object inner =>
      if (Association.get? ("models" : Text) inner).isSome ||
        (Association.get? ("enums" : Text) inner).isSome then
        .ok (.object inner)
      else .error (.schema .noDatamodel)
    | _ => .error (.schema .noDatamodel)
  | v => .error (.schema (.notObject v))

/-- The data model of a document. -/
def read (data : Value) : Traced Datamodel :=
  (Traced.ofExcept (root data)).bind fun node =>
  (Traced.ofExcept (node.listMember "enums" "datamodel")).bind fun enumNodes =>
  (Traced.ofExcept (enumNodes.mapM Enum.read)).bind fun enums =>
  (Traced.ofExcept (node.listMember "models" "datamodel")).bind fun modelNodes =>
  (Traced.collect Model.read modelNodes).bind fun models =>
  .ok { enums, models }

end Datamodel

end ModelBindings
