import ModelBindings.Value

/-!
# Data models

A data model holds enums and models in the order of their declaration. Names are texts; what the
document says about types, documentation and storage is kept as it stands.
-/

set_option autoImplicit false

namespace ModelBindings

/-- What a field holds. -/
inductive FieldKind where
  /-- A scalar of the schema language. -/
  | scalar
  /-- A value of an enum. -/
  | enum
  /-- A related model. -/
  | object
  /-- A type of the database that has no counterpart. -/
  | unsupported
  deriving Repr, DecidableEq

namespace FieldKind

/-- The name of a kind in a document. -/
def name : FieldKind → Text
  | .scalar => "scalar"
  | .enum => "enum"
  | .object => "object"
  | .unsupported => "unsupported"

/-- All kinds. -/
def all : List FieldKind :=
  [.scalar, .enum, .object, .unsupported]

/-- The kind that a value names. -/
def ofValue? (v : Value) : Option FieldKind :=
  all.find? fun k => v.isText k.name

end FieldKind

/-- The default of a field: a value, or a function that the database or the client calls. -/
inductive Default where
  | value (v : Value)
  | function (name : Value) (args : List Value)
  deriving Repr

/-- There is a default. -/
def Default.isGiven : Default → Bool
  | .value .null => false
  | _ => true

/-- A value of an enum. -/
structure EnumValue where
  name : Text
  storageName : Value
  deriving Repr

/-- An enum. -/
structure Enum where
  name : Text
  values : List EnumValue
  documentation : Value
  storageName : Value
  deriving Repr

/-- A field of a model. Its type names a scalar, an enum or a model, as its kind says. -/
structure Field where
  name : Text
  kind : FieldKind
  type : Value
  isList : Bool
  isRequired : Bool
  isId : Bool
  isUnique : Bool
  isUpdatedAt : Bool
  hasDefault : Bool
  default : Default
  documentation : Value
  storageName : Value
  relationName : Value
  relationFrom : List Value
  relationTo : List Value
  deriving Repr

/-- A model. -/
structure Model where
  name : Text
  fields : List Field
  documentation : Value
  storageName : Value
  deriving Repr

/-- A data model. -/
structure Datamodel where
  enums : List Enum
  models : List Model
  deriving Repr

/-- The names of the enums. -/
def Datamodel.enumNames (d : Datamodel) : List Text :=
  d.enums.map (·.name)

end ModelBindings
