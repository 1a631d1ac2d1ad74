import ModelBindings.Fault

/-!
# Scalar types

The scalar types of the schema language and the types of the generated source that stand for them.
A scalar of another name stands for any value.

* `ScalarType.ofValue?` : the scalar that a value names.
* `ScalarType.target` : its type in the generated source.
-/

set_option autoImplicit false

namespace ModelBindings.Source

/-- The scalars of the schema language. -/
inductive ScalarType where
  | string
  | boolean
  | int
  | bigInt
  | float
  | decimal
  | dateTime
  | json
  | bytes
  deriving Repr, DecidableEq

namespace ScalarType

/-- The name of a scalar in a document. -/
def name : ScalarType → Text
  | .string => "String"
  | .boolean => "Boolean"
  | .int => "Int"
  | .bigInt => "BigInt"
  | .float => "Float"
  | .decimal => "Decimal"
  | .dateTime => "DateTime"
  | .json => "Json"
  | .bytes => "Bytes"

/-- The type that stands for a scalar. -/
def target : ScalarType → Text
  | .string => "str"
  | .boolean => "bool"
  | .int => "int"
  | .bigInt => "int"
  | .float => "float"
  | .decimal => "Decimal"
  | .dateTime => "datetime"
  | .json => "Any"
  | .bytes => "bytes"

/-- All scalars. -/
def all : List ScalarType :=
  [.string, .boolean, .int, .bigInt, .float, .decimal, .dateTime, .json, .bytes]

/-- The scalar that a value names. Lists and objects cannot be looked up. -/
def ofValue? (v : Value) : Except Fault (Option ScalarType) :=
  if v.isHashable then .ok (all.find? fun s => v.isText s.name)
  else .error (.value (.unhashable v))

/-- The type of a scalar, or of any value. -/
def targetOf : Option ScalarType → Text
  | some s => s.target
  | none => "Any"

end ScalarType

end ModelBindings.Source
