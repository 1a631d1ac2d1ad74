import ModelBindings.Source.Imports
import ModelBindings.Source.ScalarType

/-!
# What fields use

Each field asks of its module some imports, perhaps an enum and perhaps a related model. The needs
of a module gather what its fields use; they only ever grow, and name each enum and model once, in
the order of first use.

* `Usage` : what one field uses.
* `Needs.absorb` : the needs of a module after one more field.
-/

set_option autoImplicit false

namespace ModelBindings.Source

/-- What one field uses. -/
structure Usage where
  datetime : Bool
  decimal : Bool
  any : Bool
  fieldCall : Bool
  /-- The known enum that is its type. -/
  enumName : Option Text
  /-- The related model that is its type. -/
  relation : Option Value
  deriving Repr

namespace Usage

/-- Nothing. -/
def nothing : Usage :=
  { datetime := false, decimal := false, any := false, fieldCall := false
    enumName := none, relation := none }

/-- What a scalar uses; an unknown one stands for any value. -/
def ofScalar : Option ScalarType → Usage
  | some .dateTime => { nothing with datetime := true }
  | some .decimal => { nothing with decimal := true }
  | some .json => { nothing with any := true }
  | some _ => nothing
  | none => { nothing with any := true }

end Usage

/-- What the fields of a module use together. -/
structure Needs where
  imports : Imports
  enums : List Text
  relations : List Value
  deriving Repr

namespace Needs

/-- The needs of a module without fields. -/
def initial : Needs :=
  { imports := .initial, enums := [], relations := [] }

/-- Imports with those of one more field. -/
def absorbImports (i : Imports) (u : Usage) : Imports :=
  { i with
    datetime := i.datetime || u.datetime
    decimal := i.decimal || u.decimal
    typing := if u.any then NameSet.insert "Any" i.typing else i.typing
    pydantic := if u.fieldCall then NameSet.insert "Field" i.pydantic else i.pydantic }

/-- Enum names with that of one more field. -/
def absorbEnum (names : List Text) : Option Text → List Text
  | none => names
  | some n => if names.contains n then names else names ++ [n]

/-- Related models with that of one more field. -/
def absorbRelation (models : List Value) : Option Value → List Value
  | none => models
  | some v => if models.any v.same then models else models ++ [v]

/-- The needs with those of one more field. -/
def absorb (n : Needs) (u : Usage) : Needs :=
  { imports := absorbImports n.imports u
    enums := absorbEnum n.enums u.enumName
    relations := absorbRelation n.relations u.relation }

end Needs

end ModelBindings.Source
