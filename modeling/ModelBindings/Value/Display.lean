import ModelBindings.Value
import ModelBindings.Decimal.Shortest
import ModelBindings.Text.Lines
import ModelBindings.Text.Quoted

/-!
# Display of values

The text of a value inside a message or a line of output. A text stands for itself, and within
another value between quotes.

* `Value.doubleFormat` : doubles are written without exponent part from `1e-4` to below `1e16`.
* `Value.quoted` : the display within another value.
* `Value.display` : the display on its own.
-/

set_option autoImplicit false

namespace ModelBindings.Value

/-- The layout of doubles. -/
def doubleFormat : DecimalFormat :=
  { positionalFrom := -4, positionalTo := 15, exponentWidth := 2
    undefinedText := "nan", infiniteText := "inf" }

/-- The display of a value that holds no others. -/
def quotedScalar : Value → Text
  | .null => "None"
  | .bool b => if b then "True" else "False"
  | .int n => Text.ofList (Text.integer n)
  | .double x => Text.ofList (doubleFormat.text x)
  | .text s => Text.ofList (Text.quoted s.toList)
  | _ => ""

mutual

/-- The display of a value within another. -/
def quoted : Value → Text
  | .list items => "[" ++ Text.join ", " (quotedItems items) ++ "]"
  | .object members => "\x7b" ++ Text.join ", " (quotedMembers members) ++ "\x7d"
  | v => quotedScalar v

/-- The displays of the items of a list. -/
def quotedItems : List Value → List Text
  | [] => []
  | v :: r => quoted v :: quotedItems r

/-- The displays of the members of an object. -/
def quotedMembers : List (Text × Value) → List Text
  | [] => []
  | (k, v) :: r => (Text.ofList (Text.quoted k.toList) ++ ": " ++ quoted v) :: quotedMembers r

end

/-- The display of a value on its own. -/
def display : Value → Text
  | .text s => s
  | v => v.quoted

end ModelBindings.Value
