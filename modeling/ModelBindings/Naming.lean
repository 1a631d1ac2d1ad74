import ModelBindings.Text
import ModelBindings.Text.Lowercase

/-!
# Names

Names of the document in snake case, and the words that a generated name has to keep clear of.

* `snakeCase` : an underscore before each ASCII capital that follows an ASCII letter or digit, then
  lowercase.
* `isKeyword` : the reserved words of the generated language.
* `reservedNames` : names that the body of a generated class refers to.
-/

set_option autoImplicit false

namespace ModelBindings

/-- An underscore before each ASCII capital that follows an ASCII letter or digit; `inWord` says
whether one precedes the text. -/
def markWords (inWord : Bool) : List CodePoint → List CodePoint
  | [] => []
  | c :: r =>
    if inWord && c.isUpper then '_' :: c :: markWords true r
    else c :: markWords c.isAlphanum r

/-- A text in snake case, character by character. -/
def snakeChars (cs : List CodePoint) : List CodePoint :=
  Text.lower (markWords false cs)

/-- A name in snake case. -/
def snakeCase (name : Text) : Text :=
  Text.ofList (snakeChars name.toList)

/-- The reserved words of the generated language. -/
def keywords : List Text :=
  (["False", "None", "True", "and", "as", "assert", "async", "await", "break", "class",
   "continue", "def", "del", "elif", "else", "except", "finally", "for", "from", "global", "if",
   "import", "in", "is", "lambda", "nonlocal", "not", "or", "pass", "raise", "return", "try",
   "while", "with", "yield"] : List String).map .ofString

/-- The name is a reserved word. -/
def isKeyword (name : Text) : Bool :=
  keywords.contains name

/-- Names of a model's module that a field must not hide from its class body. -/
def reservedNames : List Text :=
  ["datetime", "Decimal", "Any", "BaseModel", "ConfigDict", "Field", "model_config"]

end ModelBindings
