import ModelBindings.Datamodel.Reader
import ModelBindings.Text.Blank

/-!
# Literals of the generated source

* `escape` : a text within double quotes; backslash, quote, line feed and carriage return are
  escaped, so that the literal stays on its line.
* `docstring` : a text within triple quotes; it stays on one line if it has no more, else the
  quotes stand on lines of their own.
* `ofDefault` : the literal of a default; functions, lists and objects have none.
-/

set_option autoImplicit false

namespace ModelBindings.Source

/-! ## Within double quotes -/

/-- A character within double quotes. -/
def escapeChar (c : CodePoint) : List CodePoint :=
  if c = '\\' then ['\\', '\\']
  else if c = '"' then ['\\', '"']
  else if c = '\n' then ['\\', 'n']
  else if c = '\r' then ['\\', 'r']
  else [c]

/-- The characters of a text within double quotes. -/
def escapeChars (cs : List CodePoint) : List CodePoint :=
  cs.flatMap escapeChar

/-- A text within double quotes. -/
def escape (s : Text) : Text :=
  Text.ofList (escapeChars s.toList)

/-! ## Within triple quotes -/

/-- Backslashes doubled, and three quotes in a row escaped one by one. -/
def escapeTriple : List CodePoint → List CodePoint
  | [] => []
  | .char '"' :: .char '"' :: .char '"' :: r =>
      '\\' :: '"' :: '\\' :: '"' :: '\\' :: '"' :: escapeTriple r
  | c :: r => if c = '\\' then '\\' :: '\\' :: escapeTriple r else c :: escapeTriple r

/-- A line whose last quote is escaped, so that it keeps apart from closing quotes. -/
def guardEnd : List CodePoint → List CodePoint
  | [] => []
  | [.char '"'] => ['\\', '"']
  | c :: r => c :: guardEnd r

/-- Three double quotes. -/
def tripleQuote : List CodePoint :=
  ['"', '"', '"']

/-- A line of a docstring: indented, or empty when blank. -/
def docLine (indent line : List CodePoint) : List CodePoint :=
  if Text.isBlankText line then [] else indent ++ line

/-- The lines of a docstring. -/
def docLines (indent body : List CodePoint) : List (List CodePoint) :=
  match Text.lines body with
  | [] => [indent ++ tripleQuote ++ tripleQuote]
  | [line] => [indent ++ tripleQuote ++ guardEnd line ++ tripleQuote]
  | ls => [indent ++ tripleQuote] ++ ls.map (docLine indent) ++ [indent ++ tripleQuote]

/-- A text within triple quotes. -/
def docstring (indent text : Text) : Text :=
  Text.join "\n" ((docLines indent.toList (escapeTriple text.toList)).map Text.ofList)

/-- The indentation of a class body. -/
def bodyIndent : Text := "    "

/-! ## Documentation and defaults -/

/-- The text of a documentation, if there is one. -/
def documentationText (v : Value) : Except Fault (Option Text) :=
  match v with
  | .text s => .ok (if s = "" then none else some s)
  | v => if v.isTruthy then .error (.value (.lacks v "replace")) else .ok none

/-- The docstring of a class, if it is documented. -/
def classDocstring (v : Value) : Except Fault (Option Text) :=
  match documentationText v with
  | .error e => .error e
  | .ok none => .ok none
  | .ok (some s) => .ok (some (docstring bodyIndent s))

/-- The literal of an integer. -/
def integerLiteral (n : Int) : Except Fault Text :=
  if Json.digitLimit < (Text.digits n.natAbs).length then .error (.value .tooManyDigits)
  else .ok (Text.ofList (Text.integer n))

/-- The literal of a default, if it has one. -/
def ofDefault : Default → Except Fault (Option Text)
  | .function _ _ => .ok none
  | .value (.bool b) => .ok (some (if b then "True" else "False"))
  | .value (.text s) => .ok (some ("\"" ++ escape s ++ "\""))
  | .value (.int n) => (integerLiteral n).map some
  | .value (.double x) => .ok (some (Text.ofList (Value.doubleFormat.text x)))
  | .value _ => .ok none

end ModelBindings.Source
