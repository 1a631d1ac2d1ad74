import ModelBindings.Value.Display

/-!
# Writing JSON

Values as JSON texts of ASCII characters: a blank follows each comma and colon, and every other
character is written by its UTF-16 units.

* `Json.write` : the text of a value.
-/

set_option autoImplicit false

namespace ModelBindings.Json

/-- A `\u` escape of one unit. -/
def unitEscape (n : Nat) : List CodePoint :=
  '\\' :: 'u' :: Text.hexDigits 4 n

/-- A character within a text. -/
def writtenChar (c : CodePoint) : List CodePoint :=
  if c = '"' then ['\\', '"']
  else if c = '\\' then ['\\', '\\']
  else if c = '\n' then ['\\', 'n']
  else if c = '\r' then ['\\', 'r']
  else if c = '\t' then ['\\', 't']
  else if c = '\x0c' then ['\\', 'f']
  else if c = '\x08' then ['\\', 'b']
  else if ' ' ≤ c ∧ c ≤ '~' then [c]
  else if c.toNat < 0x10000 then unitEscape c.toNat
  else
    let n := c.toNat - 0x10000
    unitEscape (0xd800 + n / 0x400) ++ unitEscape (0xdc00 + n % 0x400)

/-- A text between quotes. -/
def writeText (s : Text) : Text :=
  Text.ofList (.char '"' :: s.toList.flatMap writtenChar ++ [.char '"'])

/-- The layout of doubles, with the words for those that are no numbers. -/
def doubleFormat : DecimalFormat :=
  { Value.doubleFormat with undefinedText := "NaN", infiniteText := "Infinity" }

/-- A value that holds no others. -/
def writeScalar : Value → Text
  | .null => "null"
  | .bool b => if b then "true" else "false"
  | .int n => Text.ofList (Text.integer n)
  | .double x => Text.ofList (doubleFormat.text x)
  | .text s => writeText s
  | _ => ""

mutual

/-- The text of a value. -/
def write : Value → Text
  | .list items => "[" ++ Text.join ", " (writeItems items) ++ "]"
  | .object members => "\x7b" ++ Text.join ", " (writeMembers members) ++ "\x7d"
  | v => writeScalar v

/-- The texts of the items of a list. -/
def writeItems : List Value → List Text
  | [] => []
  | v :: r => write v :: writeItems r

/-- The texts of the members of an object. -/
def writeMembers : List (Text × Value) → List Text
  | [] => []
  | (k, v) :: r => (writeText k ++ ": " ++ write v) :: writeMembers r

end

end ModelBindings.Json
