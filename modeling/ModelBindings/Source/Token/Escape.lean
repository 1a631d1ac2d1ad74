import ModelBindings.Text.CharacterName

/-!
# Escapes in text literals

A backslash in a literal starts an escape: a character by its code in hexadecimal digits or by its
name, or a single character that stands for itself or another one. Only the escapes by code and by
name can be wrong.

* `EscapeState` : how much of an escape has been read.
* `EscapeState.next?` : one more character of a literal.
-/

set_option autoImplicit false

namespace ModelBindings.Source

/-- How much of an escape has been read. -/
inductive EscapeState where
  | outside
  /-- A backslash. -/
  | backslash
  /-- A code, with the number of digits still to come and the value so far. -/
  | code (left value : Nat)
  /-- The letter that a name follows. -/
  | nameMark
  /-- A name, its last character first. -/
  | name (reversed : List CodePoint)
  deriving Repr, DecidableEq

namespace EscapeState

/-- The character behind a backslash. Bytes have codes of two digits and no names. -/
def afterBackslash (bytes : Bool) (c : CodePoint) : EscapeState :=
  if c = 'x' then .code 2 0
  else if bytes then .outside
  else if c = 'u' then .code 4 0
  else if c = 'U' then .code 8 0
  else if c = 'N' then .nameMark
  else .outside

/-- One more digit of a code; there is no character behind the last code of Unicode. -/
def digit? (left value : Nat) (c : CodePoint) : Option EscapeState :=
  match Text.hexValue? c with
  | some d =>
    let value := 16 * value + d
    if 1 < left then some (.code (left - 1) value)
    else if value < 0x110000 then some .outside
    else none
  | none => none

/-- One more character of a literal. -/
def next? (bytes : Bool) (e : EscapeState) (c : CodePoint) : Option EscapeState :=
  match e with
  | .outside => some (if c = '\\' then .backslash else .outside)
  | .backslash => some (afterBackslash bytes c)
  | .code left value => digit? left value c
  | .nameMark => if c = '\x7b' then some (.name []) else none
  | .name reversed =>
    if c = '\x7d' then
      if Text.isCharacterName reversed.reverse then some .outside else none
    else some (.name (c :: reversed))

end EscapeState

/-- The escapes of a literal are all right. -/
def hasValidEscapes (bytes : Bool) (content : List CodePoint) : Bool :=
  content.foldlM (EscapeState.next? bytes) .outside = some .outside

end ModelBindings.Source
