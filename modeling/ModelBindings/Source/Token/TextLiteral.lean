import ModelBindings.Source.Token.Formatted

/-!
# Text literals

The letters before the quote of a literal say whether it is raw, whether it is of bytes, and whether
it is formatted.

* `TextKind` : what the letters say.
* `TextKind.fields?` : the expressions in a literal, if its content is all right.
-/

set_option autoImplicit false

namespace ModelBindings.Source

/-- What the letters before a quote say of a text literal. -/
structure TextKind where
  raw : Bool
  bytes : Bool
  formatted : Bool
  deriving Repr, DecidableEq

namespace TextKind

/-- A literal without letters before its quote. -/
def plain : TextKind :=
  { raw := false, bytes := false, formatted := false }

/-- The kind that letters before a quote name, in either case. -/
def ofLetters? (cs : List CodePoint) : Option TextKind :=
  match cs.map CodePoint.toLower with
  | [.char 'u'] => some plain
  | [.char 'r'] => some { plain with raw := true }
  | [.char 'b'] => some { plain with bytes := true }
  | [.char 'f'] => some { plain with formatted := true }
  | [.char 'b', .char 'r'] | [.char 'r', .char 'b'] =>
      some { plain with raw := true, bytes := true }
  | [.char 'f', .char 'r'] | [.char 'r', .char 'f'] =>
      some { plain with raw := true, formatted := true }
  | _ => none

/-- The content may stand in an unformatted literal: bytes are ASCII, and escapes are all right
where they count. -/
def accepts (k : TextKind) (content : List CodePoint) : Bool :=
  !(k.bytes && content.any fun c => decide (128 ≤ c.toNat))
    && (k.raw || hasValidEscapes k.bytes content)

/-- The expressions in a literal, if its content is all right. -/
def fields? (k : TextKind) (content : List CodePoint) : Option (List (List CodePoint)) :=
  if k.formatted then Formatted.fields? k.raw content
  else if k.accepts content then some []
  else none

end TextKind

end ModelBindings.Source
