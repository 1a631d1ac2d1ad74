import ModelBindings.Text.Printable

/-!
# Quoted texts

The display of a text between quotes: single quotes, or double quotes when the text holds a single
quote and no double one. The backslash and the quote are escaped, tab, line feed and carriage
return are named, and every other character that is not printable is given by its number in two,
four or eight hexadecimal digits.
-/

set_option autoImplicit false

namespace ModelBindings.Text

/-- The lowercase hexadecimal digit of a number below sixteen. -/
def hexDigit (n : Nat) : CodePoint :=
  if n < 10 then CodePoint.ofNat (48 + n) else CodePoint.ofNat (87 + n)

/-- The last `width` hexadecimal digits of a number. -/
def hexDigits : Nat → Nat → List CodePoint
  | 0, _ => []
  | width + 1, n => hexDigits width (n / 16) ++ [hexDigit (n % 16)]

/-- A character by its number. -/
def numbered (c : CodePoint) : List CodePoint :=
  if c.toNat < 0x100 then '\\' :: 'x' :: hexDigits 2 c.toNat
  else if c.toNat < 0x10000 then '\\' :: 'u' :: hexDigits 4 c.toNat
  else '\\' :: 'U' :: hexDigits 8 c.toNat

/-- The quote put around a text. -/
def quoteFor (cs : List CodePoint) : CodePoint :=
  if cs.contains '\x27' && !cs.contains '"' then '"' else '\x27'

/-- One character between quotes. -/
def quotedChar (quote c : CodePoint) : List CodePoint :=
  if c = '\\' ∨ c = quote then ['\\', c]
  else if c = '\t' then ['\\', 't']
  else if c = '\n' then ['\\', 'n']
  else if c = '\r' then ['\\', 'r']
  else if isPrintable c then [c]
  else numbered c

/-- The display of a text between quotes. -/
def quoted (cs : List CodePoint) : List CodePoint :=
  let quote := quoteFor cs
  quote :: cs.flatMap (quotedChar quote) ++ [quote]

end ModelBindings.Text
