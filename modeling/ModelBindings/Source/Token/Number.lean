import ModelBindings.Json.Reader

/-!
# Number literals

A number is read one character at a time. Digits may be grouped by single underscores; a number
may have a base (`0x`, `0o`, `0b`), a fraction, an exponent and the mark of an imaginary number. A
decimal number with a zero in front is only complete with a fraction, exponent or mark, and so is
one of more than 4300 digits.

* `NumberPart`, `NumberState` : how far a number has been read.
* `NumberState.next?` : a number with one more character.
* `NumberState.isComplete` : the number may end here.
-/

set_option autoImplicit false

namespace ModelBindings.Source

/-- The bases other than ten. -/
inductive Radix where
  | hexadecimal
  | octal
  | binary
  deriving Repr, DecidableEq

namespace Radix

/-- The number of digits of a base. -/
def size : Radix → Nat
  | .hexadecimal => 16
  | .octal => 8
  | .binary => 2

/-- The base of a mark behind a zero. -/
def ofMark? (c : CodePoint) : Option Radix :=
  if c = 'x' ∨ c = 'X' then some .hexadecimal
  else if c = 'o' ∨ c = 'O' then some .octal
  else if c = 'b' ∨ c = 'B' then some .binary
  else none

/-- A digit of a base. -/
def isDigit (r : Radix) (c : CodePoint) : Bool :=
  match Text.hexValue? c with
  | some n => decide (n < r.size)
  | none => false

end Radix

/-- What a run of digits belongs to. -/
inductive NumberPart where
  /-- Zeros in front. -/
  | zeros
  /-- A whole part with zeros in front. -/
  | padded
  /-- A whole part without zeros in front, with the number of its digits. -/
  | whole (digits : Nat)
  | fraction
  | exponent
  | radix (r : Radix)
  deriving Repr, DecidableEq

namespace NumberPart

/-- A number that starts with a digit other than zero. -/
def start : NumberPart := .whole 1

/-- The part after one more digit. -/
def next? (p : NumberPart) (c : CodePoint) : Option NumberPart :=
  match p with
  | .radix r => if r.isDigit c then some (.radix r) else none
  | .zeros => if c = '0' then some .zeros else if Text.isDigit c then some .padded else none
  | .whole digits => if Text.isDigit c then some (.whole (digits + 1)) else none
  | p => if Text.isDigit c then some p else none

/-- A point may follow. -/
def takesPoint : NumberPart → Bool
  | .zeros | .padded | .whole _ => true
  | _ => false

/-- An exponent may follow. -/
def takesExponent : NumberPart → Bool
  | .zeros | .padded | .whole _ | .fraction => true
  | _ => false

/-- The part is complete without a fraction, exponent or mark. -/
def standsAlone : NumberPart → Bool
  | .padded => false
  | .whole digits => decide (digits ≤ Json.digitLimit)
  | _ => true

/-- The mark of an imaginary number may follow. -/
def takesImaginary : NumberPart → Bool
  | .radix _ => false
  | _ => true

end NumberPart

/-- How far a number has been read. -/
inductive NumberState where
  /-- A single zero. -/
  | zero
  /-- A run of digits; behind an underscore one has to follow. -/
  | digits (p : NumberPart) (gap : Bool)
  /-- Behind the point, without a digit yet. -/
  | point
  /-- Behind the mark of an exponent. -/
  | mark (letter : CodePoint)
  /-- Behind the sign of an exponent. -/
  | sign
  /-- Behind the mark of a base. -/
  | radixMark (r : Radix)
  | imaginary
  deriving Repr, DecidableEq

namespace NumberState

/-- The mark of an exponent. -/
def isExponentMark (c : CodePoint) : Bool :=
  c == 'e' || c == 'E'

/-- The mark of an imaginary number. -/
def isImaginaryMark (c : CodePoint) : Bool :=
  c == 'j' || c == 'J'

/-- What may follow a run of digits apart from a further digit. -/
def afterDigits? (p : NumberPart) (c : CodePoint) : Option NumberState :=
  if c = '_' then some (.digits p true)
  else if c = '.' && p.takesPoint then some .point
  else if isExponentMark c && p.takesExponent then some (.mark c)
  else if isImaginaryMark c && p.takesImaginary then some .imaginary
  else none

/-- A number with one more character, where it goes on. -/
def next? (s : NumberState) (c : CodePoint) : Option NumberState :=
  match s with
  | .zero =>
    match Radix.ofMark? c with
    | some r => some (.radixMark r)
    | none =>
      match NumberPart.zeros.next? c with
      | some p => some (.digits p false)
      | none => afterDigits? .zeros c
  | .digits p gap =>
    match p.next? c with
    | some q => some (.digits q false)
    | none => if gap then none else afterDigits? p c
  | .point =>
    if Text.isDigit c then some (.digits .fraction false)
    else if isExponentMark c then some (.mark c)
    else if isImaginaryMark c then some .imaginary
    else none
  | .mark _ =>
    if Text.isDigit c then some (.digits .exponent false)
    else if c = '+' ∨ c = '-' then some .sign
    else none
  | .sign => if Text.isDigit c then some (.digits .exponent false) else none
  | .radixMark r =>
    if r.isDigit c then some (.digits (.radix r) false)
    else if c = '_' then some (.digits (.radix r) true)
    else none
  | .imaginary => none

/-- The number may end here. -/
def isComplete : NumberState → Bool
  | .zero => true
  | .digits p gap => !gap && p.standsAlone
  | .point => true
  | .imaginary => true
  | _ => false

/-- The number is imaginary. -/
def isImaginary : NumberState → Bool
  | .imaginary => true
  | _ => false

end NumberState

end ModelBindings.Source
