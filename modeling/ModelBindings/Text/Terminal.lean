import ModelBindings.Text.Digits

/-!
# Texts for a terminal

A text that is shown keeps nothing that would steer a terminal: a control sequence is an escape
character, an opening square bracket, digits and the marks `;` and `?`, and a letter. What only
starts like one stays.

* `withoutControls` : a text without its control sequences.
* `withLineFeeds` : a text with the line ends of two characters written as one.
-/

set_option autoImplicit false

namespace ModelBindings.Text

/-- The character that a control sequence starts with. -/
def escapeCharacter : CodePoint := '\x1b'

/-- A character between the bracket and the letter of a control sequence. -/
def isControlParameter (c : CodePoint) : Bool :=
  isDigit c || c == ';' || c == '?'

/-- How much of a control sequence has been read. -/
inductive ControlPart where
  | nothing
  | escape
  | parameters
  deriving Repr, DecidableEq

/-- The part of a control sequence after one more character, if it goes on. -/
def ControlPart.next? (p : ControlPart) (c : CodePoint) : Option ControlPart :=
  match p with
  | .nothing => none
  | .escape => if c = '[' then some .parameters else none
  | .parameters => if isControlParameter c then some .parameters else none

/-- The character completes a control sequence. -/
def ControlPart.isLast (p : ControlPart) (c : CodePoint) : Bool :=
  p = .parameters && c.isAlpha

/-- A text without its control sequences, behind a part of one whose characters are held in
reverse. -/
def withoutControlsFrom (p : ControlPart) (held : List CodePoint) : List CodePoint → List CodePoint
  | [] => held.reverse
  | c :: r =>
    if p.isLast c then withoutControlsFrom .nothing [] r
    else
      match p.next? c with
      | some q => withoutControlsFrom q (c :: held) r
      | none =>
        held.reverse ++
          if c = escapeCharacter then withoutControlsFrom .escape [c] r
          else c :: withoutControlsFrom .nothing [] r

/-- A text without its control sequences. -/
def withoutControls (cs : List CodePoint) : List CodePoint :=
  withoutControlsFrom .nothing [] cs

/-- A text with every line end of a carriage return and a line feed written as a line feed. -/
def withLineFeeds : List CodePoint → List CodePoint
  | .char '\r' :: .char '\n' :: r => '\n' :: withLineFeeds r
  | c :: r => c :: withLineFeeds r
  | [] => []

end ModelBindings.Text
