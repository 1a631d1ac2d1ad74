import ModelBindings.Source.Token
import ModelBindings.Source.Token.Escape

/-!
# Formatted texts

A formatted text holds fields in curly brackets. A field is an expression, which may be followed by
an equals sign, by a conversion behind an exclamation mark, and by a format behind a colon; a format
holds fields itself. Outside of formats a doubled bracket stands for the bracket.

* `Formatted.State`, `Formatted.step?` : what is being read, one character at a time.
* `Formatted.fields?` : the expressions of a text, those in formats among them.
-/

set_option autoImplicit false

namespace ModelBindings.Source.Formatted

/-- What the last characters of an expression may be part of. -/
inductive Pending where
  | nothing
  /-- A sign that is alone or the first of an operator. -/
  | sign (c : CodePoint)
  /-- One quote or two, which open a text or are an empty one. -/
  | opening (q : CodePoint) (two : Bool)
  /-- A text, behind this many of its quotes in a row. -/
  | inside (q : CodePoint) (triple : Bool) (quotes : Nat)
  deriving Repr, DecidableEq

/-- The part of an expression that was read, its last character first. -/
structure Part where
  reversed : List CodePoint
  brackets : List Bracket
  pending : Pending
  deriving Repr, DecidableEq

/-- Nothing of an expression. -/
def Part.start : Part := ⟨[], [], .nothing⟩

/-- The part with one more character. -/
def Part.add (x : Part) (c : CodePoint) (p : Pending) : Part :=
  { x with reversed := c :: x.reversed, pending := p }

/-- What is being read. -/
inductive Mode where
  | literal (e : EscapeState)
  /-- A curly bracket, which may be doubled. -/
  | brace (c : CodePoint)
  | expression (x : Part)
  /-- Behind an equals sign. -/
  | equals
  /-- Behind an exclamation mark. -/
  | conversion
  /-- Behind a conversion. -/
  | converted
  deriving Repr, DecidableEq

/-- What is being read, the number of formats around it, and the expressions so far, the last
first. -/
structure State where
  level : Nat
  mode : Mode
  fields : List (List CodePoint)
  deriving Repr, DecidableEq

namespace State

/-- The start of a text. -/
def start : State := ⟨0, .literal .outside, []⟩

/-- Go on in a mode. -/
def go (s : State) (m : Mode) : Option State :=
  some { s with mode := m }

/-- Go on in an expression. -/
def goOn (s : State) (x : Part) : Option State :=
  s.go (.expression x)

end State

/-- Fields may stand in formats of fields, but not in their formats. -/
def levelLimit : Nat := 2

/-- A field begins. -/
def openField (s : State) : Option State :=
  if s.level < levelLimit then s.goOn .start else none

/-- A field ends. -/
def closeField (s : State) : Option State :=
  s.go (.literal .outside)

/-- The format of a field begins. -/
def openFormat (s : State) : Option State :=
  some { s with level := s.level + 1, mode := .literal .outside }

/-- A format ends, and its field with it. -/
def closeFormat (s : State) : Option State :=
  some { s with level := s.level - 1, mode := .literal .outside }

/-! ## Literal parts -/

/-- A curly bracket. -/
def isBrace (c : CodePoint) : Bool :=
  c == '\x7b' || c == '\x7d'

/-- A curly bracket here belongs to no escape. -/
def takesBrace (e : EscapeState) : Bool :=
  e = .outside || e = .backslash

/-- A curly bracket in a literal part. -/
def onBrace (s : State) (c : CodePoint) : Option State :=
  if s.level = 0 then s.go (.brace c)
  else if c = '\x7b' then openField s
  else closeFormat s

/-- A character of a literal part. -/
def inLiteral (raw : Bool) (s : State) (e : EscapeState) (c : CodePoint) : Option State :=
  if isBrace c && takesBrace e then onBrace s c
  else if raw then s.go (.literal .outside)
  else
    match e.next? false c with
    | some e => s.go (.literal e)
    | none => none

/-! ## Expressions -/

/-- A quote. -/
def isQuote (c : CodePoint) : Bool :=
  c == '"' || c == '\x27'

/-- A blank of ASCII. -/
def isBlank (c : CodePoint) : Bool :=
  c == ' ' || decide (9 ≤ c.toNat ∧ c.toNat ≤ 13)

/-- A sign that may end an expression or be part of an operator. -/
def isSign (c : CodePoint) : Bool :=
  c == '!' || c == '=' || c == '<' || c == '>'

/-- An expression ends; it has to say something. -/
def endExpression (s : State) (x : Part) : Option State :=
  if x.reversed.all isBlank then none else some { s with fields := x.reversed.reverse :: s.fields }

/-- A character behind a field's expression or conversion. -/
def behindField (s : State) (c : CodePoint) : Option State :=
  if c = ':' then openFormat s else if c = '\x7d' then closeField s else none

/-- A character behind an exclamation mark. -/
def onConversion (s : State) (c : CodePoint) : Option State :=
  if c = 's' ∨ c = 'r' ∨ c = 'a' then s.go .converted else none

/-- A character behind an equals sign. -/
def onEquals (s : State) (c : CodePoint) : Option State :=
  if isBlank c then s.go .equals
  else if c = '!' then s.go .conversion
  else behindField s c

/-- A character of an expression outside of brackets. -/
def onTop (s : State) (x : Part) (c : CodePoint) : Option State :=
  if isSign c then s.goOn { x with pending := .sign c }
  else if c = ':' ∨ c = '\x7d' then (endExpression s x).bind fun s => behindField s c
  else s.goOn (x.add c .nothing)

/-- A closing bracket in an expression. -/
def onClosing (s : State) (x : Part) (b : Bracket) (c : CodePoint) : Option State :=
  match x.brackets with
  | [] => if c = '\x7d' then onTop s x c else none
  | a :: r => if a = b then s.goOn ({ x with brackets := r }.add c .nothing) else none

/-- A character of an expression outside of texts. -/
def onCode (s : State) (x : Part) (c : CodePoint) : Option State :=
  if c = '#' then none
  else if isQuote c then s.goOn (x.add c (.opening c false))
  else
    match Operator.ofChar? c with
    | some (.opening b) => s.goOn ({ x with brackets := b :: x.brackets }.add c .nothing)
    | some (.closing b) => onClosing s x b c
    | _ => if x.brackets.isEmpty then onTop s x c else s.goOn (x.add c .nothing)

/-- A character behind a sign outside of brackets. -/
def onSign (s : State) (x : Part) (sign c : CodePoint) : Option State :=
  if c = '=' then s.goOn ((x.add sign .nothing).add c .nothing)
  else if sign = '!' then (endExpression s x).bind fun s => onConversion s c
  else if sign = '=' then (endExpression s x).bind fun s => onEquals s c
  else onCode s (x.add sign .nothing) c

/-- A character in a text of an expression. -/
def inText (s : State) (x : Part) (q : CodePoint) (triple : Bool) (quotes : Nat) (c : CodePoint) :
    Option State :=
  if c = q then
    if triple && decide (quotes < 2) then s.goOn (x.add c (.inside q triple (quotes + 1)))
    else s.goOn (x.add c .nothing)
  else s.goOn (x.add c (.inside q triple 0))

/-- A character of an expression. There is no backslash in it. -/
def inExpression (s : State) (x : Part) (c : CodePoint) : Option State :=
  if c = '\\' then none
  else
    match x.pending with
    | .nothing => onCode s x c
    | .sign sign => onSign s { x with pending := .nothing } sign c
    | .opening q false =>
      if c = q then s.goOn (x.add c (.opening q true)) else inText s x q false 0 c
    | .opening q true =>
      if c = q then s.goOn (x.add c (.inside q true 0))
      else onCode s { x with pending := .nothing } c
    | .inside q triple quotes => inText s x q triple quotes c

/-! ## Whole texts -/

/-- A character behind a bracket that may be doubled. -/
def behindBrace (s : State) (brace c : CodePoint) : Option State :=
  if c = brace then s.go (.literal .outside)
  else if brace = '\x7b' then (openField s).bind fun s => inExpression s .start c
  else none

/-- Read one character. -/
def step? (raw : Bool) (s : State) (c : CodePoint) : Option State :=
  match s.mode with
  | .literal e => inLiteral raw s e c
  | .brace brace => behindBrace s brace c
  | .expression x => inExpression s x c
  | .equals => onEquals s c
  | .conversion => onConversion s c
  | .converted => behindField s c

/-- The expressions at the end of a text, which has to end outside of fields and escapes. -/
def State.finish? (s : State) : Option (List (List CodePoint)) :=
  if s.level = 0 ∧ s.mode = .literal .outside then some s.fields.reverse else none

/-- The expressions of a formatted text. -/
def fields? (raw : Bool) (content : List CodePoint) : Option (List (List CodePoint)) :=
  (content.foldlM (step? raw) .start).bind State.finish?

end ModelBindings.Source.Formatted
