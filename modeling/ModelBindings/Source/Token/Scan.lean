import ModelBindings.Source.Token.Number
import ModelBindings.Source.Token.TextLiteral

/-!
# From text to tokens

A source text is read one character at a time, each step in one mode and with the open brackets and
indentations. A token is left when the character behind it is read, so what a text leaves depends on
nothing but the state before it.

* `Scan.Mode`, `Scan.State` : what is being read.
* `Scan.step` : one character; `Scan.run` : a text.
* `Token.scan` : the tokens of a whole text, as far as it can be read.
* `Scan.run_append` : texts are read one after another.
-/

set_option autoImplicit false

namespace ModelBindings.Source

namespace Scan

/-- What the last characters within a text literal were. -/
inductive Within where
  /-- This many quotes in a row. -/
  | quotes (n : Nat)
  /-- A backslash. -/
  | escape
  deriving Repr, DecidableEq

/-- The width of the indentation of a line: with tabs to every eighth column and with tabs as
single columns. `first` is where an earlier part of the line ended that was continued. -/
structure Margin where
  column : Nat
  plain : Nat
  first : Nat
  deriving Repr, DecidableEq

/-- No indentation. -/
def Margin.start : Margin := ⟨0, 0, 0⟩

/-- What is being read. -/
inductive Mode where
  /-- The indentation of a line. -/
  | margin (m : Margin)
  /-- The space between two tokens of a line. -/
  | between
  /-- A comment; on a line of its own or behind tokens. -/
  | comment (alone : Bool)
  /-- A word, its last letter first; right behind a number or not. -/
  | word (reversed : List CodePoint) (behindNumber : Bool)
  | number (s : NumberState)
  /-- One point, or two. -/
  | point (two : Bool)
  /-- An exclamation mark. -/
  | exclamation
  | operator (o : Operator)
  /-- The first quote of a text literal. -/
  | quote (k : TextKind) (q : CodePoint)
  /-- The first two quotes of a text literal. -/
  | secondQuote (k : TextKind) (q : CodePoint)
  /-- A text literal, the last character of its content first. -/
  | text (k : TextKind) (q : CodePoint) (triple : Bool) (w : Within) (reversed : List CodePoint)
  /-- A backslash; in the indentation of a line or between tokens. -/
  | backslash (m : Option Margin)
  /-- Behind a line end after a backslash. -/
  | continued (m : Option Margin)
  deriving Repr, DecidableEq

/-- What is being read, with the indentations and open brackets around it, innermost first. -/
structure State where
  mode : Mode
  indents : List (Nat × Nat)
  brackets : List Bracket
  deriving Repr, DecidableEq

/-- The start of a text. -/
def State.start : State :=
  { mode := .margin .start, indents := [], brackets := [] }

/-- What a step leaves: tokens, and the state to go on in, if it can be gone on. -/
structure Result where
  tokens : List Token
  state : Option State

/-- Nothing goes on here. -/
def Result.fault : Result := ⟨[], none⟩

/-- Tokens before those of a result. -/
def behind (ts : List Token) (r : Result) : Result :=
  { r with tokens := ts ++ r.tokens }

/-- Go on in a mode, leaving tokens. -/
def State.go (s : State) (m : Mode) (ts : List Token) : Result :=
  ⟨ts, some { s with mode := m }⟩

/-! ## Indentation -/

/-- Indentations may be nested less deep than this. -/
def indentLimit : Nat := 100

/-- Brackets may be nested this deep. -/
def bracketLimit : Nat := 200

/-- The indentations that a line at a column leaves behind. -/
def closeIndents (column : Nat) : List (Nat × Nat) → List (Nat × Nat) × List Token
  | [] => ([], [])
  | (c, p) :: r =>
    if column < c then
      let (rest, ts) := closeIndents column r
      (rest, .dedent :: ts)
    else ((c, p) :: r, [])

/-- The innermost indentation. -/
def innermost (indents : List (Nat × Nat)) : Nat × Nat :=
  indents.headD (0, 0)

/-- The tokens for the indentation of a line. Both widths have to agree on how it lies to the
lines before. -/
def indentation (indents : List (Nat × Nat)) (column plain : Nat) :
    Option (List (Nat × Nat) × List Token) :=
  if (innermost indents).1 < column then
    if (innermost indents).2 < plain ∧ indents.length + 1 < indentLimit then
      some ((column, plain) :: indents, [.indent])
    else none
  else
    let (rest, ts) := closeIndents column indents
    if innermost rest = (column, plain) then some (rest, ts) else none

/-- One more blank in the indentation of a line. -/
def Margin.blank? (m : Margin) (c : CodePoint) : Option Margin :=
  if c = ' ' then some ⟨m.column + 1, m.plain + 1, m.first⟩
  else if c = '\t' then some ⟨(m.column / 8 + 1) * 8, m.plain + 1, m.first⟩
  else if c = '\x0c' then some ⟨0, 0, m.first⟩
  else none

/-- A line may be continued within its indentation, which is then as wide as its first part. -/
def Margin.continue (m : Margin) : Margin :=
  if m.first = 0 then { m with first := m.column } else m

/-- The two widths of an indentation. -/
def Margin.widths (m : Margin) : Nat × Nat :=
  if m.first = 0 then (m.column, m.plain) else (m.first, m.first)

/-! ## Between tokens -/

/-- A character that may start a word. -/
def startsWord (c : CodePoint) : Bool :=
  c.isAlpha || c == '_' || decide (128 ≤ c.toNat)

/-- A character that may go on in a word. -/
def inWord (c : CodePoint) : Bool :=
  startsWord c || Text.isDigit c

/-- An operator at its first character. Brackets are opened and closed at once. -/
def startOperator (s : State) (o : Operator) : Result :=
  match o with
  | .opening b =>
    if s.brackets.length < bracketLimit then
      ⟨[.op o], some { s with mode := .between, brackets := b :: s.brackets }⟩
    else .fault
  | .closing b =>
    match s.brackets with
    | a :: r =>
      if a = b then ⟨[.op o], some { s with mode := .between, brackets := r }⟩ else .fault
    | [] => .fault
  | o => s.go (.operator o) []

/-- A line end: it ends the line outside of brackets. -/
def endLine (s : State) : Result :=
  if s.brackets.isEmpty then s.go (.margin .start) [.newline] else s.go .between []

/-- A character between two tokens. -/
def startToken (s : State) (c : CodePoint) : Result :=
  if c = ' ' ∨ c = '\t' ∨ c = '\x0c' then s.go .between []
  else if c = '\n' then endLine s
  else if c = '#' then s.go (.comment false) []
  else if c = '\\' then s.go (.backslash none) []
  else if startsWord c then s.go (.word [c] false) []
  else if c = '0' then s.go (.number .zero) []
  else if Text.isDigit c then s.go (.number (.digits .start false)) []
  else if c = '.' then s.go (.point false) []
  else if Formatted.isQuote c then s.go (.quote .plain c) []
  else if c = '!' then s.go .exclamation []
  else
    match Operator.ofChar? c with
    | some o => startOperator s o
    | none => .fault

/-- A token ends, and the character behind it starts the next. -/
def endToken (s : State) (ts : List Token) (c : CodePoint) : Result :=
  behind ts (startToken s c)

/-! ## Lines -/

/-- A character in the indentation of a line. -/
def inMargin (s : State) (m : Margin) (c : CodePoint) : Result :=
  match m.blank? c with
  | some m => s.go (.margin m) []
  | none =>
    if c = '\n' then s.go (.margin .start) []
    else if c = '#' then s.go (.comment true) []
    else if c = '\\' then s.go (.backslash (some m.continue)) []
    else
      match indentation s.indents m.widths.1 m.widths.2 with
      | some (indents, ts) => endToken { s with indents := indents } ts c
      | none => .fault

/-- A character of a comment. -/
def inComment (s : State) (alone : Bool) (c : CodePoint) : Result :=
  if c = '\n' then (if alone then s.go (.margin .start) [] else endLine s)
  else s.go (.comment alone) []

/-! ## Words and numbers -/

/-- The token of a word; right behind a number only some keywords may stand. -/
def wordToken? (reversed : List CodePoint) (behindNumber : Bool) : Option Token :=
  match Token.ofWord? reversed.reverse with
  | some (.keyword k) => if behindNumber && !k.mayFollowNumber then none else some (.keyword k)
  | some t => if behindNumber then none else some t
  | none => none

/-- The character behind a word. -/
def endWord (s : State) (reversed : List CodePoint) (behindNumber : Bool) (c : CodePoint) :
    Result :=
  match wordToken? reversed behindNumber with
  | some t => endToken s [t] c
  | none => .fault

/-- A character in or behind a word. -/
def onWord (s : State) (reversed : List CodePoint) (behindNumber : Bool) (c : CodePoint) : Result :=
  if inWord c then s.go (.word (c :: reversed) behindNumber) []
  else if Formatted.isQuote c && !behindNumber then
    match TextKind.ofLetters? reversed.reverse with
    | some k => s.go (.quote k c) []
    | none => endWord s reversed behindNumber c
  else endWord s reversed behindNumber c

/-- A character in or behind a number. The mark of an exponent without digits is the first letter
of a word behind the number. -/
def onNumber (s : State) (n : NumberState) (c : CodePoint) : Result :=
  match n.next? c with
  | some m => s.go (.number m) []
  | none =>
    match n with
    | .mark letter => if inWord c then s.go (.word [c, letter] true) [.number false] else .fault
    | n =>
      if n.isComplete then
        let t := .number n.isImaginary
        if inWord c then s.go (.word [c] true) [t] else endToken s [t] c
      else .fault

/-! ## Operators -/

/-- A character behind one or two points. -/
def onPoint (s : State) (two : Bool) (c : CodePoint) : Result :=
  if c = '.' then
    if two then s.go .between [.op .ellipsis] else s.go (.point true) []
  else if Text.isDigit c then
    s.go (.number (.digits .fraction false)) (if two then [.op .dot] else [])
  else endToken s (if two then [.op .dot, .op .dot] else [.op .dot]) c

/-- A character in or behind an operator. -/
def onOperator (s : State) (o : Operator) (c : CodePoint) : Result :=
  match o.extend? c with
  | some o => s.go (.operator o) []
  | none => endToken s [.op o] c

/-! ## Text literals -/

/-- A text literal ends. -/
def endText (s : State) (k : TextKind) (content : List CodePoint) : Result :=
  match k.fields? content with
  | some fields => s.go .between [.text k.bytes fields]
  | none => .fault

/-- A character inside a text literal. A quote ends it, or three in a row; a line end breaks it
unless it has three. -/
def inText (s : State) (k : TextKind) (q : CodePoint) (triple : Bool) (w : Within)
    (reversed : List CodePoint) (c : CodePoint) : Result :=
  match w with
  | .quotes n =>
    if c = q then
      if triple && decide (n < 2) then s.go (.text k q triple (.quotes (n + 1)) (c :: reversed)) []
      else endText s k (reversed.drop n).reverse
    else if c = '\n' && !triple then .fault
    else
      let w : Within := if c = '\\' then .escape else .quotes 0
      s.go (.text k q triple w (c :: reversed)) []
  | .escape => s.go (.text k q triple (.quotes 0) (c :: reversed)) []

/-- A character behind the first quote. -/
def onQuote (s : State) (k : TextKind) (q c : CodePoint) : Result :=
  if c = q then s.go (.secondQuote k q) [] else inText s k q false (.quotes 0) [] c

/-- A character behind the first two quotes: a third one opens a long text, otherwise the text was
empty. -/
def onSecondQuote (s : State) (k : TextKind) (q c : CodePoint) : Result :=
  if c = q then s.go (.text k q true (.quotes 0) []) [] else endToken s [.text k.bytes []] c

/-! ## Whole texts -/

/-- Read one character. -/
def step (s : State) (c : CodePoint) : Result :=
  match s.mode with
  | .margin m => inMargin s m c
  | .between => startToken s c
  | .comment alone => inComment s alone c
  | .word reversed behindNumber => onWord s reversed behindNumber c
  | .number n => onNumber s n c
  | .point two => onPoint s two c
  | .exclamation => if c = '=' then s.go .between [.op .compare] else .fault
  | .operator o => onOperator s o c
  | .quote k q => onQuote s k q c
  | .secondQuote k q => onSecondQuote s k q c
  | .text k q triple w reversed => inText s k q triple w reversed c
  | .backslash m => if c = '\n' then s.go (.continued m) [] else .fault
  | .continued (some m) => inMargin s m c
  | .continued none => startToken s c

/-- Go on behind a result, where that is possible. -/
def Result.andThen (r : Result) (f : State → Result) : Result :=
  match r.state with
  | some s => behind r.tokens (f s)
  | none => r

/-- Read a text. -/
def run (s : State) : List CodePoint → Result
  | [] => ⟨[], some s⟩
  | c :: r => (step s c).andThen fun s => run s r

theorem andThen_assoc (r : Result) (f g : State → Result) :
    (r.andThen f).andThen g = r.andThen fun s => (f s).andThen g := by
  obtain ⟨ts, _ | s⟩ := r
  · rfl
  · cases h : f s with
    | mk us t => cases t <;> simp [Result.andThen, behind, h]

/-- Texts are read one after another. -/
theorem run_append (s : State) (a b : List CodePoint) :
    run s (a ++ b) = (run s a).andThen fun s => run s b := by
  induction a generalizing s with
  | nil => simp [run, Result.andThen, behind]
  | cons c r ih => simp only [List.cons_append, run, ih, andThen_assoc]

/-- The tokens at the end of a text: it has to end at a line end outside of brackets and literals,
and all indentations end with it. -/
def State.finish (s : State) : Option (List Token) :=
  match s.mode with
  | .margin _ => some (s.indents.map fun _ => .dedent)
  | _ => none

end Scan

/-- The text read backwards starts with a line end of one character. -/
def endsLine : List CodePoint → Bool
  | .char '\n' :: .char '\r' :: _ => false
  | .char '\n' :: _ => true
  | .char '\r' :: _ => true
  | _ => false

/-- A text with every line end as a line feed, and with one more at its end unless its last line is
closed by a single character. -/
def closeLines (cs : List CodePoint) : List CodePoint :=
  Text.normalizeNewlines cs ++ if endsLine cs.reverse then [] else [.char '\n']

/-- The tokens of a text, and whether they are those of all of it. -/
structure Scanned where
  tokens : List Token
  complete : Bool
  deriving Repr, DecidableEq

/-- The tokens of a text, up to where it cannot be read. -/
def Token.scan (cs : List CodePoint) : Scanned :=
  if cs.contains '\x00' then ⟨[], false⟩
  else
    let r := Scan.run .start (closeLines cs)
    match r.state.bind Scan.State.finish with
    | some more => ⟨r.tokens ++ more, true⟩
    | none => ⟨r.tokens, false⟩

end ModelBindings.Source
