import ModelBindings.Naming
import ModelBindings.Text.Identifier

/-!
# Tokens of the generated source

What a source text consists of: names, keywords, literals, operators, and the line ends and
indentation that shape it.

* `Keyword`, `Operator`, `Token` : the tokens.
* `Operator.extend?` : the longer operator that one more character makes.
-/

set_option autoImplicit false

namespace ModelBindings.Source

/-- The reserved words. -/
inductive Keyword where
  | falseWord | noneWord | trueWord | andWord | asWord | assertWord | asyncWord | awaitWord
  | breakWord | classWord | continueWord | defWord | delWord | elifWord | elseWord | exceptWord
  | finallyWord | forWord | fromWord | globalWord | ifWord | importWord | inWord | isWord
  | lambdaWord | nonlocalWord | notWord | orWord | passWord | raiseWord | returnWord | tryWord
  | whileWord | withWord | yieldWord
  deriving Repr, DecidableEq

namespace Keyword

/-- The spelling of a reserved word. -/
def spelling : Keyword → Text
  | .falseWord => "False"
  | .noneWord => "None"
  | .trueWord => "True"
  | .andWord => "and"
  | .asWord => "as"
  | .assertWord => "assert"
  | .asyncWord => "async"
  | .awaitWord => "await"
  | .breakWord => "break"
  | .classWord => "class"
  | .continueWord => "continue"
  | .defWord => "def"
  | .delWord => "del"
  | .elifWord => "elif"
  | .elseWord => "else"
  | .exceptWord => "except"
  | .finallyWord => "finally"
  | .forWord => "for"
  | .fromWord => "from"
  | .globalWord => "global"
  | .ifWord => "if"
  | .importWord => "import"
  | .inWord => "in"
  | .isWord => "is"
  | .lambdaWord => "lambda"
  | .nonlocalWord => "nonlocal"
  | .notWord => "not"
  | .orWord => "or"
  | .passWord => "pass"
  | .raiseWord => "raise"
  | .returnWord => "return"
  | .tryWord => "try"
  | .whileWord => "while"
  | .withWord => "with"
  | .yieldWord => "yield"

/-- All reserved words. -/
def all : List Keyword :=
  [.falseWord, .noneWord, .trueWord, .andWord, .asWord, .assertWord, .asyncWord, .awaitWord,
   .breakWord, .classWord, .continueWord, .defWord, .delWord, .elifWord, .elseWord, .exceptWord,
   .finallyWord, .forWord, .fromWord, .globalWord, .ifWord, .importWord, .inWord, .isWord,
   .lambdaWord, .nonlocalWord, .notWord, .orWord, .passWord, .raiseWord, .returnWord, .tryWord,
   .whileWord, .withWord, .yieldWord]

/-- The reserved word of a spelling. -/
def ofSpelling? (s : Text) : Option Keyword :=
  all.find? fun k => k.spelling == s

theorem map_spelling_all : all.map spelling = keywords := rfl

/-- The words that may stand right behind a number. -/
def mayFollowNumber : Keyword → Bool
  | .andWord | .elseWord | .forWord | .ifWord | .inWord | .isWord | .notWord | .orWord => true
  | _ => false

end Keyword

/-- The kinds of brackets. -/
inductive Bracket where
  | round
  | square
  | curly
  deriving Repr, DecidableEq

/-- The operators between two operands that may also be combined with an assignment. -/
inductive BinaryOperator where
  | plus | minus | times | divide | floorDivide | modulo | matrixTimes | power
  | bitAnd | bitOr | bitXor | shiftLeft | shiftRight
  deriving Repr, DecidableEq

/-- The operators and delimiters. -/
inductive Operator where
  | opening (b : Bracket)
  | closing (b : Bracket)
  | binary (o : BinaryOperator)
  /-- An operator combined with an assignment. -/
  | augmented (o : BinaryOperator)
  | less
  | greater
  /-- One of the comparisons that are spelled with an equals sign. -/
  | compare
  | assign
  | walrus
  | arrow
  | tilde
  | colon
  | comma
  | semicolon
  | dot
  | ellipsis
  deriving Repr, DecidableEq

namespace Operator

/-- The operator that a character spells on its own. -/
def ofChar? (c : CodePoint) : Option Operator :=
  if c = '(' then some (.opening .round)
  else if c = ')' then some (.closing .round)
  else if c = '[' then some (.opening .square)
  else if c = ']' then some (.closing .square)
  else if c = '\x7b' then some (.opening .curly)
  else if c = '\x7d' then some (.closing .curly)
  else if c = ':' then some .colon
  else if c = ',' then some .comma
  else if c = '=' then some .assign
  else if c = '|' then some (.binary .bitOr)
  else if c = '-' then some (.binary .minus)
  else if c = '+' then some (.binary .plus)
  else if c = '*' then some (.binary .times)
  else if c = '/' then some (.binary .divide)
  else if c = '%' then some (.binary .modulo)
  else if c = '@' then some (.binary .matrixTimes)
  else if c = '&' then some (.binary .bitAnd)
  else if c = '^' then some (.binary .bitXor)
  else if c = '<' then some .less
  else if c = '>' then some .greater
  else if c = '~' then some .tilde
  else if c = ';' then some .semicolon
  else none

/-- The longer operator that one more character makes. -/
def extend? (o : Operator) (c : CodePoint) : Option Operator :=
  match o with
  | .binary b =>
    if c = '=' then some (.augmented b)
    else
      match b with
      | .times => if c = '*' then some (.binary .power) else none
      | .divide => if c = '/' then some (.binary .floorDivide) else none
      | .minus => if c = '>' then some .arrow else none
      | _ => none
  | .less =>
    if c = '=' then some .compare
    else if c = '<' then some (.binary .shiftLeft)
    else none
  | .greater =>
    if c = '=' then some .compare
    else if c = '>' then some (.binary .shiftRight)
    else none
  | .assign => if c = '=' then some .compare else none
  | .colon => if c = '=' then some .walrus else none
  | _ => none

end Operator

/-- The tokens of a source text. -/
inductive Token where
  | name (s : Text)
  | keyword (k : Keyword)
  /-- A number, or an imaginary one. -/
  | number (imaginary : Bool)
  /-- A text literal, or one of bytes, with the expressions in the fields of a formatted one. -/
  | text (bytes : Bool) (fields : List (List CodePoint))
  | op (o : Operator)
  | newline
  | indent
  | dedent
  deriving Repr, DecidableEq

namespace Token

/-- The name or keyword that a word spells. Beyond ASCII the word has to be an identifier. -/
def ofWord? (cs : List CodePoint) : Option Token :=
  let s := Text.ofList cs
  match Keyword.ofSpelling? s with
  | some k => some (.keyword k)
  | none => if Text.isIdentifier cs then some (.name s) else none

end Token

end ModelBindings.Source
