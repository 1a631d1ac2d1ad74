import ModelBindings.Source.Grammar.Way

/-!
# Rules of the grammar

What a stretch of tokens can be recognised as. A rule for an expression says also what the
expression may serve for besides its value: as the target of an assignment or a deletion. What was
taken stands for a tree, whose height counts.

* `Shape` : what an expression may serve for.
* `Rule` : the rules that refer to each other.
* `Phrase`, `Refusal` : what a rule takes, and why it refuses.
* `Recognizer` : how each rule takes tokens from the front.
-/

set_option autoImplicit false

namespace ModelBindings.Source

/-- What an expression may serve for besides its value. -/
inductive Shape where
  /-- A name. -/
  | name
  /-- An attribute or an item of something; whether it can be annotated. -/
  | place (annotatable : Bool)
  /-- A name, attribute or item in round brackets. -/
  | bracketed
  /-- Expressions in a row or in brackets; whether all can be assigned to, and all deleted. -/
  | group (assignable deletable : Bool)
  /-- An expression behind a star; whether it can be assigned to. -/
  | starred (assignable : Bool)
  /-- Nothing besides its value. -/
  | other
  deriving Repr, DecidableEq

namespace Shape

/-- It is one name, attribute or item. -/
def isSingle : Shape → Bool
  | .name | .place _ | .bracketed => true
  | _ => false

/-- It can be annotated with a type. -/
def isAnnotatable : Shape → Bool
  | .name | .bracketed => true
  | .place annotatable => annotatable
  | _ => false

/-- It can be assigned to. -/
def isTarget : Shape → Bool
  | .name | .place _ | .bracketed => true
  | .group assignable _ => assignable
  | .starred assignable => assignable
  | .other => false

/-- It can be deleted. -/
def isDeletable : Shape → Bool
  | .name | .place _ | .bracketed => true
  | .group _ deletable => deletable
  | _ => false

/-- It is an expression behind a star. -/
def isStarred : Shape → Bool
  | .starred _ => true
  | _ => false

/-- The same in round brackets. -/
def inBrackets (s : Shape) : Shape :=
  if s.isSingle then .bracketed else s

/-- A group without members. -/
def emptyGroup : Shape := .group true true

/-- A group with one more member in front. -/
def addTo (s group : Shape) : Shape :=
  .group (s.isTarget && group.isTarget) (s.isDeletable && group.isDeletable)

end Shape

namespace Grammar

/-- How far the arguments of a call have come. -/
inductive ArgumentPhase where
  /-- None yet: a single generator may still stand here. -/
  | first
  | positional
  /-- Behind a named argument. -/
  | named
  /-- Behind an argument with two stars. -/
  | mapped
  deriving Repr, DecidableEq

/-- How far the parameters of a function have come. -/
structure ParameterPhase where
  /-- They stand in brackets and may be annotated. -/
  annotated : Bool
  /-- A slash may stand here. -/
  slashable : Bool
  /-- There was a slash. -/
  slashed : Bool
  /-- There was a default. -/
  defaults : Bool
  /-- There was a star. -/
  starred : Bool
  /-- A name has to follow the star. -/
  bare : Bool
  deriving Repr, DecidableEq

/-- No parameters yet. -/
def ParameterPhase.start (annotated : Bool) : ParameterPhase :=
  ⟨annotated, false, false, false, false, false⟩

/-- An operand that waits for its right neighbour: how strongly the operator between them binds, and
the height of the operand. -/
structure Waiting where
  strength : Nat
  height : Nat
  deriving Repr, DecidableEq

/-- The rules that refer to each other. -/
inductive Rule where
  /-- Nothing: only the way counts. -/
  | nothing
  /-- An expression. -/
  | expression
  /-- Further conditions of which one has to hold. -/
  | disjuncts
  /-- Further conditions that have to hold together. -/
  | conjuncts
  /-- A condition, which may be denied. -/
  | denial
  /-- Further comparisons. -/
  | comparisons
  /-- Operands joined by operators, behind those that wait for what follows. -/
  | operands (waiting : List Waiting)
  /-- An operand with signs in front of it and an exponent. -/
  | factor
  /-- Attributes, items and calls behind an operand of the shape and height given; whether those
  behind it can be annotated. -/
  | trailers (s : Shape) (annotatable : Bool) (height : Nat)
  /-- Further expressions of a row without brackets. -/
  | row
  /-- Further elements of a display, through its closing bracket. -/
  | elements (b : Bracket) (p : Position)
  /-- Further pairs of a display, through its closing bracket. -/
  | pairs (p : Position)
  /-- The clauses of a comprehension, through its closing bracket; in a call or not. -/
  | clauses (inCall : Bool)
  /-- The conditions of a clause, and what follows them, through the closing bracket. -/
  | conditions (inCall : Bool)
  /-- The targets of a clause, through the word behind them. -/
  | targets
  /-- The items asked for, through the closing bracket. -/
  | subscripts (p : Position)
  /-- The arguments of a call, through the closing bracket. -/
  | arguments (p : ArgumentPhase)
  /-- The parameters of a function, through the colon or bracket behind them. -/
  | parameters (p : ParameterPhase)
  /-- The values of an assignment. -/
  | values
  /-- Modules that are imported. -/
  | modules
  /-- Names that are imported; in brackets or not. -/
  | imported (bracketed : Bool)
  /-- Statements of one line. -/
  | line
  /-- Statements up to the end of a block. -/
  | statements
  /-- Further branches of a choice. -/
  | branches
  /-- Handlers of faults, of groups or not, and what follows them. -/
  | handlers (groups : Bool)
  /-- What the body of a block is run with; in brackets or not. -/
  | items (bracketed : Bool)
  /-- Decorations, and the definition behind them. -/
  | decorated
  /-- Further values that are matched against patterns. -/
  | subject
  /-- Cases up to the end of a block. -/
  | cases
  /-- A pattern. -/
  | pattern
  /-- Patterns of which one has to match. -/
  | alternatives
  /-- Further patterns of a row. -/
  | patterns
  /-- The patterns of a class, through the closing bracket. -/
  | patternArguments (named : Bool)
  /-- The keys and patterns of a mapping, through the closing bracket. -/
  | patternPairs
  deriving Repr, DecidableEq

/-- Why a stretch of tokens is refused. -/
inductive Refusal where
  /-- It is not what is asked for. -/
  | mismatch
  /-- It leads too far down. -/
  | tooDeep
  deriving Repr, DecidableEq

/-- What a rule takes: the shape of it, the height of the tallest tree in it, and the tokens
behind. -/
structure Phrase where
  shape : Shape
  height : Nat
  rest : List Token
  deriving Repr, DecidableEq

/-- What a rule returns. -/
abbrev Parsed := Except Refusal Phrase

/-- How each rule takes tokens from the front, at the end of a way. -/
abbrev Recognizer := Way → Rule → List Token → Parsed

/-- It is not what is asked for. -/
def mismatch : Parsed := .error .mismatch

/-- Taken, without any shape or tree. -/
def taken (rest : List Token) : Parsed := .ok ⟨.other, 0, rest⟩

/-- Taken as a tree of its own. -/
def leaf (s : Shape) (rest : List Token) : Parsed := .ok ⟨s, 1, rest⟩

/-- Go on behind a phrase; the taller of both counts. -/
def extend (p : Parsed) (f : Phrase → Parsed) : Parsed :=
  match p with
  | .error e => .error e
  | .ok a => (f a).map fun b => { b with height := max a.height b.height }

/-- Go on behind a phrase, whatever its shape. -/
def andThen (p : Parsed) (f : List Token → Parsed) : Parsed :=
  extend p fun a => f a.rest

/-- Take something else where the first is not what is asked for. -/
def orElse (p : Parsed) (q : Unit → Parsed) : Parsed :=
  match p with
  | .error .mismatch => q ()
  | p => p

/-- The phrase with another shape. -/
def withShape (f : Shape → Shape) (p : Parsed) : Parsed :=
  p.map fun a => { a with shape := f a.shape }

/-- What was taken is of no shape. -/
def asOther (p : Parsed) : Parsed :=
  withShape (fun _ => .other) p

/-- What was taken is below the top of one tree, which has its shape. -/
def raised (p : Parsed) : Parsed :=
  p.map fun a => { a with height := a.height + 1 }

/-- What was taken is below the top of one tree, of no shape. -/
def under (p : Parsed) : Parsed :=
  asOther (raised p)

/-- Where more follows a phrase, both are below the top of one tree, of no shape. -/
def withMore (p : Parsed) (follows : List Token → Bool) (f : List Token → Parsed) : Parsed :=
  match p with
  | .error e => .error e
  | .ok a => if follows a.rest then under (andThen (.ok a) f) else .ok a

end Grammar

end ModelBindings.Source
