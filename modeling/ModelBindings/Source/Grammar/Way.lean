import ModelBindings.Source.Token

/-!
# Ways down

A text is read by rules within rules, and only so many may be open at once. Between two parts of
the grammar lie rules that are passed through, so each part leads down by a number of its own. A
text that is refused is read a second time to find out why, by rules of which some lie deeper.

* `Way` : the ways from one part of the grammar into another.
* `Way.levels` : how far each leads down, at the first reading and at the second.
* `Way.lead` : the level that a way leads to.
-/

set_option autoImplicit false

namespace ModelBindings.Source.Grammar

/-- A place between commas. -/
inductive Position where
  | first
  | second
  | later
  deriving Repr, DecidableEq

/-- The place behind the next comma. -/
def Position.next : Position → Position
  | .first => .second
  | _ => .later

/-- The kinds of arguments of a call. -/
inductive ArgumentKind where
  | plain
  /-- Behind a star. -/
  | starred
  | named
  /-- Behind two stars. -/
  | mapped
  deriving Repr, DecidableEq

/-- What may be asked for in square brackets behind an operand. -/
inductive ItemKind where
  | plain
  /-- Behind a star. -/
  | starred
  /-- Behind the first colon of a range. -/
  | bound
  /-- Behind the second colon of a range. -/
  | step
  deriving Repr, DecidableEq

/-- The ways from one part of the grammar into another. -/
inductive Way where
  /-- Into a part of the same level. -/
  | along
  /-- Behind a sign in front of an operand, behind `not`, and behind `else`. -/
  | inner
  /-- To the exponent of a power. -/
  | exponent
  /-- Behind a word of logic. -/
  | joined
  /-- Behind a comparison. -/
  | compared
  /-- To the value of a function without a name. -/
  | body
  /-- To the default of a parameter. -/
  | standard
  /-- To an element in brackets. -/
  | element (b : Bracket) (p : Position)
  /-- To an element behind a star in brackets. -/
  | starred (b : Bracket) (p : Position)
  /-- To a key or value of a pair. -/
  | pair (p : Position)
  /-- To pairs that are taken over from elsewhere. -/
  | spread (p : Position)
  | argument (k : ArgumentKind) (p : Position)
  | item (k : ItemKind) (p : Position)
  /-- To a value that is given a name where it stands. -/
  | given (w : Way)
  /-- To what a bracket hands out, or to where it takes that from. -/
  | yielded (source : Bool)
  /-- To the targets of a clause. -/
  | target
  /-- To the values that a clause runs over; in a call or not. -/
  | source (inCall : Bool)
  /-- To a condition of a clause; in a call or not. -/
  | condition (inCall : Bool)
  /-- To the expression in a field of a formatted text, which is read on its own. -/
  | field
  /-- To a further element of a row without brackets. -/
  | further
  /-- To the type of an annotation. -/
  | annotated
  /-- To a value that is assigned. -/
  | value
  /-- To a value that is assigned behind an annotation or an operator, or that is handed out. -/
  | assigned
  /-- Behind the word that a statement starts with. -/
  | keyworded
  /-- To a further statement of a line. -/
  | statement
  /-- To the statements behind a colon in its line. -/
  | line
  /-- To the lines of a block. -/
  | block
  deriving Repr, DecidableEq

namespace Way

/-- The levels to an element in brackets. -/
def elementLevels : Bracket → Position → Nat × Nat
  | .round, .first => (28, 30)
  | .round, .second => (30, 32)
  | .round, .later => (31, 33)
  | .square, .first => (29, 31)
  | .curly, .first => (29, 30)
  | _, _ => (30, 32)

/-- The levels to an element behind a star in brackets. -/
def starredLevels : Bracket → Position → Nat × Nat
  | .round, .first => (22, 22)
  | .round, .later => (25, 25)
  | _, .first => (23, 23)
  | _, _ => (24, 24)

/-- The levels to an argument of a call. -/
def argumentLevels : ArgumentKind → Position → Nat × Nat
  | .plain, .first => (24, 25)
  | .starred, .first => (27, 26)
  | .named, .first => (27, 29)
  | .mapped, .first => (27, 28)
  | .named, _ => (28, 30)
  | _, _ => (28, 29)

/-- The levels to an item. -/
def itemLevels : ItemKind → Position → Nat × Nat
  | .plain, .first => (24, 28)
  | .starred, .first => (26, 26)
  | .bound, .first => (24, 25)
  | .step, .first => (25, 26)
  | .plain, _ => (27, 30)
  | .starred, _ => (27, 24)
  | .bound, _ => (27, 28)
  | .step, _ => (28, 29)

/-- How far a way leads down at the first reading and at the second. -/
def levels : Way → Nat × Nat
  | .along => (0, 0)
  | .inner => (1, 1)
  | .exponent => (2, 2)
  | .joined => (2, 2)
  | .compared => (3, 3)
  | .body => (2, 2)
  | .standard => (8, 9)
  | .element b p => elementLevels b p
  | .starred b p => starredLevels b p
  | .pair .first => (29, 30)
  | .pair _ => (30, 31)
  | .spread .first => (23, 23)
  | .spread _ => (24, 24)
  | .argument k p => argumentLevels k p
  | .item k p => itemLevels k p
  | .given w => (w.levels.1 + 1, w.levels.2)
  | .yielded false => (29, 30)
  | .yielded true => (27, 28)
  | .target => (35, 32)
  | .source false => (27, 27)
  | .source true => (25, 25)
  | .condition false => (29, 29)
  | .condition true => (27, 27)
  | .field => (14, 12)
  | .further => (2, 2)
  | .annotated => (18, 18)
  | .value => (3, 2)
  | .assigned => (21, 21)
  | .keyworded => (19, 20)
  | .statement => (2, 2)
  | .line => (4, 4)
  | .block => (7, 7)

/-- How far a way leads down at a reading. -/
def depth (again : Bool) (w : Way) : Nat :=
  if again then w.levels.2 else w.levels.1

/-- The level that a way leads to. The field of a formatted text is read on its own. -/
def lead (again : Bool) (level : Nat) : Way → Nat
  | .field => depth again .field
  | w => level + depth again w

end Way

/-- The level at which a text is read. -/
def startLevel (again : Bool) : Nat :=
  if again then 3 else 0

/-- The deepest level that can be read. -/
def levelLimit : Nat := 5988

end ModelBindings.Source.Grammar
