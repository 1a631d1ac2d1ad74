import ModelBindings.Source.Grammar.Pattern

/-!
# Compound statements

The rules for statements that hold blocks: choices, loops, handlers of faults, what a block is run
with, cases, and the definitions of functions and classes.
-/

set_option autoImplicit false

namespace ModelBindings.Source.Grammar

/-- A block behind its colon: statements of one line, or lines with an indentation of their own. -/
def block (g : Recognizer) : List Token → Parsed
  | .op .colon :: .newline :: .indent :: r =>
    andThen (g .block .statements r) fun
      | .dedent :: r => taken r
      | _ => mismatch
  | .op .colon :: r => g .line .line r
  | _ => mismatch

/-- An expression that may be given a name. -/
def condition (g : Recognizer) : List Token → Parsed
  | .name _ :: .op .walrus :: r => under (g (.given .keyworded) .expression r)
  | ts => asOther (g .keyworded .expression ts)

/-! ## Choices and loops -/

/-- The block for what is left over, if there is one. -/
def elseBlock (g : Recognizer) : List Token → Parsed
  | .keyword .elseWord :: r => block g r
  | ts => taken ts

/-- A condition with its block. -/
def branch (g : Recognizer) (ts : List Token) : Parsed :=
  andThen (condition g ts) (block g)

/-- Further branches of a choice. -/
def branchesRule (g : Recognizer) : List Token → Parsed
  | .keyword .elifWord :: r => under (andThen (branch g r) (g .inner .branches))
  | ts => elseBlock g ts

/-- A loop over values. -/
def forLoop (g : Recognizer) (ts : List Token) : Parsed :=
  andThen (g .along .targets ts) fun r =>
    andThen (row g .keyworded r) fun r =>
      andThen (block g r) (elseBlock g)

/-! ## What a block is run with -/

/-- What a block is run with, and the target that it is assigned to. -/
def item (g : Recognizer) (ts : List Token) : Parsed :=
  under (andThen (g .keyworded .expression ts) fun
    | .keyword .asWord :: r =>
      extend (clauseTarget g .along r) fun p => if p.shape.isTarget then taken p.rest else mismatch
    | r => taken r)

/-- What follows one of the things that a block is run with. -/
def itemsEnd (g : Recognizer) (bracketed : Bool) : List Token → Parsed
  | .op .comma :: .op (.closing _) :: r => if bracketed then taken r else mismatch
  | .op .comma :: r => g .along (.items bracketed) r
  | r => if bracketed then closing .other r else taken r

/-- What a block is run with. -/
def itemsRule (g : Recognizer) (bracketed : Bool) (ts : List Token) : Parsed :=
  andThen (item g ts) (itemsEnd g bracketed)

/-- What a block is run with, all of it in brackets, through the brackets. -/
def bracketedItems (g : Recognizer) : List Token → Parsed
  | .op (.opening .round) :: r =>
    andThen (g .along (.items true) r) fun
      | .op .colon :: r => taken (.op .colon :: r)
      | _ => mismatch
  | _ => mismatch

/-- A block with what it is run with. -/
def withBlock (g : Recognizer) (ts : List Token) : Parsed :=
  andThen (orElse (bracketedItems g ts) fun _ => g .along (.items false) ts) (block g)

/-! ## Handlers of faults -/

/-- The block that is run in every case, if there is one. -/
def finalBlock (g : Recognizer) : List Token → Parsed
  | .keyword .finallyWord :: r => block g r
  | ts => taken ts

/-- The faults that a handler is for, and a name for them. -/
def caught (g : Recognizer) (ts : List Token) : Parsed :=
  andThen (g .keyworded .expression ts) renamed

/-- What stands between the word for a handler and its block. -/
def handled (g : Recognizer) (groups : Bool) : List Token → Parsed
  | .op (.binary .times) :: r => if groups then caught g r else mismatch
  | .op .colon :: r => if groups then mismatch else taken (.op .colon :: r)
  | ts => if groups then mismatch else caught g ts

/-- What follows a handler. -/
def handlerEnd (g : Recognizer) (groups : Bool) : List Token → Parsed
  | .keyword .exceptWord :: r => g .along (.handlers groups) r
  | ts => andThen (elseBlock g ts) (finalBlock g)

/-- Handlers of faults, behind the word for the first. -/
def handlersRule (g : Recognizer) (groups : Bool) (ts : List Token) : Parsed :=
  andThen (under (andThen (handled g groups ts) (block g))) (handlerEnd g groups)

/-- What follows a block whose faults are handled. -/
def behindTry (g : Recognizer) : List Token → Parsed
  | .keyword .finallyWord :: r => block g r
  | .keyword .exceptWord :: .op (.binary .times) :: r =>
    g .along (.handlers true) (.op (.binary .times) :: r)
  | .keyword .exceptWord :: r => g .along (.handlers false) r
  | _ => mismatch

/-! ## Cases -/

/-- What follows a comma behind a value that is matched. -/
def subjectEnd (g : Recognizer) : List Token → Parsed
  | .op .colon :: r => taken (.op .colon :: r)
  | ts => g .along .subject ts

/-- Further values that are matched. -/
def subjectRule (g : Recognizer) (ts : List Token) : Parsed :=
  andThen (element g .keyworded .keyworded ts) fun
    | .op .comma :: r => subjectEnd g r
    | r => taken r

/-- The value that is matched, or a row of them; one behind a star does not stand alone. -/
def subjectRow (g : Recognizer) (ts : List Token) : Parsed :=
  extend (element g .keyworded .keyworded ts) fun p =>
    match p.rest with
    | .op .comma :: r => subjectEnd g r
    | r => if p.shape.isStarred then mismatch else taken r

/-- A condition on a case, if there is one. -/
def guardCondition (g : Recognizer) : List Token → Parsed
  | .keyword .ifWord :: r => condition g r
  | ts => taken ts

/-- One case, behind its word. -/
def oneCase (g : Recognizer) (ts : List Token) : Parsed :=
  under (andThen (patternRow g ts) fun r => andThen (guardCondition g r) (block g))

/-- Cases up to the end of a block. -/
def casesRule (g : Recognizer) : List Token → Parsed
  | .name s :: r =>
    if s = "case" then
      andThen (oneCase g r) fun
        | .dedent :: r => taken r
        | r => g .along .cases r
    else mismatch
  | _ => mismatch

/-- A value with its cases, behind the word for it. -/
def matchBlock (g : Recognizer) (ts : List Token) : Parsed :=
  under (andThen (subjectRow g ts) fun
    | .op .colon :: .newline :: .indent :: r => g .along .cases r
    | _ => mismatch)

/-! ## Definitions -/

/-- The type of what a function returns, if it is given. -/
def returnType (g : Recognizer) : List Token → Parsed
  | .op .arrow :: r => asOther (g .keyworded .expression r)
  | ts => taken ts

/-- A function, behind its word. -/
def function (g : Recognizer) : List Token → Parsed
  | .name _ :: .op (.opening .round) :: r =>
    andThen (under (g .keyworded (.parameters (.start true)) r)) fun r =>
      andThen (returnType g r) (block g)
  | _ => mismatch

/-- A class, behind its word. -/
def classDefinition (g : Recognizer) : List Token → Parsed
  | .name _ :: .op (.opening .round) :: r => andThen (g .along (.arguments .positional) r) (block g)
  | .name _ :: r => block g r
  | _ => mismatch

/-- The definition of a function or a class. -/
def definition (g : Recognizer) : List Token → Parsed
  | .keyword .classWord :: r => classDefinition g r
  | .keyword .defWord :: r => function g r
  | .keyword .asyncWord :: .keyword .defWord :: r => function g r
  | _ => mismatch

/-- Decorations, and the definition behind them. -/
def decoratedRule (g : Recognizer) : List Token → Parsed
  | .op (.binary .matrixTimes) :: r =>
    andThen (condition g r) fun
      | .newline :: r => g .along .decorated r
      | _ => mismatch
  | ts => definition g ts

/-! ## Statements -/

/-- A function, loop or block that waits. -/
def waiting (g : Recognizer) : List Token → Parsed
  | .keyword .defWord :: r => function g r
  | .keyword .forWord :: r => forLoop g r
  | .keyword .withWord :: r => withBlock g r
  | _ => mismatch

/-- A statement with blocks, behind its word. -/
def compound (g : Recognizer) (k : Keyword) (ts : List Token) : Parsed :=
  match k with
  | .ifWord => andThen (branch g ts) (g .along .branches)
  | .whileWord => andThen (branch g ts) (elseBlock g)
  | .forWord => forLoop g ts
  | .withWord => withBlock g ts
  | .tryWord => andThen (block g ts) (behindTry g)
  | .classWord => classDefinition g ts
  | .defWord => function g ts
  | .asyncWord => waiting g ts
  | _ => mismatch

/-- The word starts a statement with blocks. -/
def startsCompound : Keyword → Bool
  | .ifWord | .whileWord | .forWord | .withWord | .tryWord => true
  | .classWord | .defWord | .asyncWord => true
  | _ => false

/-- A statement that starts with a keyword. -/
def keyworded (g : Recognizer) (k : Keyword) (ts : List Token) : Parsed :=
  if startsCompound k then under (compound g k ts) else g .along .line (.keyword k :: ts)

/-- A statement that starts with a name. The word for cases is also a name like any other. -/
def named (g : Recognizer) (s : Text) (ts : List Token) : Parsed :=
  orElse (if s = "match" then matchBlock g ts else mismatch) fun _ => g .along .line (.name s :: ts)

/-- A statement. -/
def statement (g : Recognizer) : List Token → Parsed
  | .op (.binary .matrixTimes) :: r =>
    under (g .along .decorated (.op (.binary .matrixTimes) :: r))
  | .keyword k :: r => keyworded g k r
  | .name s :: r => named g s r
  | ts => g .along .line ts

/-- Statements up to the end of a block or of the text. -/
def statementsRule (g : Recognizer) (ts : List Token) : Parsed :=
  andThen (statement g ts) fun
    | [] => taken []
    | .dedent :: r => taken (.dedent :: r)
    | r => g .along .statements r

end ModelBindings.Source.Grammar
