import ModelBindings.Source.Grammar.Expression

/-!
# Statements of one line

The rules for the statements that may stand side by side in a line: expressions, assignments and
annotations, imports, and those that start with a word of their own.
-/

set_option autoImplicit false

namespace ModelBindings.Source.Grammar

/-! ## Assignments -/

/-- A value that is assigned. -/
def value (g : Recognizer) (w : Way) : List Token → Parsed
  | .keyword .yieldWord :: r => asOther (yielded g .assigned .assigned r)
  | ts => row g w ts

/-- The values of an assignment: all but the last are targets themselves. -/
def valuesRule (g : Recognizer) (ts : List Token) : Parsed :=
  extend (value g .value ts) fun p =>
    match p.rest with
    | .op .assign :: r => if p.shape.isTarget then g .along .values r else mismatch
    | r => taken r

/-- What follows the type of an annotation. -/
def annotationEnd (g : Recognizer) : List Token → Parsed
  | .op .assign :: r => asOther (value g .assigned r)
  | r => taken r

/-- What follows the expression that a statement starts with. -/
def behindExpression (g : Recognizer) (s : Shape) : List Token → Parsed
  | .op .colon :: r =>
    if s.isAnnotatable then andThen (g .annotated .expression r) (annotationEnd g) else mismatch
  | .op (.augmented _) :: r => if s.isSingle then asOther (value g .assigned r) else mismatch
  | .op .assign :: r => if s.isTarget then g .along .values r else mismatch
  | r => taken r

/-! ## Imports -/

/-- The rest of a name with points. -/
def dottedRest : List Token → List Token
  | .op .dot :: .name _ :: r => dottedRest r
  | ts => ts

/-- A name with points. -/
def dottedName : List Token → Parsed
  | .name _ :: r => taken (dottedRest r)
  | _ => mismatch

/-- What follows the points in front of a module. -/
def behindPoints : List Token → List Token
  | .op .dot :: r => behindPoints r
  | .op .ellipsis :: r => behindPoints r
  | ts => ts

/-- The module is given from the package itself on. -/
def isRelative : List Token → Bool
  | .op .dot :: _ => true
  | .op .ellipsis :: _ => true
  | _ => false

/-- Another name for what is imported, if one is given. -/
def renamed : List Token → Parsed
  | .keyword .asWord :: .name _ :: r => taken r
  | .keyword .asWord :: _ => mismatch
  | r => taken r

/-- Modules that are imported. -/
def modulesRule (g : Recognizer) (ts : List Token) : Parsed :=
  andThen (dottedName ts) fun r =>
    andThen (renamed r) fun
      | .op .comma :: r => g .along .modules r
      | r => taken r

/-- What follows a name that is imported. -/
def importedEnd (g : Recognizer) (bracketed : Bool) : List Token → Parsed
  | .op .comma :: .op (.closing _) :: r => if bracketed then taken r else mismatch
  | .op .comma :: r => g .along (.imported bracketed) r
  | r => if bracketed then closing .other r else taken r

/-- Names that are imported. -/
def importedRule (g : Recognizer) (bracketed : Bool) : List Token → Parsed
  | .name _ :: r => andThen (renamed r) (importedEnd g bracketed)
  | _ => mismatch

/-- What is imported from a module. -/
def importedNames (g : Recognizer) : List Token → Parsed
  | .keyword .importWord :: .op (.binary .times) :: r => taken r
  | .keyword .importWord :: .op (.opening .round) :: r => g .along (.imported true) r
  | .keyword .importWord :: r => g .along (.imported false) r
  | _ => mismatch

/-- An import from a module. -/
def importFrom (g : Recognizer) (ts : List Token) : Parsed :=
  match behindPoints ts with
  | .keyword .importWord :: r =>
    if isRelative ts then importedNames g (.keyword .importWord :: r) else mismatch
  | r => andThen (dottedName r) (importedNames g)

/-! ## One line -/

/-- Names between commas. -/
def nameList : List Token → Parsed
  | .name _ :: .op .comma :: r => nameList r
  | .name _ :: r => taken r
  | _ => mismatch

/-- A second expression behind a token, where the token stands. -/
def maybeSecond (g : Recognizer) (t : Token) : List Token → Parsed
  | u :: r => if u = t then asOther (g .keyworded .expression r) else taken (u :: r)
  | [] => taken []

/-- What follows the word that a statement of one line starts with. -/
def keywordStatement (g : Recognizer) (k : Keyword) (ts : List Token) : Parsed :=
  match k with
  | .passWord | .breakWord | .continueWord => taken ts
  | .importWord => g .along .modules ts
  | .fromWord => importFrom g ts
  | .globalWord | .nonlocalWord => nameList ts
  | .delWord =>
    extend (row g .along ts) fun p => if p.shape.isDeletable then taken p.rest else mismatch
  | .returnWord => if startsExpression ts then asOther (row g .keyworded ts) else taken ts
  | .raiseWord =>
    if startsExpression ts then
      andThen (g .keyworded .expression ts) (maybeSecond g (.keyword .fromWord))
    else taken ts
  | .assertWord => andThen (g .keyworded .expression ts) (maybeSecond g (.op .comma))
  | .yieldWord => andThen (yielded g .assigned .assigned ts) (behindExpression g .other)
  | _ => mismatch

/-- An expression, an assignment or an annotation. -/
def expressionStatement (g : Recognizer) (ts : List Token) : Parsed :=
  extend (row g .along ts) fun p => behindExpression g p.shape p.rest

/-- The keywords that an expression may start with. -/
def opensExpression (k : Keyword) : Bool :=
  startsExpression [.keyword k]

/-- A statement within a line. -/
def smallStatement (g : Recognizer) : List Token → Parsed
  | .keyword k :: r =>
    if opensExpression k then expressionStatement g (.keyword k :: r) else keywordStatement g k r
  | ts => expressionStatement g ts

/-- The statements of one line. -/
def lineRule (g : Recognizer) (ts : List Token) : Parsed :=
  andThen (under (smallStatement g ts)) fun
    | .newline :: r => taken r
    | .op .semicolon :: .newline :: r => taken r
    | .op .semicolon :: r => g .statement .line r
    | _ => mismatch

end ModelBindings.Source.Grammar
