import ModelBindings.Source.Grammar.Display

/-!
# Items, calls and parameters

The rules for what follows an operand in brackets, and for the parameters of a function.
-/

set_option autoImplicit false

namespace ModelBindings.Source.Grammar

/-! ## Items -/

/-- A bound of a range of items, which may be missing. -/
def bound (g : Recognizer) (w : Way) (ts : List Token) : Parsed :=
  if startsExpression ts then asOther (g w .expression ts) else taken ts

/-- The rest of a range of items behind its first colon. -/
def bounds (g : Recognizer) (p : Position) (ts : List Token) : Parsed :=
  andThen (bound g (.item .bound p) ts) fun
    | .op .colon :: r => bound g (.item .step p) r
    | r => taken r

/-- What is asked for between commas. -/
def subscript (g : Recognizer) (p : Position) : List Token → Parsed
  | .op (.binary .times) :: r => under (g (.item .starred p) .expression r)
  | .name _ :: .op .walrus :: r => under (g (.given (.item .plain p)) .expression r)
  | .op .colon :: r => under (bounds g p r)
  | ts =>
    withMore (asOther (g (.item .plain p) .expression ts)) (startsWith (.op .colon)) fun r =>
      bounds g p r.tail

/-- The items asked for; more than one are a group. -/
def subscriptsRule (g : Recognizer) (p : Position) (ts : List Token) : Parsed :=
  andThen (subscript g p ts) fun
    | .op .comma :: .op (.closing _) :: r => .ok ⟨.emptyGroup, 0, r⟩
    | .op .comma :: r => withShape (fun _ => .emptyGroup) (g .along (.subscripts p.next) r)
    | r => closing .other r

/-! ## Calls -/

/-- The place of the next argument. -/
def ArgumentPhase.position : ArgumentPhase → Position
  | .first => .first
  | _ => .later

/-- The way to the next argument, of a kind. -/
def ArgumentPhase.way (p : ArgumentPhase) (k : ArgumentKind) : Way :=
  .argument k p.position

/-- What follows an argument. -/
def argumentEnd (g : Recognizer) (p : ArgumentPhase) : List Token → Parsed
  | .op .comma :: r => g .along (.arguments p) r
  | r => closing .other r

/-- A plain argument, or one with a name given to it where it stands. -/
def plainArgument (g : Recognizer) (p : ArgumentPhase) (ts : List Token) : Parsed :=
  element g (p.way .plain) (p.way .starred) ts

/-- What follows the first argument: it may be a generator and is then the only one. -/
def firstArgumentEnd (g : Recognizer) (p : Phrase) : Parsed :=
  match behindFor? p.rest with
  | some _ => under (andThen (.ok p) (g .along (.clauses true)))
  | none => andThen (.ok p) (argumentEnd g .positional)

/-- A positional argument. -/
def positionalArgument (g : Recognizer) (p : ArgumentPhase) (ts : List Token) : Parsed :=
  match p with
  | .named | .mapped => mismatch
  | .positional => andThen (plainArgument g p ts) (argumentEnd g .positional)
  | .first => (plainArgument g p ts).bind (firstArgumentEnd g)

/-- The phase behind an argument with a star. -/
def ArgumentPhase.afterStar : ArgumentPhase → ArgumentPhase
  | .first => .positional
  | p => p

/-- The phase behind a named argument. -/
def ArgumentPhase.afterName : ArgumentPhase → ArgumentPhase
  | .mapped => .mapped
  | _ => .named

/-- The arguments of a call. -/
def argumentsRule (g : Recognizer) (p : ArgumentPhase) : List Token → Parsed
  | .op (.closing _) :: r => g (p.way .plain) .nothing r
  | .op (.binary .power) :: r =>
    andThen (under (g (p.way .mapped) .expression r)) (argumentEnd g .mapped)
  | .op (.binary .times) :: r =>
    if p = .mapped then mismatch
    else andThen (under (g (p.way .starred) .expression r)) (argumentEnd g p.afterStar)
  | .name _ :: .op .assign :: r =>
    andThen (under (g (p.way .named) .expression r)) (argumentEnd g p.afterName)
  | ts => positionalArgument g p ts

/-! ## Parameters -/

/-- What follows the parameters. -/
def behindParameters? (annotated : Bool) : List Token → Option (List Token)
  | .op .colon :: r => if annotated then none else some r
  | .op (.closing _) :: r => if annotated then some r else none
  | _ => none

/-- The end of the parameters. -/
def parametersEnd (p : ParameterPhase) (ts : List Token) : Parsed :=
  match behindParameters? p.annotated ts with
  | some r => if p.bare then mismatch else taken r
  | none => mismatch

/-- What follows a parameter. -/
def parameterEnd (g : Recognizer) (p : ParameterPhase) : List Token → Parsed
  | .op .comma :: r => g .along (.parameters p) r
  | ts => parametersEnd p ts

/-- What follows the last parameter, which has two stars. -/
def lastParameterEnd (p : ParameterPhase) : List Token → Parsed
  | .op .comma :: r => parametersEnd p r
  | ts => parametersEnd p ts

/-- The phase behind a named parameter. -/
def ParameterPhase.afterName (p : ParameterPhase) (hasDefault : Bool) : ParameterPhase :=
  { p with
    slashable := !p.starred && !p.slashed
    defaults := p.defaults || hasDefault
    bare := false }

/-- The phase behind a star. -/
def ParameterPhase.afterStar (p : ParameterPhase) (bare : Bool) : ParameterPhase :=
  { p with slashable := false, starred := true, bare := bare }

/-- The type of a parameter, where it may have one. -/
def parameterType (g : Recognizer) (p : ParameterPhase) : List Token → Parsed
  | .op .colon :: r =>
    if p.annotated then under (g .standard .expression r) else taken (.op .colon :: r)
  | ts => taken ts

/-- The type of a parameter with a star, which may have a star itself. -/
def starredType (g : Recognizer) (p : ParameterPhase) : List Token → Parsed
  | .op .colon :: r =>
    if p.annotated then under (rowElement g .standard r) else taken (.op .colon :: r)
  | ts => taken ts

/-- What follows the name and type of a parameter. -/
def behindParameter (g : Recognizer) (p : ParameterPhase) : List Token → Parsed
  | .op .assign :: r => andThen (g .standard .expression r) (parameterEnd g (p.afterName true))
  | r => if p.defaults && !p.starred then mismatch else parameterEnd g (p.afterName false) r

/-- The parameters of a function. -/
def parametersRule (g : Recognizer) (p : ParameterPhase) : List Token → Parsed
  | .op (.binary .power) :: .name _ :: r =>
    if p.bare then mismatch else andThen (parameterType g p r) (lastParameterEnd p)
  | .op (.binary .times) :: .op .comma :: r =>
    if p.starred then mismatch else g .along (.parameters (p.afterStar true)) r
  | .op (.binary .times) :: .name _ :: r =>
    if p.starred then mismatch
    else andThen (starredType g p r) (parameterEnd g (p.afterStar false))
  | .op (.binary .divide) :: r =>
    if p.slashable then parameterEnd g { p with slashable := false, slashed := true } r
    else mismatch
  | .name _ :: r => andThen (parameterType g p r) (behindParameter g p)
  | ts => parametersEnd p ts

end ModelBindings.Source.Grammar
