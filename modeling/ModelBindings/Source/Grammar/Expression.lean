import ModelBindings.Source.Grammar.Call
import ModelBindings.Source.Token.Scan

/-!
# Expressions

The rules for expressions, from the choice between two values down to names and literals, each in
terms of a recogniser for all rules. Operators of all strengths are taken in one row; how strongly
they bind counts for the height of their tree.
-/

set_option autoImplicit false

namespace ModelBindings.Source.Grammar

/-! ## Values -/

/-- The condition and the other value of a choice between two values. -/
def choiceRest (g : Recognizer) : List Token → Parsed
  | .keyword .ifWord :: r =>
    andThen (disjunction g .along r) fun
      | .keyword .elseWord :: r => g .inner .expression r
      | _ => mismatch
  | _ => mismatch

/-- An expression: a function, or a choice between two values, or one value. -/
def expressionRule (g : Recognizer) : List Token → Parsed
  | .keyword .lambdaWord :: r =>
    under (andThen (under (g .along (.parameters (.start false)) r)) (g .body .expression))
  | ts => withMore (disjunction g .along ts) (startsWith (.keyword .ifWord)) (choiceRest g)

/-- A condition, which may be denied: operands joined by comparisons. -/
def denialRule (g : Recognizer) : List Token → Parsed
  | .keyword .notWord :: r => under (g .inner .denial r)
  | ts =>
    withMore (g .along (.operands []) ts) (fun r => (behindComparison? r).isSome)
      (g .along .comparisons)

/-- Further comparisons. -/
def comparisonsRule (g : Recognizer) (ts : List Token) : Parsed :=
  match behindComparison? ts with
  | some r => andThen (g .compared (.operands []) r) (g .along .comparisons)
  | none => taken ts

/-! ## Operands -/

/-- The height of the expressions in the fields of a formatted text; each field may hold what may
stand in round brackets. -/
def fieldsHeight (g : Recognizer) : List (List CodePoint) → Except Refusal Nat
  | [] => .ok 0
  | text :: more =>
    let s := Token.scan (.char '(' :: text ++ [.char ')'])
    (g .field .expression s.tokens).bind fun p =>
      if s.complete ∧ p.rest = [.newline] then
        (fieldsHeight g more).map (max (p.height + 1))
      else .error .mismatch

/-- Text literals side by side, which are of one kind. -/
def texts (g : Recognizer) (bytes : Bool) : List Token → Parsed
  | .text b fields :: r =>
    if b = bytes then
      match fieldsHeight g fields with
      | .error e => .error e
      | .ok h => extend (.ok ⟨.other, h, r⟩) fun _ => texts g bytes r
    else mismatch
  | ts => taken ts

/-- An operand without what follows it. -/
def atom (g : Recognizer) : List Token → Parsed
  | .name _ :: r => leaf .name r
  | .number _ :: r => leaf .other r
  | .text bytes fields :: r => under (texts g bytes (.text bytes fields :: r))
  | .keyword .trueWord :: r => leaf .other r
  | .keyword .falseWord :: r => leaf .other r
  | .keyword .noneWord :: r => leaf .other r
  | .op .ellipsis :: r => leaf .other r
  | .op (.opening .round) :: r => round g r
  | .op (.opening .square) :: r => square g r
  | .op (.opening .curly) :: r => curly g r
  | _ => mismatch

/-- An operand with what follows it. What follows brackets around a single name, attribute or item
cannot be annotated. -/
def primary (g : Recognizer) (ts : List Token) : Parsed :=
  (atom g ts).bind fun p =>
    g .along (.trailers p.shape (p.shape != .bracketed) p.height) p.rest

/-- The height of items: more than one are a group, below a top of its own. -/
def itemsHeight (p : Phrase) : Nat :=
  if p.shape = .other then p.height else p.height + 1

/-- Attributes, items and calls. -/
def trailersRule (g : Recognizer) (s : Shape) (annotatable : Bool) (height : Nat) :
    List Token → Parsed
  | .op .dot :: .name _ :: r =>
    g .along (.trailers (.place annotatable) annotatable (height + 1)) r
  | .op (.opening .round) :: r =>
    (g .along (.arguments .first) r).bind fun p =>
      g .along (.trailers .other annotatable (max height p.height + 1)) p.rest
  | .op (.opening .square) :: r =>
    (g .along (.subscripts .first) r).bind fun p =>
      g .along (.trailers (.place annotatable) annotatable (max height (itemsHeight p) + 1)) p.rest
  | ts => .ok ⟨s, height, ts⟩

/-- An operand that may be waited for. -/
def operand (g : Recognizer) : List Token → Parsed
  | .keyword .awaitWord :: r => under (primary g r)
  | ts => primary g ts

/-- An operand with signs in front of it and an exponent. -/
def factorRule (g : Recognizer) (ts : List Token) : Parsed :=
  match behindSign? ts with
  | some r => under (g .inner .factor r)
  | none =>
    withMore (operand g ts) (startsWith (.op (.binary .power))) fun r =>
      g .exponent .factor r.tail

/-- Operands joined by operators. -/
def operandsRule (g : Recognizer) (waiting : List Waiting) (ts : List Token) : Parsed :=
  (g .along .factor ts).bind fun p =>
    match p.rest with
    | .op (.binary o) :: r => g .along (.operands (waitBehind o p.height waiting)) r
    | r => .ok ⟨if waiting.isEmpty then p.shape else .other, closeWaiting p.height waiting, r⟩

end ModelBindings.Source.Grammar
