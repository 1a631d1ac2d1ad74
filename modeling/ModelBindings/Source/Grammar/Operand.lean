import ModelBindings.Source.Grammar.Rule

/-!
# Operators and operands

The signs of operators, what an expression starts with, and how the heights of operands add up: an
operator that binds at least as strongly as the next one takes its operands first.

* `startsExpression` : an expression can start with a token.
* `strength` : how strongly an operator binds.
* `closeWaiting` : the height of operands joined by operators.
-/

set_option autoImplicit false

namespace ModelBindings.Source.Grammar

/-! ## Signs -/

/-- What follows the words or sign of a comparison. -/
def behindComparison? : List Token → Option (List Token)
  | .op .compare :: r => some r
  | .op .less :: r => some r
  | .op .greater :: r => some r
  | .keyword .inWord :: r => some r
  | .keyword .notWord :: .keyword .inWord :: r => some r
  | .keyword .isWord :: .keyword .notWord :: r => some r
  | .keyword .isWord :: r => some r
  | _ => none

/-- What follows the sign in front of an operand. -/
def behindSign? : List Token → Option (List Token)
  | .op (.binary .plus) :: r => some r
  | .op (.binary .minus) :: r => some r
  | .op .tilde :: r => some r
  | _ => none

/-- A token stands in front. -/
def startsWith (t : Token) : List Token → Bool
  | u :: _ => u = t
  | [] => false

/-- An expression can start with the token. -/
def startsExpression : List Token → Bool
  | .name _ :: _ => true
  | .number _ :: _ => true
  | .text _ _ :: _ => true
  | .keyword k :: _ =>
    match k with
    | .trueWord | .falseWord | .noneWord | .notWord | .lambdaWord | .awaitWord => true
    | _ => false
  | .op o :: _ =>
    match o with
    | .opening _ | .tilde | .ellipsis => true
    | .binary .plus | .binary .minus | .binary .times => true
    | _ => false
  | _ => false

/-! ## Heights -/

/-- How strongly an operator binds its operands. -/
def strength : BinaryOperator → Nat
  | .bitOr => 0
  | .bitXor => 1
  | .bitAnd => 2
  | .shiftLeft | .shiftRight => 3
  | .plus | .minus => 4
  | .times | .divide | .floorDivide | .modulo | .matrixTimes => 5
  | .power => 6

/-- An operand of a height with those waiting for it, as far as their operators bind at least as
strongly as the next one. -/
def joinWaiting (next height : Nat) : List Waiting → Nat × List Waiting
  | [] => (height, [])
  | w :: r =>
    if next ≤ w.strength then joinWaiting next (max w.height height + 1) r else (height, w :: r)

/-- The operands that wait behind an operator. -/
def waitBehind (o : BinaryOperator) (height : Nat) (waiting : List Waiting) : List Waiting :=
  let (h, rest) := joinWaiting (strength o) height waiting
  ⟨strength o, h⟩ :: rest

/-- The height of the last operand with all those waiting for it. -/
def closeWaiting (height : Nat) (waiting : List Waiting) : Nat :=
  (joinWaiting 0 height waiting).1

end ModelBindings.Source.Grammar
