import ModelBindings.Source.Grammar.Operand

/-!
# Displays

The rules for what stands in brackets of its own: groups, lists, sets, mappings and comprehensions,
and rows of expressions without brackets. Each is in terms of a recogniser for all rules.
-/

set_option autoImplicit false

namespace ModelBindings.Source.Grammar

/-! ## Conditions -/

/-- Conditions that have to hold together. -/
def conjunction (g : Recognizer) (w : Way) (ts : List Token) : Parsed :=
  withMore (g w .denial ts) (startsWith (.keyword .andWord)) (g w .conjuncts)

/-- Further conditions that have to hold together. -/
def conjunctsRule (g : Recognizer) : List Token → Parsed
  | .keyword .andWord :: r => andThen (g .joined .denial r) (g .along .conjuncts)
  | ts => taken ts

/-- Conditions of which one has to hold. -/
def disjunction (g : Recognizer) (w : Way) (ts : List Token) : Parsed :=
  withMore (conjunction g w ts) (startsWith (.keyword .orWord)) (g w .disjuncts)

/-- Further conditions of which one has to hold. -/
def disjunctsRule (g : Recognizer) : List Token → Parsed
  | .keyword .orWord :: r => andThen (conjunction g .joined r) (g .along .disjuncts)
  | ts => taken ts

/-! ## Elements and rows -/

/-- Operands behind a star. -/
def behindStar (g : Recognizer) (w : Way) (ts : List Token) : Parsed :=
  withShape (fun s => .starred s.isTarget) (raised (g w (.operands []) ts))

/-- An element of a display: behind a star, with a name given to it, or plain. -/
def element (g : Recognizer) (plain starred : Way) : List Token → Parsed
  | .op (.binary .times) :: r => behindStar g starred r
  | .name _ :: .op .walrus :: r => under (g (.given plain) .expression r)
  | ts => g plain .expression ts

/-- One expression of a row. -/
def rowElement (g : Recognizer) (w : Way) : List Token → Parsed
  | .op (.binary .times) :: r => behindStar g w r
  | ts => g w .expression ts

/-- What follows one expression of a row. -/
def rowEnd (g : Recognizer) (w : Way) (s : Shape) (r : List Token) : Parsed :=
  if startsExpression r then withShape s.addTo (g w .row r)
  else .ok ⟨s.addTo .emptyGroup, 0, r⟩

/-- Further expressions of a row. -/
def rowRule (g : Recognizer) (ts : List Token) : Parsed :=
  extend (rowElement g .further ts) fun p =>
    match p.rest with
    | .op .comma :: r => rowEnd g .along p.shape r
    | r => .ok ⟨p.shape.addTo .emptyGroup, 0, r⟩

/-- One expression, or a row of them. -/
def row (g : Recognizer) (w : Way) (ts : List Token) : Parsed :=
  (rowElement g w ts).bind fun p =>
    match p.rest with
    | .op .comma :: r => raised (extend (.ok p) fun p => rowEnd g w p.shape r)
    | _ => .ok p

/-- What follows the word that hands out a value. -/
def yielded (g : Recognizer) (w behindFrom : Way) : List Token → Parsed
  | .keyword .fromWord :: r => under (g behindFrom .expression r)
  | ts => if startsExpression ts then under (row g w ts) else leaf .other ts

/-- The closing bracket. -/
def closing (s : Shape) : List Token → Parsed
  | .op (.closing _) :: r => .ok ⟨s, 0, r⟩
  | _ => mismatch

/-- Brackets without content. -/
def emptyBrackets (g : Recognizer) (w : Way) (s : Shape) (ts : List Token) : Parsed :=
  andThen (g w .nothing ts) (leaf s)

/-! ## Displays -/

/-- Further elements of a display. -/
def elementsRule (g : Recognizer) (b : Bracket) (p : Position) : List Token → Parsed
  | .op (.closing _) :: r => .ok ⟨.emptyGroup, 0, r⟩
  | ts =>
    extend (element g (.element b p) (.starred b p) ts) fun a =>
      match a.rest with
      | .op .comma :: r => withShape a.shape.addTo (g .along (.elements b p.next) r)
      | r => closing (a.shape.addTo .emptyGroup) r

/-- The first element of a display. -/
def firstElement (g : Recognizer) (b : Bracket) (ts : List Token) : Parsed :=
  element g (.element b .first) (.starred b .first) ts

/-- What follows the first element of a display: more of them, or the clauses of a
comprehension. -/
def displayRest (g : Recognizer) (b : Bracket) (s : Shape) : List Token → Parsed
  | .op .comma :: r => withShape s.addTo (g .along (.elements b .second) r)
  | .op (.closing _) :: r => .ok ⟨s.addTo .emptyGroup, 0, r⟩
  | ts => if s.isStarred then mismatch else asOther (g .along (.clauses false) ts)

/-- What follows the first element in round brackets. One expression alone is no group. -/
def roundRest (g : Recognizer) (p : Phrase) : Parsed :=
  match p.rest with
  | .op (.closing _) :: r =>
    if p.shape.isStarred then mismatch else .ok ⟨p.shape.inBrackets, p.height, r⟩
  | r => raised (extend (.ok p) fun p => displayRest g .round p.shape r)

/-- What follows a round bracket: a group, a comprehension, or one expression. -/
def round (g : Recognizer) : List Token → Parsed
  | .op (.closing _) :: r => emptyBrackets g (.element .round .first) .emptyGroup r
  | .keyword .yieldWord :: r =>
    andThen (yielded g (.yielded false) (.yielded true) r) (closing .other)
  | ts => (firstElement g .round ts).bind (roundRest g)

/-- What follows a square bracket. -/
def square (g : Recognizer) : List Token → Parsed
  | .op (.closing _) :: r => emptyBrackets g (.element .square .first) .emptyGroup r
  | ts => raised (extend (firstElement g .square ts) fun p => displayRest g .square p.shape p.rest)

/-- The value of a pair, given what follows the colon, and what follows the pair. -/
def pairRest (g : Recognizer) (p : Position) (ts : List Token) : Parsed :=
  andThen (g (.pair p) .expression ts) fun
    | .op .comma :: r => g .along (.pairs p.next) r
    | .op (.closing _) :: r => taken r
    | r => if p = .first then asOther (g .along (.clauses false) r) else mismatch

/-- Pairs of a display. -/
def pairsRule (g : Recognizer) (p : Position) : List Token → Parsed
  | .op (.closing _) :: r => taken r
  | .op (.binary .power) :: r =>
    andThen (g (.spread p) (.operands []) r) fun
      | .op .comma :: r => g .along (.pairs p.next) r
      | r => closing .other r
  | ts =>
    andThen (g (.pair p) .expression ts) fun
      | .op .colon :: r => pairRest g p.next r
      | _ => mismatch

/-- The element is plain: neither behind a star nor with a name given to it. -/
def isPlainElement : List Token → Bool
  | .op (.binary .times) :: _ => false
  | .name _ :: .op .walrus :: _ => false
  | _ => true

/-- What follows a curly bracket: elements or pairs. -/
def curly (g : Recognizer) (ts : List Token) : Parsed :=
  match ts with
  | .op (.closing _) :: r => emptyBrackets g (.element .curly .first) .other r
  | .op (.binary .power) :: _ => under (g .along (.pairs .first) ts)
  | _ =>
    under (extend (firstElement g .curly ts) fun p =>
      match p.rest with
      | .op .colon :: r => if isPlainElement ts then pairRest g .first r else mismatch
      | r => displayRest g .curly p.shape r)

/-! ## Comprehensions -/

/-- What follows the word that opens a clause. -/
def behindFor? : List Token → Option (List Token)
  | .keyword .forWord :: r => some r
  | .keyword .asyncWord :: .keyword .forWord :: r => some r
  | _ => none

/-- The clauses of a comprehension. -/
def clausesRule (g : Recognizer) (inCall : Bool) (ts : List Token) : Parsed :=
  match behindFor? ts with
  | some r =>
    andThen (under (andThen (g .target .targets r) (disjunction g (.source inCall))))
      (g .along (.conditions inCall))
  | none => mismatch

/-- The conditions of a clause, and what follows them. -/
def conditionsRule (g : Recognizer) (inCall : Bool) : List Token → Parsed
  | .keyword .ifWord :: r =>
    andThen (under (disjunction g (.condition inCall) r)) (g .along (.conditions inCall))
  | .op (.closing _) :: r => taken r
  | ts => g .along (.clauses inCall) ts

/-- One target of a clause. -/
def clauseTarget (g : Recognizer) (w : Way) : List Token → Parsed
  | .op (.binary .times) :: r => raised (g w (.operands []) r)
  | ts => g w (.operands []) ts

/-- The targets of a clause. -/
def targetsRule (g : Recognizer) (ts : List Token) : Parsed :=
  extend (clauseTarget g .along ts) fun p =>
    if p.shape.isTarget then
      match p.rest with
      | .keyword .inWord :: r => taken r
      | .op .comma :: .keyword .inWord :: r => taken r
      | .op .comma :: r => g .along .targets r
      | _ => mismatch
    else mismatch

end ModelBindings.Source.Grammar
