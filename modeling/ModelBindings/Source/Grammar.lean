import ModelBindings.Source.Grammar.Compound

/-!
# Valid source

A source text is valid when its tokens are statements of the grammar. The rules refer to each
other; each is followed to a depth that no text of its length needs. A text may neither lead too far
down while it is read nor stand for too tall a tree.

* `Grammar.recognize` : the rules, followed to a depth.
* `judge` : whether a text is valid, and what keeps it from being read.
-/

set_option autoImplicit false

namespace ModelBindings.Source

namespace Grammar

/-- Each rule in terms of a recogniser for all of them. -/
def follow (g : Recognizer) : Rule → List Token → Parsed
  | .nothing => taken
  | .expression => expressionRule g
  | .disjuncts => disjunctsRule g
  | .conjuncts => conjunctsRule g
  | .denial => denialRule g
  | .comparisons => comparisonsRule g
  | .operands waiting => operandsRule g waiting
  | .factor => factorRule g
  | .trailers s annotatable height => trailersRule g s annotatable height
  | .row => rowRule g
  | .elements b p => elementsRule g b p
  | .pairs p => pairsRule g p
  | .clauses inCall => clausesRule g inCall
  | .conditions inCall => conditionsRule g inCall
  | .targets => targetsRule g
  | .subscripts p => subscriptsRule g p
  | .arguments p => argumentsRule g p
  | .parameters p => parametersRule g p
  | .values => valuesRule g
  | .modules => modulesRule g
  | .imported bracketed => importedRule g bracketed
  | .line => lineRule g
  | .statements => statementsRule g
  | .branches => branchesRule g
  | .handlers groups => handlersRule g groups
  | .items bracketed => itemsRule g bracketed
  | .decorated => decoratedRule g
  | .subject => subjectRule g
  | .cases => casesRule g
  | .pattern => patternRule g
  | .alternatives => alternativesRule g
  | .patterns => patternsRule g
  | .patternArguments named => patternArgumentsRule g named
  | .patternPairs => patternPairsRule g

/-- The rules, followed to a depth from a level on; at the first reading or again. -/
def recognize (again : Bool) : Nat → Nat → Recognizer
  | 0, _ => fun _ _ _ => mismatch
  | depth + 1, level => fun w rule ts =>
    if levelLimit < w.lead again level then .error .tooDeep
    else follow (recognize again depth (w.lead again level)) rule ts

/-- A depth that suffices for a text of a number of characters: between two tokens that are taken,
fewer than eight rules are followed, and a field of a formatted text is shorter than the text. -/
def depthFor (size : Nat) : Nat := 8 * size + 8

/-- Read the tokens of a text of a number of characters. -/
def read (again : Bool) (size : Nat) (ts : List Token) : Parsed :=
  if ts.isEmpty then taken []
  else recognize again (depthFor size) (startLevel again) .along .statements ts

/-- The tokens lead too far down to be read again. -/
def isTooDeepAgain (size : Nat) (ts : List Token) : Bool :=
  match read true size ts with
  | .error .tooDeep => true
  | _ => false

/-- The tallest tree that a text may stand for. -/
def heightLimit : Nat := 2955

end Grammar

/-- What a text is taken for. -/
inductive Verdict where
  | valid
  | invalid
  /-- It leads too far down to be read. -/
  | tooDeep
  /-- It is valid, but stands for too tall a tree. -/
  | tooTall
  deriving Repr, DecidableEq

/-- The verdict on tokens that are refused. All tokens of a text are read again; this may lead too
far down, too. -/
def judgeRefused (size : Nat) (s : Scanned) (e : Grammar.Refusal) : Verdict :=
  if e = .tooDeep then .tooDeep
  else if s.complete && Grammar.isTooDeepAgain size s.tokens then .tooDeep
  else .invalid

/-- The verdict on the tokens of a text of a number of characters. -/
def judgeTokens (size : Nat) (s : Scanned) : Verdict :=
  match Grammar.read false size s.tokens with
  | .error e => judgeRefused size s e
  | .ok p =>
    if !s.complete || !p.rest.isEmpty then .invalid
    else if Grammar.heightLimit < p.height then .tooTall
    else .valid

/-- The verdict on a text. -/
def judge (text : Text) : Verdict :=
  judgeTokens text.length (Token.scan text.toList)

end ModelBindings.Source
