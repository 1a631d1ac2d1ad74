import ModelBindings.Source.Grammar.Statement

/-!
# Patterns

The rules for the patterns of cases: literals, names, values behind points, sequences, mappings and
classes, with alternatives and names for what was matched.
-/

set_option autoImplicit false

namespace ModelBindings.Source.Grammar

/-- The name that matches everything and keeps nothing. -/
def wildcard : Text := "_"

/-- No further pattern of a row follows. -/
def endsPatterns : List Token → Bool
  | .op (.closing _) :: _ => true
  | .op .colon :: _ => true
  | .keyword .ifWord :: _ => true
  | _ => false

/-- A pattern of a row, which may be a name behind a star. -/
def patternItem (g : Recognizer) : List Token → Parsed
  | .op (.binary .times) :: .name _ :: r => leaf (.starred false) r
  | ts => g .along .pattern ts

/-- What follows a comma between patterns. -/
def patternsEnd (g : Recognizer) (ts : List Token) : Parsed :=
  if endsPatterns ts then taken ts else g .along .patterns ts

/-- Further patterns of a row. -/
def patternsRule (g : Recognizer) (ts : List Token) : Parsed :=
  andThen (patternItem g ts) fun
    | .op .comma :: r => patternsEnd g r
    | r => taken r

/-- A pattern, or a row of them; one behind a star does not stand alone. -/
def patternRow (g : Recognizer) (ts : List Token) : Parsed :=
  extend (patternItem g ts) fun p =>
    match p.rest with
    | .op .comma :: r => patternsEnd g r
    | r => if p.shape.isStarred then mismatch else taken r

/-! ## Literals -/

/-- A number, or a real number with an imaginary one added or taken away. -/
def numberPattern : List Token → Parsed
  | .number i :: .op (.binary .plus) :: .number j :: r => if !i && j then taken r else mismatch
  | .number i :: .op (.binary .minus) :: .number j :: r => if !i && j then taken r else mismatch
  | .number _ :: .op (.binary .plus) :: _ => mismatch
  | .number _ :: .op (.binary .minus) :: _ => mismatch
  | .number _ :: r => taken r
  | _ => mismatch

/-- A literal. -/
def literalPattern (g : Recognizer) : List Token → Parsed
  | .op (.binary .minus) :: r => numberPattern r
  | .text bytes fields :: r => texts g bytes (.text bytes fields :: r)
  | .keyword .noneWord :: r => taken r
  | .keyword .trueWord :: r => taken r
  | .keyword .falseWord :: r => taken r
  | ts => numberPattern ts

/-! ## Names, classes, sequences and mappings -/

/-- What follows a name with points: the patterns of a class, or nothing. -/
def behindName (g : Recognizer) : List Token → Parsed
  | .op (.opening _) :: r => g .along (.patternArguments false) r
  | .op .dot :: _ => mismatch
  | .op .assign :: _ => mismatch
  | ts => taken ts

/-- What follows a pattern of a class. -/
def patternArgumentEnd (g : Recognizer) (named : Bool) : List Token → Parsed
  | .op .comma :: r => g .along (.patternArguments named) r
  | r => closing .other r

/-- The patterns of a class; named ones stand last. -/
def patternArgumentsRule (g : Recognizer) (named : Bool) : List Token → Parsed
  | .op (.closing _) :: r => taken r
  | .name _ :: .op .assign :: r => andThen (g .along .pattern r) (patternArgumentEnd g true)
  | ts => if named then mismatch else andThen (g .along .pattern ts) (patternArgumentEnd g false)

/-- What follows a round bracket: a pattern, or a row of them. -/
def roundPattern (g : Recognizer) : List Token → Parsed
  | .op (.closing _) :: r => taken r
  | ts => andThen (patternRow g ts) (closing .other)

/-- What follows a square bracket: a row of patterns. -/
def squarePattern (g : Recognizer) : List Token → Parsed
  | .op (.closing _) :: r => taken r
  | ts => andThen (g .along .patterns ts) (closing .other)

/-- A key of a mapping: a literal, or a name with points. -/
def mappingKey (g : Recognizer) : List Token → Parsed
  | .name _ :: .op .dot :: .name _ :: r => taken (dottedRest r)
  | ts => literalPattern g ts

/-- What follows the name for the rest of a mapping. -/
def mappingEnd : List Token → Parsed
  | .op .comma :: r => closing .other r
  | r => closing .other r

/-- The keys and patterns of a mapping; a name for the rest stands last. -/
def patternPairsRule (g : Recognizer) : List Token → Parsed
  | .op (.closing _) :: r => taken r
  | .op (.binary .power) :: .name s :: r => if s = wildcard then mismatch else mappingEnd r
  | ts =>
    andThen (mappingKey g ts) fun
      | .op .colon :: r =>
        andThen (g .along .pattern r) fun
          | .op .comma :: r => g .along .patternPairs r
          | r => closing .other r
      | _ => mismatch

/-! ## Patterns -/

/-- A pattern without alternatives. -/
def closedPattern (g : Recognizer) : List Token → Parsed
  | .name s :: r => if s = wildcard then taken r else behindName g (dottedRest r)
  | .op (.opening .round) :: r => roundPattern g r
  | .op (.opening .square) :: r => squarePattern g r
  | .op (.opening .curly) :: r => g .along .patternPairs r
  | ts => literalPattern g ts

/-- Patterns of which one has to match. -/
def alternativesRule (g : Recognizer) (ts : List Token) : Parsed :=
  andThen (under (closedPattern g ts)) fun
    | .op (.binary .bitOr) :: r => g .along .alternatives r
    | r => taken r

/-- A pattern, and a name for what it matches. -/
def patternRule (g : Recognizer) (ts : List Token) : Parsed :=
  andThen (g .along .alternatives ts) fun
    | .keyword .asWord :: .name s :: r => if s = wildcard then mismatch else taken r
    | .keyword .asWord :: _ => mismatch
    | r => taken r

end ModelBindings.Source.Grammar
