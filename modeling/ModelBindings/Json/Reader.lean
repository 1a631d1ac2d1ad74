import ModelBindings.Value
import ModelBindings.Text.Digits

/-!
# Reading JSON

A reader of JSON texts that also takes `NaN`, `Infinity` and `-Infinity`. A fault carries the text
that was left where it was found, from which its line, column and offset follow. A repeated member
name keeps its first place and takes the last value. An integer may have 4300 digits, and lists and
objects may be nested 985 deep.

* `ReadError.message` : the text of a fault, with its place.
* `Json.read` : a whole text.
-/

set_option autoImplicit false

namespace ModelBindings.Json

/-- What can be wrong with a JSON text. -/
inductive Reason where
  | byteOrderMark
  | expectingValue
  | expectingName
  | expectingColon
  | expectingComma
  | extraData
  | unterminated
  | controlCharacter
  | escape
  | unicodeEscape
  deriving Repr, DecidableEq

/-- The words for a fault. -/
def Reason.words : Reason → Text
  | .byteOrderMark => "Unexpected UTF-8 BOM (decode using utf-8-sig)"
  | .expectingValue => "Expecting value"
  | .expectingName => "Expecting property name enclosed in double quotes"
  | .expectingColon => "Expecting ':' delimiter"
  | .expectingComma => "Expecting ',' delimiter"
  | .extraData => "Extra data"
  | .unterminated => "Unterminated string starting at"
  | .controlCharacter => "Invalid control character at"
  | .escape => "Invalid \\escape"
  | .unicodeEscape => "Invalid \\uXXXX escape"

/-- A fault of a JSON text: malformed at some place, an integer with too many digits, or lists and
objects nested too deep. -/
inductive ReadError where
  | malformed (reason : Reason) (offset line column : Nat)
  | tooManyDigits
  | tooDeep
  deriving Repr, DecidableEq

/-- The text of a fault. -/
def ReadError.message : ReadError → Text
  | .malformed reason offset line column =>
    reason.words ++ ": line " ++ toString line ++ " column " ++ toString column
      ++ " (char " ++ toString offset ++ ")"
  | .tooManyDigits => "Exceeds the limit (4300 digits) for integer string conversion"
  | .tooDeep => "maximum recursion depth exceeded"

/-- A fault while reading, with the text that was left at its place. -/
inductive Stop where
  | malformed (reason : Reason) (rest : List CodePoint)
  | tooManyDigits
  | tooDeep
  deriving Repr, DecidableEq

/-- What a reading step returns: its result and the text behind it. -/
abbrev Step (α : Type) := Except Stop (α × List CodePoint)

/-- The digits an integer may have. -/
def digitLimit : Nat := 4300

/-- Lists and objects may be nested this deep. -/
def nestingLimit : Nat := 985

/-- White space between tokens. -/
def isSpace (c : CodePoint) : Bool :=
  c == ' ' || c == '\t' || c == '\n' || c == '\r'

/-- The text behind white space. -/
def skip (cs : List CodePoint) : List CodePoint :=
  cs.dropWhile isSpace

/-! ## Texts -/

/-- Four hexadecimal digits. -/
def hex4? : List CodePoint → Option (Nat × List CodePoint)
  | a :: b :: c :: d :: r => do
    let a ← Text.hexValue? a
    let b ← Text.hexValue? b
    let c ← Text.hexValue? c
    let d ← Text.hexValue? d
    some (((a * 16 + b) * 16 + c) * 16 + d, r)
  | _ => none

/-- The number of the first half of a surrogate pair. -/
def isHighSurrogate (n : Nat) : Bool :=
  decide (0xd800 ≤ n ∧ n ≤ 0xdbff)

/-- The number of the second half of a surrogate pair. -/
def isLowSurrogate (n : Nat) : Bool :=
  decide (0xdc00 ≤ n ∧ n ≤ 0xdfff)

/-- The character that a one-letter escape stands for. -/
def simpleEscape? (c : CodePoint) : Option CodePoint :=
  if c = '"' then some '"'
  else if c = '\\' then some '\\'
  else if c = '/' then some '/'
  else if c = 'b' then some '\x08'
  else if c = 'f' then some '\x0c'
  else if c = 'n' then some '\n'
  else if c = 'r' then some '\r'
  else if c = 't' then some '\t'
  else none

/-- The fault of a bad `\u` escape, given the text behind the `u`; it is reported at the `u`. -/
def badUnicodeEscape (cs : List CodePoint) : Stop :=
  .malformed .unicodeEscape ('u' :: cs)

/-- The code point of a `\u` escape, given the text behind the `u`. A first half takes the second
half behind it along; half a pair on its own stands for itself. Some text has to follow the
digits. -/
def unicodeEscape (cs : List CodePoint) : Step CodePoint :=
  if (cs.drop 4).isEmpty then .error (badUnicodeEscape cs)
  else
    match hex4? cs with
    | none => .error (badUnicodeEscape cs)
    | some (n, r) =>
      match r with
      | .char '\\' :: .char 'u' :: r2 =>
        if isHighSurrogate n && !(r2.drop 4).isEmpty then
          match hex4? r2 with
          | none => .error (badUnicodeEscape r2)
          | some (low, r3) =>
            if isLowSurrogate low then
              .ok (CodePoint.ofNat (0x10000 + (n - 0xd800) * 0x400 + (low - 0xdc00)), r3)
            else .ok (CodePoint.ofNat n, r)
        else .ok (CodePoint.ofNat n, r)
      | _ => .ok (CodePoint.ofNat n, r)

/-- One escape, given the text from its backslash on (`whole`) and behind it. -/
def escape (start whole : List CodePoint) : List CodePoint → Step CodePoint
  | [] => .error (.malformed .unterminated start)
  | .char 'u' :: r => unicodeEscape r
  | e :: r =>
    match simpleEscape? e with
    | some d => .ok (d, r)
    | none => .error (.malformed .escape whole)

/-- The rest of a text up to its closing quote. `start` is the text from the opening quote on;
`fuel` bounds the characters still to be read. -/
def textBody (start : List CodePoint) : Nat → List CodePoint → Step (List CodePoint)
  | 0, _ => .error (.malformed .unterminated start)
  | _ + 1, [] => .error (.malformed .unterminated start)
  | fuel + 1, c :: r =>
    if c = '"' then .ok ([], r)
    else if c = '\\' then
      match escape start (c :: r) r with
      | .error s => .error s
      | .ok (d, r2) =>
        match textBody start fuel r2 with
        | .error s => .error s
        | .ok (ds, rest) => .ok (d :: ds, rest)
    else if c.toNat < 0x20 then .error (.malformed .controlCharacter (c :: r))
    else
      match textBody start fuel r with
      | .error s => .error s
      | .ok (ds, rest) => .ok (c :: ds, rest)

/-- A text, given what follows its opening quote and a bound of the characters there. -/
def text (fuel : Nat) (behind : List CodePoint) : Step Text :=
  match textBody ('"' :: behind) fuel behind with
  | .error s => .error s
  | .ok (ds, rest) => .ok (Text.ofList ds, rest)

/-! ## Numbers -/

/-- The parts of a number: digits before the point, behind it, and the exponent part. -/
structure NumberParts where
  whole : List CodePoint
  fraction : List CodePoint
  exponent : Option (Bool × List CodePoint)

/-- The digits before the point: a lone zero or digits without zero in front. -/
def wholePart : List CodePoint → Option (List CodePoint × List CodePoint)
  | [] => none
  | c :: r =>
    if c = '0' then some (['0'], r)
    else if Text.isDigit c then some (c :: r.takeWhile Text.isDigit, r.dropWhile Text.isDigit)
    else none

/-- The digits behind a point, if there are any. -/
def fractionPart : List CodePoint → List CodePoint × List CodePoint
  | .char '.' :: c :: r =>
    if Text.isDigit c then (c :: r.takeWhile Text.isDigit, r.dropWhile Text.isDigit)
    else ([], '.' :: c :: r)
  | cs => ([], cs)

/-- The digits of an exponent behind its mark. -/
def exponentDigits (negative : Bool) (cs : List CodePoint) :
    Option ((Bool × List CodePoint) × List CodePoint) :=
  match cs.takeWhile Text.isDigit with
  | [] => none
  | ds => some ((negative, ds), cs.dropWhile Text.isDigit)

/-- The sign and digits of an exponent part, if there is one. -/
def exponentPart (cs : List CodePoint) : Option (Bool × List CodePoint) × List CodePoint :=
  match cs with
  | e :: r =>
    if e = 'e' ∨ e = 'E' then
      let found := match r with
        | .char '+' :: r2 => exponentDigits false r2
        | .char '-' :: r2 => exponentDigits true r2
        | _ => exponentDigits false r
      match found with
      | some (x, rest) => (some x, rest)
      | none => (none, cs)
    else (none, cs)
  | [] => (none, [])

/-- The value of a number. -/
def NumberParts.value (negative : Bool) (p : NumberParts) : Except Stop Value :=
  if p.fraction.isEmpty && p.exponent.isNone then
    if digitLimit < p.whole.length then .error .tooManyDigits
    else
      let n : Int := Text.ofDigits p.whole
      .ok (.int (if negative then -n else n))
  else
    let ds := p.whole ++ p.fraction
    let shift : Int := match p.exponent with
      | none => 0
      | some (s, xs) => if s then -(Text.ofDigits xs : Int) else Text.ofDigits xs
    .ok (.double (Double.ofDecimal negative (Text.ofDigits ds) ds.length
      (shift - p.fraction.length)))

/-- A number; `start` is the text from its sign on. -/
def number (negative : Bool) (start cs : List CodePoint) : Step Value :=
  match wholePart cs with
  | none => .error (.malformed .expectingValue start)
  | some (whole, r) =>
    let (fraction, r2) := fractionPart r
    let (exponent, r3) := exponentPart r2
    match NumberParts.value negative ⟨whole, fraction, exponent⟩ with
    | .error s => .error s
    | .ok v => .ok (v, r3)

/-! ## Values -/

/-- The text behind a word that it starts with. -/
def after? : List CodePoint → List CodePoint → Option (List CodePoint)
  | [], cs => some cs
  | _ :: _, [] => none
  | w :: ws, c :: cs => if w = c then after? ws cs else none

/-- The words that stand for values. -/
def wordValues : List (List CodePoint × Value) :=
  [(("null" : Text).toList, .null), (("true" : Text).toList, .bool true),
   (("false" : Text).toList, .bool false),
   (("NaN" : Text).toList, .double .undefined),
   (("Infinity" : Text).toList, .double (.infinite false)),
   (("-Infinity" : Text).toList, .double (.infinite true))]

/-- A value given by a word. -/
def wordValue? (cs : List CodePoint) : Option (Value × List CodePoint) :=
  wordValues.findSome? fun (w, v) => (after? w cs).map (v, ·)

/-- A value that is neither text, list nor object. -/
def plainValue (cs : List CodePoint) : Step Value :=
  match wordValue? cs with
  | some r => .ok r
  | none =>
    match cs with
    | .char '-' :: r => number true cs r
    | _ => number false cs cs

mutual

/-- A value at the start of the text. The bound is at least twice the characters there, so that it
is also one for the texts among them; `depth` counts the lists and objects that may still be
opened. -/
def value (depth : Nat) : Nat → List CodePoint → Step Value
  | 0, cs => .error (.malformed .expectingValue cs)
  | fuel + 1, .char '"' :: r =>
    match text fuel r with
    | .error s => .error s
    | .ok (s, rest) => .ok (.text s, rest)
  | fuel + 1, .char '[' :: r =>
    match depth with
    | 0 => .error .tooDeep
    | depth + 1 =>
      match skip r with
      | .char ']' :: rest => .ok (.list [], rest)
      | cs =>
        match items depth fuel cs with
        | .error s => .error s
        | .ok (vs, rest) => .ok (.list vs, rest)
  | fuel + 1, .char '\x7b' :: r =>
    match depth with
    | 0 => .error .tooDeep
    | depth + 1 =>
      match skip r with
      | .char '\x7d' :: rest => .ok (.object [], rest)
      | cs =>
        match members depth fuel cs with
        | .error s => .error s
        | .ok (ms, rest) => .ok (.object (Association.ofList ms), rest)
  | _ + 1, cs => plainValue cs

/-- The items of a list, up to its closing bracket. -/
def items (depth : Nat) : Nat → List CodePoint → Step (List Value)
  | 0, cs => .error (.malformed .expectingValue cs)
  | fuel + 1, cs =>
    match value depth fuel cs with
    | .error s => .error s
    | .ok (v, r) =>
      match skip r with
      | .char ']' :: rest => .ok ([v], rest)
      | .char ',' :: r2 =>
        match items depth fuel (skip r2) with
        | .error s => .error s
        | .ok (vs, rest) => .ok (v :: vs, rest)
      | r2 => .error (.malformed .expectingComma r2)

/-- The members of an object, up to its closing brace. -/
def members (depth : Nat) : Nat → List CodePoint → Step (List (Text × Value))
  | 0, cs => .error (.malformed .expectingName cs)
  | fuel + 1, .char '"' :: r =>
    match text fuel r with
    | .error s => .error s
    | .ok (k, r1) =>
      match skip r1 with
      | .char ':' :: r2 =>
        match value depth fuel (skip r2) with
        | .error s => .error s
        | .ok (v, r3) =>
          match skip r3 with
          | .char '\x7d' :: rest => .ok ([(k, v)], rest)
          | .char ',' :: r4 =>
            match members depth fuel (skip r4) with
            | .error s => .error s
            | .ok (ms, rest) => .ok ((k, v) :: ms, rest)
          | r4 => .error (.malformed .expectingComma r4)
      | r2 => .error (.malformed .expectingColon r2)
  | _ + 1, cs => .error (.malformed .expectingName cs)

end

/-- A whole text: one value with white space around it. -/
def document (cs : List CodePoint) : Except Stop Value :=
  match value nestingLimit (2 * cs.length + 2) (skip cs) with
  | .error s => .error s
  | .ok (v, r) =>
    match skip r with
    | [] => .ok v
    | rest => .error (.malformed .extraData rest)

/-! ## Places -/

/-- The fault with its place in the whole text: offset from zero, line and column from one. -/
def Stop.locate (whole : List CodePoint) : Stop → ReadError
  | .tooManyDigits => .tooManyDigits
  | .tooDeep => .tooDeep
  | .malformed reason rest =>
    let offset := whole.length - rest.length
    let before := whole.take offset
    let column := (before.reverse.takeWhile (· != .char '\n')).length + 1
    .malformed reason offset (before.count (.char '\n') + 1) column

/-- Read a JSON text. -/
def read (cs : List CodePoint) : Except ReadError Value :=
  match cs with
  | .char '\ufeff' :: _ => .error (.malformed .byteOrderMark 0 1 1)
  | _ =>
    match document cs with
    | .error s => .error (s.locate cs)
    | .ok v => .ok v

end ModelBindings.Json
