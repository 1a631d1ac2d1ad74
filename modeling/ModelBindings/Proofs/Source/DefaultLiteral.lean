import ModelBindings.Datamodel.Load
import ModelBindings.Proofs.Outcome
import ModelBindings.Proofs.Source.Field
import ModelBindings.Proofs.Source.Literal
import ModelBindings.Proofs.Source.Token.Numeral

/-!
# What the literals of defaults stand for

A literal is told by its first character: a text starts with a quote, a number with a digit behind
at most one sign, and the two truth values are words. Any other word is a name, which stands for
whatever the module binds it to.

* `readLiteral` : the literal that a text is.
* `literalOf` : the literal that stands for a default, if any does.
* `readLiteral_ofDefault` : what is rendered for a default reads back as the literal that stands for
  it; infinite and undefined numbers have none, and are rendered as names.
* `infinite_default_is_name` : a document may hold such a number.
-/

set_option autoImplicit false

namespace ModelBindings

/-- The number is one that digits denote. -/
def Double.isFinite : Double → Bool
  | .finite _ _ _ => true
  | _ => false

namespace Source

open Scan (firstDigit readNumber IsNumeral IsFreeName)

/-! ## Reading a literal -/

/-- What a literal stands for. -/
inductive Literal where
  | truth (b : Bool)
  | text (cs : List CodePoint)
  | integer (n : Int)
  /-- A number that is not written as a decimal integer; which one is left open. -/
  | number
  deriving Repr, DecidableEq

/-- The text behind an opening quote, if the closing one is the last character. -/
def readQuoted (cs : List CodePoint) : Option (List CodePoint) :=
  match closeAt [.char '"'] cs with
  | some (content, []) => decode content
  | _ => none

/-- A number behind its sign. -/
def readNumeral (negative : Bool) : List CodePoint → Option Literal
  | [] => none
  | d :: r =>
    if Text.isDigit d && ((readNumber (firstDigit d) r).any NumberState.isComplete) then
      if r.all Text.isDigit then
        let n : Int := Text.ofDigits (d :: r)
        some (.integer (if negative then -n else n))
      else some .number
    else none

/-- The literal that a text is. -/
def readLiteral : List CodePoint → Option Literal
  | .char '"' :: r => (readQuoted r).map .text
  | .char '-' :: r => readNumeral true r
  | [.char 'T', .char 'r', .char 'u', .char 'e'] => some (.truth true)
  | [.char 'F', .char 'a', .char 'l', .char 's', .char 'e'] => some (.truth false)
  | cs => readNumeral false cs

/-- The literal that stands for a default. Functions, lists, objects and null have none, and neither
have numbers beyond the range of decimals. -/
def literalOf : Default → Option Literal
  | .value (.bool b) => some (.truth b)
  | .value (.text s) => some (.text s.toList)
  | .value (.int n) => some (.integer n)
  | .value (.double x) => if x.isFinite then some .number else none
  | _ => none

/-! ## Texts -/

theorem readLiteral_quoted (s : Text) :
    readLiteral ("\"" ++ escape s ++ "\"").toList = some (.text s.toList) := by
  have hquote : ("\"" : Text).toList = [.char '"'] := rfl
  have hcontent : (escape s).toList = escapeChars s.toList := rfl
  have hclose :
      closeAt [.char '"'] (escapeChars s.toList ++ [.char '"']) = some (escapeChars s.toList, []) :=
    (closeAt_of_isContent (Scan.isContent_escapeChars s.toList) [] :)
  rw [Text.toList_append, Text.toList_append, hquote, hcontent]
  show (readQuoted (escapeChars s.toList ++ [.char '"'])).map Literal.text = _
  rw [readQuoted, hclose]
  dsimp only
  rw [decode_escapeChars, Option.map_some]

/-! ## Numbers -/

theorem readNumeral_of_isNumeral {d : CodePoint} {r : List CodePoint} (h : IsNumeral d r)
    (negative : Bool) :
    readNumeral negative (d :: r) =
      if r.all Text.isDigit then
        some (.integer (if negative then -(Text.ofDigits (d :: r) : Int)
          else Text.ofDigits (d :: r)))
      else some .number := by
  obtain ⟨n, hread, hcomplete, -, -⟩ := h.read
  simp [readNumeral, h.first, hread, hcomplete]

/-- A number is read behind a sign or none. -/
theorem readLiteral_of_isDigit {d : CodePoint} (hd : Text.isDigit d = true) (r : List CodePoint)
    (negative : Bool) :
    readLiteral ((if negative then [.char '-'] else []) ++ d :: r)
      = readNumeral negative (d :: r) := by
  cases negative with
  | true => rfl
  | false =>
    have hmem := Text.mem_digits_of_isDigit hd
    simp only [List.mem_cons, List.not_mem_nil, or_false] at hmem
    rcases hmem with rfl | rfl | rfl | rfl | rfl | rfl | rfl | rfl | rfl | rfl <;> rfl

/-- The digits of a number read back as the number. -/
theorem readNumeral_digits {n : Nat} (h : (Text.digits n).length ≤ Json.digitLimit)
    (negative : Bool) :
    readLiteral ((if negative then [.char '-'] else []) ++ Text.digits n)
      = some (.integer (if negative then -(n : Int) else n)) := by
  obtain ⟨d, r, hdr, hnumeral⟩ := Scan.isNumeral_digits h
  have hall : r.all Text.isDigit = true := by
    refine List.all_eq_true.mpr fun c hc => (Text.isDigits_digits n).digit c ?_
    rw [hdr]
    exact List.mem_cons_of_mem d hc
  rw [hdr, readLiteral_of_isDigit hnumeral.first, readNumeral_of_isNumeral hnumeral, if_pos hall,
    ← hdr, Text.ofDigits_digits]

theorem readLiteral_integer (n : Int) (h : (Text.digits n.natAbs).length ≤ Json.digitLimit) :
    readLiteral (Text.integer n) = some (.integer n) := by
  cases n with
  | ofNat n => exact readNumeral_digits h false
  | negSucc n => exact readNumeral_digits h true

/-- A decimal notation has a point or the mark of an exponent behind its first digit. -/
theorem not_digits_of_isDecimal {d : CodePoint} {r : List CodePoint} (h : IsDecimal (d :: r))
    (hd : Text.isDigit d = true) : r.all Text.isDigit = false := by
  have hmark : .char '.' ∈ d :: r ∨ .char 'e' ∈ d :: r := by
    generalize d :: r = cs at h
    cases h with
    | plain ha hb => exact .inl (by simp)
    | exponent hd hs he => exact .inr (by simp)
    | fraction hd hb hs he => exact .inl (by simp)
  by_contra hall
  have hdigits : ∀ c ∈ d :: r, Text.isDigit c = true :=
    List.forall_mem_cons.mpr ⟨hd, List.all_eq_true.mp (by simpa using hall)⟩
  rcases hmark with hpoint | hexponent
  · exact absurd (hdigits _ hpoint) (by decide)
  · exact absurd (hdigits _ hexponent) (by decide)

theorem readLiteral_decimal {cs : List CodePoint} (h : IsDecimal cs) (negative : Bool) :
    readLiteral ((if negative then [.char '-'] else []) ++ cs) = some .number := by
  obtain ⟨d, r, rfl, hnumeral⟩ := Scan.isNumeral_decimal h
  rw [readLiteral_of_isDigit hnumeral.first, readNumeral_of_isNumeral hnumeral,
    not_digits_of_isDecimal h hnumeral.first, if_neg Bool.false_ne_true]

/-! ## Defaults -/

/-- The text is a name, which may have a sign. -/
def IsSignedName (s : Text) : Prop :=
  ∃ name, IsFreeName name ∧ (s = name ∨ s = "-" ++ name)

/-- The notation of a double is a number, or a name if no digits denote the double. -/
theorem readLiteral_double (x : Double) :
    let s := Text.ofList (Value.doubleFormat.text x)
    readLiteral s.toList = (if x.isFinite then some .number else none) ∧
      (x.isFinite = false → IsSignedName s) := by
  cases x with
  | undefined =>
    exact ⟨by decide, fun _ => ⟨"nan", by decide, .inl (by decide)⟩⟩
  | infinite negative =>
    cases negative with
    | false => exact ⟨by decide, fun _ => ⟨"inf", by decide, .inl (by decide)⟩⟩
    | true => exact ⟨by decide, fun _ => ⟨"inf", by decide, .inr (by decide)⟩⟩
  | finite negative m e =>
    obtain ⟨body, htext, hbody⟩ := DecimalFormat.text_finite Value.doubleFormat negative m e
    refine ⟨?_, fun h => nomatch h⟩
    rw [Text.toList_ofList, htext]
    exact readLiteral_decimal hbody negative

/-- **What is rendered for a default reads back as the literal that stands for it.** A number that
no digits denote has none; it is rendered as a name. -/
theorem readLiteral_ofDefault {d : Default} {s : Text} (h : ofDefault d = .ok (some s)) :
    readLiteral s.toList = literalOf d ∧
      (literalOf d = none ↔ ∃ x, d = .value (.double x) ∧ x.isFinite = false) ∧
      (literalOf d = none → IsSignedName s) := by
  cases isLiteral_of_ofDefault h with
  | bool b => cases b <;> exact ⟨by decide, by simp [literalOf], fun h => nomatch h⟩
  | text t => exact ⟨readLiteral_quoted t, by simp [literalOf], fun h => nomatch h⟩
  | integer n hn =>
    rw [Text.toList_ofList]
    exact ⟨readLiteral_integer n hn, by simp [literalOf], fun h => nomatch h⟩
  | double x =>
    obtain ⟨hread, hname⟩ := readLiteral_double x
    have hnone : literalOf (.value (.double x)) = none ↔ x.isFinite = false := by
      simp [literalOf]
    refine ⟨hread, ?_, fun h => hname (hnone.mp h)⟩
    rw [hnone]
    simp

/-- A backslash in front of a letter is no escape, and a line end becomes one. -/
theorem readLiteral_backslashes :
    ofDefault (.value (.text "\\n\"\n")) = .ok (some "\"\\\\n\\\"\\n\"") ∧
      readLiteral ("\"\\\\n\\\"\\n\"" : Text).toList
        = some (.text ("\\n\"\n" : Text).toList) := by
  have hshown : "\"" ++ escape "\\n\"\n" ++ "\"" = "\"\\\\n\\\"\\n\"" := by decide +kernel
  have hdefault : ofDefault (.value (.text "\\n\"\n")) = .ok (some "\"\\\\n\\\"\\n\"") :=
    congrArg (fun s => Except.ok (some s)) hshown
  exact ⟨hdefault, (readLiteral_ofDefault hdefault).1⟩

/-- A field with a default beyond the range of doubles. -/
def beyondRange : Text :=
  "\x7b\"models\": [\x7b\"name\": \"Sensor\", \"fields\": [\x7b\"name\": \"ceiling\", "
    ++ "\"type\": \"Float\", \"hasDefaultValue\": true, \"default\": 1e999\x7d]\x7d]\x7d"

/-- A document may hold a number beyond the range of doubles, which is rendered as a name. -/
theorem infinite_default_is_name :
    let t := (FileTree.empty "work").put ((Location.root.child "work").child "schema.json")
      (.file (.text beyondRange))
    ∃ d, (Datamodel.load t "schema.json").result = .ok d ∧ ∃ m ∈ d.models, ∃ f ∈ m.fields,
      ofDefault f.default = .ok (some "inf") ∧ readLiteral ("inf" : Text).toList = none ∧
        IsFreeName "inf" := by
  intro t
  have hshown : (Datamodel.load t "schema.json").result.toOption.map
      (fun d => d.models.map fun m => m.fields.map fun f => (ofDefault f.default).toOption)
        = some [[some (some ("inf" : Text))]] := by decide +kernel
  obtain ⟨d, hd, hmodels⟩ := Option.map_eq_some_iff.mp hshown
  obtain ⟨m, models, hm, hfields, -⟩ := List.map_eq_cons_iff.mp hmodels
  obtain ⟨f, fields, hf, hdefault, -⟩ := List.map_eq_cons_iff.mp hfields
  refine ⟨d, toOption_eq_some.mp hd, m, by simp [hm], f, by simp [hf], toOption_eq_some.mp hdefault,
    by decide, by decide⟩

end Source

end ModelBindings
