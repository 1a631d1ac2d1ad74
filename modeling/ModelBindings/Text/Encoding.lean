import ModelBindings.Text
import ModelBindings.Text.Quoted

/-!
# Texts as bytes

A text is put into bytes by UTF-8, where a surrogate has no form. The name of a file may be any
bytes, though: in it the surrogates from `0xdc80` to `0xdcff` stand for single bytes that belong to
no character.

* `EncodingFault` : surrogates without form, and where they stand.
* `Text.encodingFault?` : what keeps a text from being put into bytes.
* `Text.nameFault?` : what keeps a text from being the name of a file.
* `Text.byteSize` : the number of bytes.
* `Text.printed` : the string that is put out for a text.
-/

set_option autoImplicit false

namespace ModelBindings

/-- Surrogates in a row that have no form in bytes: the first of them, the number of code points
before it, and how many they are. -/
structure EncodingFault where
  first : CodePoint
  position : Nat
  count : Nat
  deriving Repr, DecidableEq

/-- The text of a fault. -/
def EncodingFault.message (e : EncodingFault) : Text :=
  "'utf-8' codec can't encode character"
    ++ (if e.count = 1 then
      " '" ++ Text.ofList (Text.numbered e.first) ++ "' in position " ++ toString e.position
    else
      "s in position " ++ toString e.position ++ "-" ++ toString (e.position + e.count - 1))
    ++ ": surrogates not allowed"

/-- The surrogate stands for a byte in the name of a file. -/
def CodePoint.isByte (c : CodePoint) : Bool :=
  decide (0xdc80 ≤ c.toNat ∧ c.toNat ≤ 0xdcff)

/-- The number of bytes of a code point. -/
def CodePoint.byteSize : CodePoint → Nat
  | .char c => c.utf8Size
  | .surrogate n => if (surrogate n).isByte then 1 else 3

namespace Text

/-- The first surrogates in a row that have no form, from one on that stands for no byte. -/
def faultFrom (standsForByte : CodePoint → Bool) (position : Nat) :
    List CodePoint → Option EncodingFault
  | [] => none
  | c :: r =>
    if c.isSurrogate && !standsForByte c then
      some ⟨c, position, (r.takeWhile CodePoint.isSurrogate).length + 1⟩
    else faultFrom standsForByte (position + 1) r

/-- What keeps a text from being put into bytes. -/
def encodingFault? (s : Text) : Option EncodingFault :=
  faultFrom (fun _ => false) 0 s.toList

/-- What keeps a text from being the name of a file. -/
def nameFault? (s : Text) : Option EncodingFault :=
  faultFrom CodePoint.isByte 0 s.toList

/-- The string that is put out for a text, with surrogates by their numbers. -/
def printed (s : Text) : String :=
  let shown := s.toList.flatMap fun c => if c.isSurrogate then numbered c else [c]
  String.ofList (shown.filterMap CodePoint.char?)

/-- The number of bytes of a text. -/
def byteSize (s : Text) : Nat :=
  s.toList.foldr (fun c n => c.byteSize + n) 0

theorem byteSize_cons (c : CodePoint) (cs : List CodePoint) :
    (ofList (c :: cs)).byteSize = c.byteSize + (ofList cs).byteSize := rfl

@[simp] theorem byteSize_append (s t : Text) : (s ++ t).byteSize = s.byteSize + t.byteSize := by
  obtain ⟨cs⟩ := s
  induction cs with
  | nil => exact (Nat.zero_add _).symm
  | cons c cs ih =>
    calc (ofList (c :: cs) ++ t).byteSize
        = c.byteSize + (ofList cs ++ t).byteSize := rfl
      _ = (ofList (c :: cs)).byteSize + t.byteSize := by rw [ih, byteSize_cons, Nat.add_assoc]

theorem faultFrom_eq_none_iff {f : CodePoint → Bool} {n : Nat} {cs : List CodePoint} :
    faultFrom f n cs = none ↔ ∀ c ∈ cs, c.isSurrogate = true → f c = true := by
  induction cs generalizing n with
  | nil => simp [faultFrom]
  | cons c r ih =>
    unfold faultFrom
    split <;> rename_i h
    · simp_all
    · simp_all

/-- A text can be put into bytes if and only if it holds no surrogate. -/
theorem encodingFault?_eq_none_iff {s : Text} :
    s.encodingFault? = none ↔ ∀ c ∈ s.toList, c.isSurrogate = false := by
  simp [encodingFault?, faultFrom_eq_none_iff]

/-- A text can be the name of a file if and only if its surrogates stand for bytes. -/
theorem nameFault?_eq_none_iff {s : Text} :
    s.nameFault? = none ↔ ∀ c ∈ s.toList, c.isSurrogate = true → c.isByte = true :=
  faultFrom_eq_none_iff

end Text

end ModelBindings
