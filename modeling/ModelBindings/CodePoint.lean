/-!
# Code points

A code point is a character or a surrogate. A surrogate is half of the pair of 16-bit units by which
a character beyond the first 65536 may be spelled; on its own it is no character, but a text that
was put together from units or from bytes may hold it.

* `CodePoint` : the code points.
* `CodePoint.toNat`, `CodePoint.ofNat` : the number of a code point, and the code point of a number.
* `CodePoint.isAlpha` and its kin : the ASCII classes of characters; surrogates are in none.
-/

set_option autoImplicit false

namespace ModelBindings

/-- A code point. -/
inductive CodePoint where
  | char (c : Char)
  /-- The surrogate so many places behind the first one. -/
  | surrogate (n : Fin 0x800)
  deriving Repr, Inhabited

namespace CodePoint

instance : Coe Char CodePoint := ⟨.char⟩

/-! ## Numbers -/

/-- The number of a code point. -/
def toNat : CodePoint → Nat
  | .char c => c.toNat
  | .surrogate n => 0xd800 + n

/-- The code point of a number below `0x110000`. -/
def ofNat (n : Nat) : CodePoint :=
  if h : 0xd800 ≤ n ∧ n < 0xe000 then .surrogate ⟨n - 0xd800, by omega⟩ else .char (.ofNat n)

@[simp] theorem toNat_char (c : Char) : (char c).toNat = c.toNat := rfl

@[simp] theorem toNat_surrogate (n : Fin 0x800) : (surrogate n).toNat = 0xd800 + n := rfl

/-- No character has the number of a surrogate. -/
theorem not_surrogate_toNat (c : Char) : ¬ (0xd800 ≤ c.toNat ∧ c.toNat < 0xe000) := by
  have h : c.toNat < 0xd800 ∨ 0xdfff < c.toNat ∧ c.toNat < 0x110000 := c.valid
  omega

theorem toNat_lt (c : CodePoint) : c.toNat < 0x110000 := by
  cases c with
  | char c =>
    have h : c.toNat < 0xd800 ∨ 0xdfff < c.toNat ∧ c.toNat < 0x110000 := c.valid
    rw [toNat_char]
    omega
  | surrogate n =>
    rw [toNat_surrogate]
    omega

@[simp] theorem ofNat_toNat (c : CodePoint) : ofNat c.toNat = c := by
  cases c with
  | char c => rw [toNat_char, ofNat, dif_neg (not_surrogate_toNat c), Char.ofNat_toNat]
  | surrogate n =>
    have hn : 0xd800 ≤ 0xd800 + (n : Nat) ∧ 0xd800 + (n : Nat) < 0xe000 := by omega
    rw [toNat_surrogate, ofNat, dif_pos hn]
    exact congrArg surrogate (Fin.ext (Nat.add_sub_cancel_left ..))

theorem toNat_ofNat {n : Nat} (h : n < 0x110000) : (ofNat n).toNat = n := by
  unfold ofNat
  split
  · rename_i hn
    exact Nat.add_sub_cancel' hn.1
  · have hvalid : n.isValidChar := by
      unfold Nat.isValidChar
      omega
    rw [toNat_char, Char.ofNat, dif_pos hvalid]
    rfl

theorem toNat_inj {c d : CodePoint} : c.toNat = d.toNat ↔ c = d :=
  ⟨fun h => by rw [← ofNat_toNat c, h, ofNat_toNat], fun h => h ▸ rfl⟩

-- Numbers are compared in one step, which keeps the texts of whole files decidable.
instance : DecidableEq CodePoint := fun _ _ => decidable_of_iff _ toNat_inj

/-! ## Order -/

instance : LE CodePoint := ⟨fun c d => c.toNat ≤ d.toNat⟩

instance : LT CodePoint := ⟨fun c d => c.toNat < d.toNat⟩

theorem le_def {c d : CodePoint} : c ≤ d ↔ c.toNat ≤ d.toNat := Iff.rfl

instance (c d : CodePoint) : Decidable (c ≤ d) := inferInstanceAs (Decidable (c.toNat ≤ d.toNat))

instance (c d : CodePoint) : Decidable (c < d) := inferInstanceAs (Decidable (c.toNat < d.toNat))

/-! ## ASCII classes -/

/-- The code point is a character of a class. -/
def isIn (p : Char → Bool) : CodePoint → Bool
  | .char c => p c
  | .surrogate _ => false

theorem isIn_or {p q : Char → Bool} {c : CodePoint} :
    c.isIn (fun d => p d || q d) = true ↔ c.isIn p = true ∨ c.isIn q = true := by
  cases c <;> simp [isIn]

/-- A class of characters between two numbers before those of the surrogates. -/
theorem isIn_iff_toNat {p : Char → Bool} {a b : Nat} {c : CodePoint}
    (h : ∀ d : Char, p d = true ↔ a ≤ d.toNat ∧ d.toNat ≤ b) (hb : b < 0xd800) :
    c.isIn p = true ↔ a ≤ c.toNat ∧ c.toNat ≤ b := by
  cases c with
  | char d => exact h d
  | surrogate n =>
    simp only [isIn, toNat_surrogate, Bool.false_eq_true, false_iff]
    omega

/-- A capital letter. -/
def isUpper (c : CodePoint) : Bool := c.isIn Char.isUpper

/-- A small letter. -/
def isLower (c : CodePoint) : Bool := c.isIn Char.isLower

/-- A letter. -/
def isAlpha (c : CodePoint) : Bool := c.isIn Char.isAlpha

/-- A letter or a digit. -/
def isAlphanum (c : CodePoint) : Bool := c.isIn Char.isAlphanum

/-- The code point with a character changed; a surrogate stays. -/
def mapChar (f : Char → Char) : CodePoint → CodePoint
  | .char c => .char (f c)
  | .surrogate n => .surrogate n

/-- A capital letter as a small one. -/
def toLower (c : CodePoint) : CodePoint := c.mapChar Char.toLower

/-- A small letter as a capital one. -/
def toUpper (c : CodePoint) : CodePoint := c.mapChar Char.toUpper

/-! ## Surrogates -/

/-- The character that a code point is. -/
def char? : CodePoint → Option Char
  | .char c => some c
  | .surrogate _ => none

/-- A surrogate is half of a pair. -/
def isSurrogate : CodePoint → Bool
  | .char _ => false
  | .surrogate _ => true

@[simp] theorem isSurrogate_char (c : Char) : (char c).isSurrogate = false := rfl

@[simp] theorem isSurrogate_surrogate (n : Fin 0x800) : (surrogate n).isSurrogate = true := rfl

theorem isSurrogate_iff {c : CodePoint} :
    c.isSurrogate = true ↔ 0xd800 ≤ c.toNat ∧ c.toNat < 0xe000 := by
  cases c with
  | char c =>
    simp only [isSurrogate_char, Bool.false_eq_true, false_iff]
    exact not_surrogate_toNat c
  | surrogate n =>
    simp only [isSurrogate_surrogate, toNat_surrogate, true_iff]
    omega

end CodePoint

end ModelBindings
