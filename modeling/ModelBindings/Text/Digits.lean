import ModelBindings.CodePoint

/-!
# Digits

Natural numbers and integers in decimal notation, without sign for zero and above, and the digits of
numbers to the base sixteen.

* `digits` : the decimal digits of a number, the highest first and no zero in front.
* `ofDigits` : the number that digits denote; `ofDigits_digits` says that it reads `digits` back.
* `hexValue?`, `ofHex?` : the value of a hexadecimal digit, and the number that some denote.
-/

set_option autoImplicit false

namespace ModelBindings.Text

/-- The digit of a number below ten. -/
def digit (n : Nat) : CodePoint :=
  CodePoint.ofNat (48 + n)

/-- The value of a decimal digit. -/
def digitValue (c : CodePoint) : Nat :=
  c.toNat - 48

/-- An ASCII decimal digit. -/
def isDigit (c : CodePoint) : Bool :=
  decide ('0' ≤ c ∧ c ≤ '9')

/-- The decimal digits of a number. -/
def digits (n : Nat) : List CodePoint :=
  if n < 10 then [digit n] else digits (n / 10) ++ [digit (n % 10)]

/-- The number that decimal digits denote. -/
def ofDigits (cs : List CodePoint) : Nat :=
  cs.foldl (fun n c => 10 * n + digitValue c) 0

theorem digitValue_digit {n : Nat} (h : n < 10) : digitValue (digit n) = n := by
  have hn : (CodePoint.ofNat (48 + n)).toNat = 48 + n := CodePoint.toNat_ofNat (by omega)
  unfold digitValue digit
  omega

theorem ofDigits_append (a : List CodePoint) (c : CodePoint) :
    ofDigits (a ++ [c]) = 10 * ofDigits a + digitValue c := by
  simp [ofDigits]

/-- Reading gives the number back. -/
theorem ofDigits_digits (n : Nat) : ofDigits (digits n) = n := by
  fun_induction digits n with
  | case1 n h => simp [ofDigits, digitValue_digit h]
  | case2 n h ih =>
    rw [ofDigits_append, ih, digitValue_digit (Nat.mod_lt _ (by decide))]
    omega

/-- An integer in decimal notation. -/
def integer : Int → List CodePoint
  | .ofNat n => digits n
  | .negSucc n => '-' :: digits (n + 1)

/-- The value of a hexadecimal digit. -/
def hexValue? (c : CodePoint) : Option Nat :=
  if '0' ≤ c ∧ c ≤ '9' then some (c.toNat - 48)
  else if 'a' ≤ c ∧ c ≤ 'f' then some (c.toNat - 87)
  else if 'A' ≤ c ∧ c ≤ 'F' then some (c.toNat - 55)
  else none

/-- The number that hexadecimal digits denote. -/
def ofHex? (cs : List CodePoint) : Option Nat :=
  cs.foldlM (fun n c => (hexValue? c).map (16 * n + ·)) 0

end ModelBindings.Text
