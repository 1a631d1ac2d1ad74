/-!
# Double precision numbers

The numbers of the 64 bit binary format of IEEE 754, by value: a finite one is a signed mantissa
times a power of two. Reading a decimal gives the nearest number, of two equally near ones that
with the even mantissa, and an infinity beyond the largest.

* `Double` : the numbers.
* `roundQuotient` : a positive quotient to the nearest double.
* `ofDecimal` : a decimal `d * 10 ^ k` to the nearest double.
* `same` : equality by value, `0.0` and `-0.0` being the same, and an undefined number the same as
  itself.
-/

set_option autoImplicit false

namespace ModelBindings

/-- A double precision number; a finite one is `± mantissa * 2 ^ exponent`. -/
inductive Double where
  | undefined
  | infinite (negative : Bool)
  | finite (negative : Bool) (mantissa : Nat) (exponent : Int)
  deriving Repr, DecidableEq, Inhabited

namespace Double

/-- Bits of a full mantissa. -/
def precision : Nat := 53

/-- The exponent of the smallest positive number. -/
def minExponent : Int := -1074

/-- The exponent of the largest numbers. -/
def maxExponent : Int := 971

/-- The quotient rounded to the nearest natural number, a half to the even neighbour. -/
def roundHalfEven (num den : Nat) : Nat :=
  let q := num / den
  let r := num % den
  if 2 * r < den then q
  else if den < 2 * r then q + 1
  else if q % 2 = 0 then q else q + 1

/-- A numerator and denominator scaled so that their quotient counts steps of `2 ^ e`. -/
def inSteps (num den : Nat) (e : Int) : Nat × Nat :=
  if 0 ≤ e then (num, den * Nat.pow 2 e.toNat) else (num * Nat.pow 2 (-e).toNat, den)

/-- The exponent at which a positive quotient has a full mantissa, but never below the least. -/
def exponentFor (num den : Nat) : Int :=
  let guess : Int := (num.log2 : Int) - (den.log2 : Int) - 52
  let (n, d) := inSteps num den guess
  let e := if n / d < Nat.pow 2 52 then guess - 1 else guess
  max e minExponent

/-- The double nearest to `± num / den`. -/
def roundQuotient (negative : Bool) (num den : Nat) : Double :=
  if num = 0 then .finite negative 0 minExponent
  else
    let e := exponentFor num den
    let (n, d) := inSteps num den e
    let m := roundHalfEven n d
    let (m, e) := if m = Nat.pow 2 precision then (Nat.pow 2 52, e + 1) else (m, e)
    if maxExponent < e then .infinite negative else .finite negative m e

/-- The double nearest to `± d * 10 ^ k`, where `d` has at most `places` digits. Powers far beyond
the range of the format are cut off first. -/
def ofDecimal (negative : Bool) (d places : Nat) (k : Int) : Double :=
  if d = 0 then .finite negative 0 minExponent
  else if 400 < k + (d.log2 / 4 : Nat) then .infinite negative
  else if k + (places : Int) < -400 then .finite negative 0 minExponent
  else if 0 ≤ k then roundQuotient negative (d * Nat.pow 10 k.toNat) 1
  else roundQuotient negative d (Nat.pow 10 (-k).toNat)

/-- The signed mantissa. -/
def signed (negative : Bool) (m : Nat) : Int :=
  if negative then -(m : Int) else m

/-- `a * 2 ^ x = b * 2 ^ y`. -/
def sameScaled (a : Int) (x : Int) (b : Int) (y : Int) : Bool :=
  let low := min x y
  a * Int.pow 2 (x - low).toNat == b * Int.pow 2 (y - low).toNat

/-- Equality by value. -/
def same : Double → Double → Bool
  | .undefined, .undefined => true
  | .infinite s, .infinite t => s == t
  | .finite s m e, .finite t n f => sameScaled (signed s m) e (signed t n) f
  | _, _ => false

/-- Equality by value with an integer. -/
def sameInt : Double → Int → Bool
  | .finite s m e, n => sameScaled (signed s m) e n 0
  | _, _ => false

/-- The number is a zero. -/
def isZero : Double → Bool
  | .finite _ m _ => m == 0
  | _ => false

end Double

end ModelBindings
