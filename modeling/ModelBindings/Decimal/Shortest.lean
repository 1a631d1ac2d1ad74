import ModelBindings.Decimal.Double
import ModelBindings.Text
import ModelBindings.Text.Digits

/-!
# Shortest decimals

The fewest decimal digits that read back as a given double, and of those the nearest to it; an
exact tie goes to the even digit. A double is read from every decimal between the midpoints to its
two neighbours, and from the midpoints themselves when its mantissa is even.

* `Interval` : the decimals that read back as a double.
* `shortest` : digits and position of the decimal point.
* `DecimalFormat` : how digits are laid out; `DecimalFormat.text` is the layout of a double.
-/

set_option autoImplicit false

namespace ModelBindings

namespace Double

/-- A positive double as `value / scale`, with the bounds `low / scale` and `high / scale` of the
decimals that read back as it, and whether the bounds belong to them. -/
structure Interval where
  low : Nat
  value : Nat
  high : Nat
  scale : Nat
  closed : Bool

/-- The interval of `m * 2 ^ e`. The lower neighbour of a power of two is half a step nearer. -/
def interval (m : Nat) (e : Int) : Interval :=
  let below := if m = Nat.pow 2 52 ∧ minExponent < e then 1 else 2
  if 0 ≤ e then
    let p := Nat.pow 2 e.toNat
    ⟨(4 * m - below) * p, 4 * m * p, (4 * m + 2) * p, 4, m % 2 == 0⟩
  else
    ⟨4 * m - below, 4 * m, 4 * m + 2, 4 * Nat.pow 2 (-e).toNat, m % 2 == 0⟩

/-- The decimal `n * 10 ^ p` lies in the interval. -/
def Interval.holds (i : Interval) (n : Nat) (p : Int) : Bool :=
  let (a, s) := if 0 ≤ p then (n * Nat.pow 10 p.toNat * i.scale, 1)
    else (n * i.scale, Nat.pow 10 (-p).toNat)
  if i.closed then decide (i.low * s ≤ a) && decide (a ≤ i.high * s)
  else decide (i.low * s < a) && decide (a < i.high * s)

/-- The multiple of `10 ^ p` at or below the value. -/
def Interval.floorAt (i : Interval) (p : Int) : Nat :=
  if 0 ≤ p then i.value / (i.scale * Nat.pow 10 p.toNat)
  else i.value * Nat.pow 10 (-p).toNat / i.scale

/-- How the value lies between `n * 10 ^ p` and the next multiple: nearer to the lower one, in the
middle, or nearer to the upper one. -/
def Interval.compareHalf (i : Interval) (n : Nat) (p : Int) : Ordering :=
  if 0 ≤ p then compare (2 * i.value) ((2 * n + 1) * Nat.pow 10 p.toNat * i.scale)
  else compare (2 * i.value * Nat.pow 10 (-p).toNat) ((2 * n + 1) * i.scale)

/-- The multiple of `10 ^ p` nearest to the value among those that read back as it. -/
def Interval.pick? (i : Interval) (p : Int) : Option Nat :=
  let n := i.floorAt p
  match i.holds n p, i.holds (n + 1) p with
  | false, false => none
  | true, false => some n
  | false, true => some (n + 1)
  | true, true =>
    match i.compareHalf n p with
    | .lt => some n
    | .gt => some (n + 1)
    | .eq => if n % 2 = 0 then some n else some (n + 1)

/-- Number of decimal digits. -/
def digitCount (n : Nat) : Nat :=
  (Text.digits n).length

/-- The exponent of the leading decimal digit of a positive value, or one more. -/
def Interval.leading (i : Interval) : Int :=
  if i.scale ≤ i.value then (digitCount (i.value / i.scale) : Int) - 1
  else -(digitCount (i.scale / i.value) : Int)

/-- The first power of ten, from `p` downwards, that has a multiple which reads back. -/
def Interval.search (i : Interval) : Nat → Int → Nat × Int
  | 0, p => (i.floorAt p, p)
  | fuel + 1, p =>
    match i.pick? p with
    | some n => if n = 0 then i.search fuel (p - 1) else (n, p)
    | none => i.search fuel (p - 1)

/-- Digits without zeros at the end, and how many were dropped. -/
def dropTrailingZeros (cs : List CodePoint) : List CodePoint × Nat :=
  let r := cs.reverse
  ((r.dropWhile (· == .char '0')).reverse, (r.takeWhile (· == .char '0')).length)

/-- The shortest digits of the positive double `m * 2 ^ e`, and the exponent of the first one. -/
def shortest (m : Nat) (e : Int) : List CodePoint × Int :=
  let i := interval m e
  let (n, p) := i.search 20 (i.leading + 1)
  let ds := Text.digits n
  ((dropTrailingZeros ds).1, p + (ds.length : Int) - 1)

end Double

/-- How the digits of a double are laid out. -/
structure DecimalFormat where
  /-- Exponents of the first digit that are written without exponent part. -/
  positionalFrom : Int
  positionalTo : Int
  /-- The least number of digits in an exponent part. -/
  exponentWidth : Nat
  undefinedText : Text
  infiniteText : Text

namespace DecimalFormat

/-- Zeros. -/
def zeros (n : Nat) : List CodePoint :=
  List.replicate n '0'

/-- Digits with the point after the digit of exponent zero; at least one digit on either side. -/
def positional (ds : List CodePoint) (x : Int) : List CodePoint :=
  if x < 0 then .char '0' :: .char '.' :: zeros (-x - 1).toNat ++ ds
  else
    let whole := x.toNat + 1
    let padded := ds ++ zeros (whole - ds.length)
    let fraction := padded.drop whole
    padded.take whole ++ .char '.' :: (if fraction.isEmpty then [.char '0'] else fraction)

/-- One digit, the others behind a point, and the exponent with its sign. -/
def scientific (f : DecimalFormat) (ds : List CodePoint) (x : Int) : List CodePoint :=
  let mantissa := match ds with
    | [] => []
    | [d] => [d]
    | d :: r => d :: '.' :: r
  let e := Text.digits x.natAbs
  mantissa ++ .char 'e' :: .char (if x < 0 then '-' else '+') :: zeros (f.exponentWidth - e.length)
    ++ e

/-- The layout of a double. -/
def text (f : DecimalFormat) : Double → List CodePoint
  | .undefined => f.undefinedText.toList
  | .infinite s => (if s then [.char '-'] else []) ++ f.infiniteText.toList
  | .finite s m e =>
    let body : List CodePoint :=
      if m = 0 then ['0', '.', '0']
      else
        let (ds, x) := Double.shortest m e
        if f.positionalFrom ≤ x ∧ x ≤ f.positionalTo then positional ds x else f.scientific ds x
    (if s then [.char '-'] else []) ++ body

end DecimalFormat

end ModelBindings
