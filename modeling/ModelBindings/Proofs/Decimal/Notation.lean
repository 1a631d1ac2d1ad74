import Mathlib.Data.List.TakeWhile
import Mathlib.Tactic.IntervalCases
import Mathlib.Tactic.Positivity
import ModelBindings.Value.Display

/-!
# Decimal notations

The shape of the numbers that are written.

* `IsDecimal` : a decimal notation with a point or an exponent.
* `text_finite`, `text_shape` : what the notation of a double looks like; the search for its digits
  ends at a number that is not zero.
-/

set_option autoImplicit false

namespace ModelBindings

/-! ## Digits -/

/-- Decimal digits, at least one. -/
structure IsDigits (cs : List CodePoint) : Prop where
  ne_nil : cs ≠ []
  digit : ∀ c ∈ cs, Text.isDigit c = true

namespace Text

theorem isDigit_digit {n : Nat} (h : n < 10) : isDigit (digit n) = true := by
  interval_cases n <;> decide

theorem isDigits_digits (n : Nat) : IsDigits (digits n) := by
  fun_induction digits n with
  | case1 n h => exact ⟨by simp, by simpa using isDigit_digit h⟩
  | case2 n h ih =>
    refine ⟨by simp, fun c hc => ?_⟩
    rcases List.mem_append.mp hc with hc | hc
    · exact ih.digit c hc
    · rw [List.mem_singleton.mp hc]
      exact isDigit_digit (Nat.mod_lt _ (by decide))

theorem mem_digits_of_isDigit {d : CodePoint} (h : isDigit d = true) :
    d ∈ (['0', '1', '2', '3', '4', '5', '6', '7', '8', '9'] : List CodePoint) := by
  have hd := of_decide_eq_true h
  have h1 : 48 ≤ d.toNat := hd.1
  have h2 : d.toNat ≤ 57 := hd.2
  have hofNat : d = CodePoint.ofNat d.toNat := (CodePoint.ofNat_toNat d).symm
  rw [hofNat]
  generalize d.toNat = n at h1 h2
  interval_cases n <;> decide

/-- What holds of the ten digits holds of every digit. -/
theorem forall_isDigit {p : CodePoint → Prop} (h : ∀ n < 10, p (digit n)) (c : CodePoint)
    (hc : isDigit c = true) : p c := by
  have hd := mem_digits_of_isDigit hc
  simp only [List.mem_cons, List.not_mem_nil, or_false] at hd
  rcases hd with rfl | rfl | rfl | rfl | rfl | rfl | rfl | rfl | rfl | rfl
  · exact h 0 (by decide)
  · exact h 1 (by decide)
  · exact h 2 (by decide)
  · exact h 3 (by decide)
  · exact h 4 (by decide)
  · exact h 5 (by decide)
  · exact h 6 (by decide)
  · exact h 7 (by decide)
  · exact h 8 (by decide)
  · exact h 9 (by decide)

/-- A number with so many digits lies between two powers of ten. -/
theorem digits_bounds (n : Nat) :
    n < 10 ^ (digits n).length ∧ (0 < n → 10 ^ ((digits n).length - 1) ≤ n) := by
  fun_induction digits n with
  | case1 n h =>
    refine ⟨by simpa using h, fun hn => ?_⟩
    simpa [Nat.one_le_iff_ne_zero, Nat.pos_iff_ne_zero] using hn
  | case2 n h ih =>
    obtain ⟨hlt, hle⟩ := ih
    have hle := hle (by omega)
    have hpos := List.length_pos_iff.mpr (isDigits_digits (n / 10)).ne_nil
    rw [List.length_append, List.length_singleton]
    constructor
    · rw [Nat.pow_succ]
      omega
    · intro _
      have hp : 10 ^ ((digits (n / 10)).length + 1 - 1)
          = 10 ^ ((digits (n / 10)).length - 1) * 10 := by
        rw [← Nat.pow_succ]
        congr 1
        omega
      omega

theorem lt_length_digits {n k : Nat} (h : 10 ^ k ≤ n) : k < (digits n).length :=
  (Nat.pow_lt_pow_iff_right (by decide)).mp (Nat.lt_of_le_of_lt h (digits_bounds n).1)

theorem length_digits_le {n k : Nat} (h : n < 10 ^ (k + 1)) : (digits n).length ≤ k + 1 := by
  by_cases hzero : n = 0
  · rw [hzero, digits, if_pos (by decide), List.length_singleton]
    omega
  · have hlow := (digits_bounds n).2 (Nat.pos_of_ne_zero hzero)
    have hlength := (Nat.pow_lt_pow_iff_right (by decide)).mp (Nat.lt_of_le_of_lt hlow h)
    omega

/-- The digits of a number are zeros only for zero. -/
theorem exists_digit_ne_zero {n : Nat} (h : n ≠ 0) : ∃ c ∈ digits n, c ≠ '0' := by
  fun_induction digits n with
  | case1 n hn =>
    exact ⟨_, List.mem_singleton_self _, by interval_cases n <;> first | omega | decide⟩
  | case2 n hn ih =>
    obtain ⟨c, hc, hz⟩ := ih (by omega)
    exact ⟨c, List.mem_append_left _ hc, hz⟩

theorem digits_eq_cons (n : Nat) : ∃ d r, digits n = d :: r ∧ (n ≠ 0 → d ≠ '0') := by
  fun_induction digits n with
  | case1 n h => exact ⟨_, [], rfl, fun hn => by interval_cases n <;> first | omega | decide⟩
  | case2 n h ih =>
    obtain ⟨d, r, hdr, hd⟩ := ih
    exact ⟨d, _, by rw [hdr, List.cons_append], fun _ => hd (by omega)⟩

theorem digitValue_lt {c : CodePoint} (h : isDigit c = true) : digitValue c < 10 := by
  have hc := of_decide_eq_true h
  have hle : c.toNat ≤ 57 := hc.2
  unfold digitValue
  omega

/-- Digits denote a number below the power of ten of their count. -/
theorem ofDigits_lt {cs : List CodePoint} (h : ∀ c ∈ cs, isDigit c = true) :
    ofDigits cs < 10 ^ cs.length := by
  induction cs using List.reverseRecOn with
  | nil => decide
  | append_singleton cs c ih =>
    have hc := digitValue_lt (h c (by simp))
    have hcs := ih fun d hd => h d (List.mem_append_left _ hd)
    rw [ofDigits_append, List.length_append, List.length_singleton, Nat.pow_succ]
    omega

/-- A number has no more digits than those that it is read from. -/
theorem length_digits_ofDigits {cs : List CodePoint} (h : IsDigits cs) :
    (digits (ofDigits cs)).length ≤ cs.length := by
  obtain ⟨k, hk⟩ := Nat.exists_eq_add_one.mpr (List.length_pos_iff.mpr h.ne_nil)
  rw [hk]
  exact length_digits_le (hk ▸ ofDigits_lt h.digit)

end Text

namespace IsDigits

variable {a b : List CodePoint}

theorem append (ha : IsDigits a) (hb : ∀ c ∈ b, Text.isDigit c = true) : IsDigits (a ++ b) :=
  ⟨by simp [ha.ne_nil], fun c hc => (List.mem_append.mp hc).elim (ha.digit c) (hb c)⟩

theorem prepend (ha : IsDigits a) (hb : ∀ c ∈ b, Text.isDigit c = true) : IsDigits (b ++ a) :=
  ⟨by simp [ha.ne_nil], fun c hc => (List.mem_append.mp hc).elim (hb c) (ha.digit c)⟩

end IsDigits

theorem isDigit_of_mem_zeros {n : Nat} : ∀ c ∈ DecimalFormat.zeros n, Text.isDigit c = true := by
  intro c hc
  rw [List.eq_of_mem_replicate hc]
  decide

theorem isDigits_zero : IsDigits [.char '0'] := by
  refine ⟨by simp, fun c hc => ?_⟩
  rw [List.mem_singleton.mp hc]
  decide

/-! ## The digits of a double -/

namespace Double

theorem search_ne_zero (i : Interval) {fuel : Nat} {p : Int} (h : i.floorAt (p - fuel) ≠ 0) :
    (i.search fuel p).1 ≠ 0 := by
  induction fuel generalizing p with
  | zero => simpa [Interval.search] using h
  | succ fuel ih =>
    have hnext : (i.search fuel (p - 1)).1 ≠ 0 := by
      refine ih ?_
      rwa [show p - 1 - (fuel : Int) = p - ((fuel + 1 : Nat) : Int) by omega]
    unfold Interval.search
    split
    · split
      · exact hnext
      · assumption
    · exact hnext

/-- At its leading digit or below a positive value is not cut down to zero. -/
theorem floorAt_ne_zero (i : Interval) (hv : 0 < i.value) (hs : 0 < i.scale) {p : Int}
    (hp : p ≤ i.leading) : i.floorAt p ≠ 0 := by
  unfold Interval.leading digitCount at hp
  unfold Interval.floorAt
  simp only [Nat.pow_eq]
  split at hp
  · rename_i hle
    have hq : 0 < i.value / i.scale := Nat.div_pos hle hs
    have hlow := (Text.digits_bounds (i.value / i.scale)).2 hq
    split
    · rw [← Nat.div_div_eq_div_mul]
      refine Nat.ne_of_gt (Nat.div_pos (le_trans ?_ hlow) (by positivity))
      exact Nat.pow_le_pow_right (by decide) (by omega)
    · refine Nat.ne_of_gt (Nat.div_pos (le_trans hle ?_) hs)
      exact Nat.le_mul_of_pos_right _ (by positivity)
  · rename_i hlt
    have hhigh := (Text.digits_bounds (i.scale / i.value)).1
    have hpos := List.length_pos_iff.mpr (Text.isDigits_digits (i.scale / i.value)).ne_nil
    rw [if_neg (by omega)]
    refine Nat.ne_of_gt (Nat.div_pos ?_ hs)
    calc i.scale ≤ i.value * (i.scale / i.value + 1) := (Nat.lt_mul_div_succ _ hv).le
      _ ≤ i.value * 10 ^ (-p).toNat := by
        refine Nat.mul_le_mul_left _ (le_trans hhigh ?_)
        exact Nat.pow_le_pow_right (by decide) (by omega)

theorem interval_pos {m : Nat} (hm : m ≠ 0) (e : Int) :
    0 < (interval m e).value ∧ 0 < (interval m e).scale := by
  unfold interval
  simp only [Nat.pow_eq]
  split
  · exact ⟨by positivity, by positivity⟩
  · exact ⟨by positivity, by positivity⟩

theorem dropTrailingZeros_spec {cs : List CodePoint} (hd : ∀ c ∈ cs, Text.isDigit c = true)
    (hz : ∃ c ∈ cs, c ≠ '0') : IsDigits (dropTrailingZeros cs).1 := by
  unfold dropTrailingZeros
  dsimp only
  constructor
  · rw [ne_eq, List.reverse_eq_nil_iff, List.dropWhile_eq_nil_iff]
    intro h
    obtain ⟨c, hc, hne⟩ := hz
    exact hne (by simpa using h c (List.mem_reverse.mpr hc))
  · intro c hc
    exact hd c (List.mem_reverse.mp ((List.dropWhile_sublist _).subset (List.mem_reverse.mp hc)))

theorem isDigits_shortest {m : Nat} (hm : m ≠ 0) (e : Int) : IsDigits (shortest m e).1 := by
  obtain ⟨hv, hs⟩ := interval_pos hm e
  unfold shortest
  dsimp only
  refine dropTrailingZeros_spec (Text.isDigits_digits _).digit (Text.exists_digit_ne_zero ?_)
  exact search_ne_zero _ (floorAt_ne_zero _ hv hs (by omega))

end Double

/-! ## Layouts -/

/-- A decimal notation with a point or an exponent, or with both. -/
inductive IsDecimal : List CodePoint → Prop where
  | plain {a b : List CodePoint} (ha : IsDigits a) (hb : IsDigits b) :
      IsDecimal (a ++ .char '.' :: b)
  | exponent {d s : CodePoint} {e : List CodePoint} (hd : Text.isDigit d = true)
      (hs : s = '-' ∨ s = '+')
    (he : IsDigits e) : IsDecimal (d :: .char 'e' :: s :: e)
  | fraction {d s : CodePoint} {b e : List CodePoint} (hd : Text.isDigit d = true) (hb : IsDigits b)
    (hs : s = '-' ∨ s = '+') (he : IsDigits e) :
      IsDecimal (d :: .char '.' :: (b ++ .char 'e' :: s :: e))

namespace DecimalFormat

theorem isDecimal_positional {ds : List CodePoint} (h : IsDigits ds) (x : Int) :
    IsDecimal (positional ds x) := by
  unfold positional
  split
  · exact .plain isDigits_zero (h.prepend isDigit_of_mem_zeros)
  · have hp := h.append (isDigit_of_mem_zeros (n := x.toNat + 1 - ds.length))
    refine .plain ⟨?_, fun c hc => hp.digit c (List.mem_of_mem_take hc)⟩ ?_
    · simp [h.ne_nil]
    · split
      · exact isDigits_zero
      · rename_i hne
        exact ⟨by simpa using hne, fun c hc => hp.digit c (List.mem_of_mem_drop hc)⟩

theorem isDecimal_scientific (f : DecimalFormat) {ds : List CodePoint} (h : IsDigits ds) (x : Int) :
    IsDecimal (f.scientific ds x) := by
  have he : IsDigits (zeros (f.exponentWidth - (Text.digits x.natAbs).length)
      ++ Text.digits x.natAbs) := (Text.isDigits_digits _).prepend isDigit_of_mem_zeros
  have hs : CodePoint.char (if x < 0 then '-' else '+') = '-' ∨
      CodePoint.char (if x < 0 then '-' else '+') = '+' := by
    split
    · exact .inl rfl
    · exact .inr rfl
  unfold scientific
  match ds, h with
  | [d], h => exact .exponent (h.digit d (by simp)) hs he
  | d :: c :: r, h =>
    have hb : IsDigits (c :: r) := ⟨by simp, fun k hk => h.digit k (List.mem_cons_of_mem _ hk)⟩
    simpa using IsDecimal.fraction (h.digit d (by simp)) hb hs he

/-- The notation of a finite double is a decimal notation, behind a sign if it is negative. -/
theorem text_finite (f : DecimalFormat) (negative : Bool) (m : Nat) (e : Int) :
    ∃ body, f.text (.finite negative m e) = (if negative then [.char '-'] else []) ++ body ∧
      IsDecimal body := by
  refine ⟨_, rfl, ?_⟩
  split
  · exact .plain isDigits_zero isDigits_zero
  · rename_i hm
    have h := Double.isDigits_shortest hm e
    dsimp only
    split
    · exact isDecimal_positional h _
    · exact isDecimal_scientific f h _

/-- **The notation of a double is a decimal notation, or one of two words.** -/
theorem text_shape (f : DecimalFormat) (x : Double) :
    ∃ sign body, f.text x = sign ++ body ∧ (sign = [] ∨ sign = [.char '-']) ∧
      (body = f.undefinedText.toList ∨ body = f.infiniteText.toList ∨ IsDecimal body) := by
  have hsign : ∀ s : Bool, (if s then [CodePoint.char '-'] else []) = [] ∨
      (if s then [CodePoint.char '-'] else []) = [.char '-'] := by
    decide
  cases x with
  | undefined => exact ⟨[], _, rfl, .inl rfl, .inl rfl⟩
  | infinite s => exact ⟨_, _, rfl, hsign s, .inr (.inl rfl)⟩
  | finite s m e =>
    obtain ⟨body, htext, hbody⟩ := text_finite f s m e
    exact ⟨_, body, htext, hsign s, .inr (.inr hbody)⟩

end DecimalFormat

end ModelBindings
