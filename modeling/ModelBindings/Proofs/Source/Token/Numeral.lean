import ModelBindings.Proofs.Decimal.Notation
import ModelBindings.Proofs.Source.Token.Quoted

/-!
# Reading numbers

The notations of integers and doubles are read as numbers, up to a line end, a comma or a bracket.

* `IsNumeral` : a text that is read as a number; `isNumeral_digits` and `isNumeral_decimal` say
  which notations are.
* `Ends.number` : a number in front of the rest of a line.
-/

set_option autoImplicit false

namespace ModelBindings.Source.Scan

open Text (isDigit digits)

/-! ## Digits -/

/-- How far a number has been read at its first digit. -/
def firstDigit (d : CodePoint) : NumberState :=
  if d = '0' then .zero else .digits .start false

/-- A further part of a number. -/
def readNumber (n : NumberState) (cs : List CodePoint) : Option NumberState :=
  cs.foldlM NumberState.next? n

theorem readNumber_append (n : NumberState) (u v : List CodePoint) :
    readNumber n (u ++ v) = (readNumber n u).bind fun m => readNumber m v :=
  List.foldlM_append

theorem readNumber_cons (n : NumberState) (c : CodePoint) (r : List CodePoint) :
    readNumber n (c :: r) = (n.next? c).bind fun m => readNumber m r :=
  List.foldlM_cons

/-- A part of a number that digits do not change. -/
theorem readNumber_digits {p : NumberPart} (h : ∀ c, isDigit c = true → p.next? c = some p)
    {cs : List CodePoint} (hd : ∀ c ∈ cs, isDigit c = true) :
    readNumber (.digits p false) cs = some (.digits p false) := by
  induction cs with
  | nil => rfl
  | cons c cs ih =>
    have hc : NumberState.next? (.digits p false) c = some (.digits p false) := by
      simp only [NumberState.next?, h c (hd c List.mem_cons_self)]
    rw [readNumber_cons, hc]
    exact ih fun d hm => hd d (List.mem_cons_of_mem c hm)

theorem next?_fraction {c : CodePoint} (h : isDigit c = true) :
    NumberPart.fraction.next? c = some .fraction := by
  simp only [NumberPart.next?, h, if_true]

theorem next?_exponent {c : CodePoint} (h : isDigit c = true) :
    NumberPart.exponent.next? c = some .exponent := by
  simp only [NumberPart.next?, h, if_true]

/-- The digits of a whole number without a zero in front are counted. -/
theorem readNumber_whole {k : Nat} {cs : List CodePoint} (hd : ∀ c ∈ cs, isDigit c = true) :
    readNumber (.digits (.whole k) false) cs
      = some (.digits (.whole (k + cs.length)) false) := by
  induction cs generalizing k with
  | nil => rfl
  | cons c cs ih =>
    have hc : NumberState.next? (.digits (.whole k) false) c
        = some (.digits (.whole (k + 1)) false) := by
      simp only [NumberState.next?, NumberPart.next?, hd c List.mem_cons_self, if_true]
    rw [readNumber_cons, hc, Option.bind_some, ih fun d hm => hd d (List.mem_cons_of_mem c hm),
      List.length_cons, Nat.add_assoc, Nat.add_comm 1]

/-! ## Numerals -/

/-- The characters behind a number in a generated line. -/
def endsNumber (c : CodePoint) : Bool :=
  c == '\n' || c == ',' || c == ')'

/-- A text that is read as a number. -/
structure IsNumeral (d : CodePoint) (r : List CodePoint) : Prop where
  first : isDigit d = true
  read : ∃ n, readNumber (firstDigit d) r = some n ∧ n.isComplete = true ∧
    n.isImaginary = false ∧ ∀ c, endsNumber c = true → n.next? c = none
  clean : Clean r

theorem clean_digits {cs : List CodePoint} (h : ∀ c ∈ cs, isDigit c = true) : Clean cs :=
  by
  have hrange : ∀ c ∈ cs, 48 ≤ c.toNat ∧ c.toNat ≤ 57 := fun c hc => of_decide_eq_true (h c hc)
  refine ⟨fun c hc => ⟨?_, ?_⟩, fun hr => absurd (hrange _ hr).1 (by decide)⟩
  · rintro rfl
    exact absurd (hrange _ hc).1 (by decide)
  · have hhigh := (hrange c hc).2
    rw [← Bool.not_eq_true, CodePoint.isSurrogate_iff]
    omega

/-- At a line end, a comma or a bracket no run of digits goes on. -/
theorem next?_endsNumber {c : CodePoint} (hc : endsNumber c = true) {n : NumberState}
    (hn : n = .zero ∨ ∃ p, n = .digits p false ∧ ∀ r, p ≠ .radix r) : n.next? c = none := by
  simp only [endsNumber, Bool.or_eq_true, beq_iff_eq] at hc
  rcases hn with rfl | ⟨p, rfl, hp⟩
  · rcases hc with (rfl | rfl) | rfl <;> rfl
  · cases p with
    | radix r => exact absurd rfl (hp r)
    | _ => rcases hc with (rfl | rfl) | rfl <;> rfl

/-- A number in front of a character that ends it. -/
theorem Ends.number {b : List Bracket} {c d : CodePoint} {cs r : List CodePoint} {ts : List Token}
    (h : IsNumeral d cs) (hc : endsNumber c = true) (hr : Ends b (c :: r) ts) :
    Ends b (d :: (cs ++ c :: r)) (.number false :: ts) := by
  obtain ⟨n, hn, hcomplete, hreal, hstop⟩ := h.read
  have hinWord : inWord c = false := by
    simp only [endsNumber, Bool.or_eq_true, beq_iff_eq] at hc
    rcases hc with (rfl | rfl) | rfl <;> decide
  have hclean : Clean (d :: cs) :=
    (clean_digits fun e he => List.mem_singleton.mp he ▸ h.first : Clean [d]).append h.clean
  have hread : ∀ {m : NumberState} {cs : List CodePoint}, readNumber m cs = some n → ∀ i r,
      run ⟨.number m, i, b⟩ (cs ++ r) = run ⟨.number n, i, b⟩ r := by
    intro m cs hm i r
    induction cs generalizing m with
    | nil =>
      cases hm
      rfl
    | cons e cs ih =>
      rw [readNumber_cons] at hm
      obtain ⟨k, hk, hm⟩ := Option.bind_eq_some_iff.mp hm
      have hstep : step ⟨.number m, i, b⟩ e = State.go ⟨.number m, i, b⟩ (.number k) [] := by
        simp only [step, onNumber, hk]
      rw [List.cons_append, run_go hstep]
      exact ih hm
  show Ends b ((d :: cs) ++ c :: r) _
  refine hr.token (m := .number n) (fun i r => ?_) (fun i => ?_) hclean
  · have hstart : step ⟨.between, i, b⟩ d
        = State.go ⟨.between, i, b⟩ (.number (firstDigit d)) [] := by
      have hd := Text.mem_digits_of_isDigit h.first
      simp only [List.mem_cons, List.not_mem_nil, or_false] at hd
      rcases hd with rfl | rfl | rfl | rfl | rfl | rfl | rfl | rfl | rfl | rfl <;> rfl
    rw [List.cons_append, run_go hstart]
    exact hread hn i r
  · simp only [step, onNumber, hstop c hc]
    cases n with
    | mark letter => cases hcomplete
    | _ => simp_all

/-! ## Integers -/

/-- **The notation of an integer is read as a number** unless it has too many digits. -/
theorem isNumeral_digits {n : Nat} (h : (digits n).length ≤ Json.digitLimit) :
    ∃ d r, digits n = d :: r ∧ IsNumeral d r := by
  obtain ⟨d, r, hdr, hd⟩ := Text.digits_eq_cons n
  have hdigit := (Text.isDigits_digits n).digit
  rw [hdr] at hdigit h
  refine ⟨d, r, hdr, hdigit d List.mem_cons_self, ?_,
    clean_digits fun c hc => hdigit c (List.mem_cons_of_mem d hc)⟩
  by_cases hn : n = 0
  · subst hn
    have hzero : digits 0 = [.char '0'] := by
      rw [digits]
      rfl
    rw [hzero] at hdr
    cases hdr
    exact ⟨.zero, rfl, rfl, rfl, fun c hc => next?_endsNumber hc (.inl rfl)⟩
  · refine ⟨.digits (.whole (1 + r.length)) false, ?_, ?_, rfl,
      fun c hc => next?_endsNumber hc (.inr ⟨_, rfl, fun _ h => by cases h⟩)⟩
    · rw [firstDigit, if_neg (hd hn)]
      exact readNumber_whole fun c hc => hdigit c (List.mem_cons_of_mem d hc)
    · rw [List.length_cons, Nat.add_comm] at h
      simpa [NumberState.isComplete, NumberPart.standsAlone] using h

/-! ## Doubles -/

/-- The state behind the whole part of a number. -/
def IsWhole (n : NumberState) : Prop :=
  n = .zero ∨ ∃ p : NumberPart, n = .digits p false ∧ p.takesPoint = true

theorem isWhole_firstDigit (d : CodePoint) : IsWhole (firstDigit d) := by
  unfold firstDigit
  split
  · exact .inl rfl
  · exact .inr ⟨_, rfl, rfl⟩

theorem IsWhole.next? {n : NumberState} (h : IsWhole n) {c : CodePoint} (hc : isDigit c = true) :
    ∃ m, n.next? c = some m ∧ IsWhole m := by
  have hzeros : ∃ p, NumberPart.zeros.next? c = some p ∧ p.takesPoint = true := by
    by_cases h0 : c = '0'
    · exact ⟨.zeros, if_pos h0, rfl⟩
    · exact ⟨.padded, by simp only [NumberPart.next?, h0, hc, if_true, if_false], rfl⟩
  rcases h with rfl | ⟨p, rfl, hp⟩
  · obtain ⟨q, hq, hpoint⟩ := hzeros
    refine ⟨.digits q false, ?_, .inr ⟨q, rfl, hpoint⟩⟩
    have hmark : Radix.ofMark? c = none := by
      have hd := Text.mem_digits_of_isDigit hc
      simp only [List.mem_cons, List.not_mem_nil, or_false] at hd
      rcases hd with rfl | rfl | rfl | rfl | rfl | rfl | rfl | rfl | rfl | rfl <;> rfl
    simp only [NumberState.next?, hmark, hq]
  · obtain ⟨q, hq, hpoint⟩ : ∃ q, p.next? c = some q ∧ q.takesPoint = true := by
      cases p with
      | zeros => exact hzeros
      | padded => exact ⟨.padded, if_pos hc, rfl⟩
      | whole k => exact ⟨.whole (k + 1), if_pos hc, rfl⟩
      | _ => cases hp
    exact ⟨.digits q false, by simp only [NumberState.next?, hq], .inr ⟨q, rfl, hpoint⟩⟩

theorem IsWhole.read {n : NumberState} (h : IsWhole n) {cs : List CodePoint}
    (hd : ∀ c ∈ cs, isDigit c = true) : ∃ m, readNumber n cs = some m ∧ IsWhole m := by
  induction cs generalizing n with
  | nil => exact ⟨n, rfl, h⟩
  | cons c cs ih =>
    obtain ⟨k, hk, hwhole⟩ := h.next? (hd c List.mem_cons_self)
    obtain ⟨m, hm, hmw⟩ := ih hwhole fun d hd' => hd d (List.mem_cons_of_mem c hd')
    exact ⟨m, by rw [readNumber_cons, hk, Option.bind_some, hm], hmw⟩

theorem IsWhole.next?_point {n : NumberState} (h : IsWhole n) : n.next? '.' = some .point := by
  rcases h with rfl | ⟨p, rfl, hp⟩
  · rfl
  · cases p <;> first | rfl | cases hp

/-- The digits behind a point. -/
theorem read_fraction {b : List CodePoint} (h : IsDigits b) :
    readNumber .point b = some (.digits .fraction false) := by
  cases b with
  | nil => exact absurd rfl h.ne_nil
  | cons c b =>
    have hc : NumberState.point.next? c = some (.digits .fraction false) :=
      if_pos (h.digit c List.mem_cons_self)
    rw [readNumber_cons, hc]
    exact readNumber_digits (fun _ => next?_fraction) fun d hd =>
      h.digit d (List.mem_cons_of_mem c hd)

/-- The sign and digits of an exponent. -/
theorem read_exponent {s : CodePoint} {e : List CodePoint} (hs : s = '-' ∨ s = '+')
    (h : IsDigits e) :
    readNumber (.mark 'e') (s :: e) = some (.digits .exponent false) := by
  cases e with
  | nil => exact absurd rfl h.ne_nil
  | cons c e =>
    have hsign : (NumberState.mark 'e').next? s = some .sign := by rcases hs with rfl | rfl <;> rfl
    have hc : NumberState.sign.next? c = some (.digits .exponent false) :=
      if_pos (h.digit c List.mem_cons_self)
    rw [readNumber_cons, hsign, Option.bind_some, readNumber_cons, hc]
    exact readNumber_digits (fun _ => next?_exponent) fun d hd =>
      h.digit d (List.mem_cons_of_mem c hd)

theorem clean_exponent {s : CodePoint} {e : List CodePoint} (hs : s = '-' ∨ s = '+')
    (h : IsDigits e) :
    Clean (.char 'e' :: s :: e) := by
  have hmark : Clean [.char 'e', s] := by rcases hs with rfl | rfl <;> decide
  exact hmark.append (clean_digits h.digit)

/-- **A decimal notation is read as a number.** -/
theorem isNumeral_decimal {cs : List CodePoint} (h : IsDecimal cs) :
    ∃ d r, cs = d :: r ∧ IsNumeral d r := by
  have hpoint : Clean [.char '.'] := by decide
  have hfraction : ∀ c, endsNumber c = true →
      NumberState.next? (.digits .fraction false) c = none :=
    fun c hc => next?_endsNumber hc (.inr ⟨_, rfl, fun _ h => by cases h⟩)
  have hexponent : ∀ c, endsNumber c = true →
      NumberState.next? (.digits .exponent false) c = none :=
    fun c hc => next?_endsNumber hc (.inr ⟨_, rfl, fun _ h => by cases h⟩)
  cases h with
  | plain ha hb =>
    rename_i a b
    cases a with
    | nil => exact absurd rfl ha.ne_nil
    | cons d a =>
      have hd : ∀ c ∈ a, isDigit c = true := fun c hc => ha.digit c (List.mem_cons_of_mem d hc)
      obtain ⟨m, hm, hwhole⟩ := (isWhole_firstDigit d).read hd
      have hclean := (clean_digits hd).append (hpoint.append (clean_digits hb.digit))
      refine ⟨d, a ++ .char '.' :: b, rfl, ha.digit d List.mem_cons_self,
        ⟨_, ?_, rfl, rfl, hfraction⟩, hclean⟩
      rw [readNumber_append, hm, Option.bind_some, readNumber_cons, hwhole.next?_point,
        Option.bind_some, read_fraction hb]
  | exponent hd hs he =>
    rename_i d s e
    refine ⟨d, .char 'e' :: s :: e, rfl, hd, ⟨_, ?_, rfl, rfl, hexponent⟩, clean_exponent hs he⟩
    have hmark : (firstDigit d).next? 'e' = some (.mark 'e') := by
      unfold firstDigit
      split <;> rfl
    rw [readNumber_cons, hmark, Option.bind_some, read_exponent hs he]
  | fraction hd hb hs he =>
    rename_i d s b e
    refine ⟨d, .char '.' :: (b ++ .char 'e' :: s :: e), rfl, hd, ⟨_, ?_, rfl, rfl, hexponent⟩,
      hpoint.append ((clean_digits hb.digit).append (clean_exponent hs he))⟩
    rw [readNumber_cons, (isWhole_firstDigit d).next?_point, Option.bind_some, readNumber_append,
      read_fraction hb, Option.bind_some, readNumber_cons, ← read_exponent hs he]
    rfl

end ModelBindings.Source.Scan
