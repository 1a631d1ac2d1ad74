import ModelBindings.Proofs.Json.Halves
import ModelBindings.Proofs.Json.Written
import ModelBindings.Proofs.Value

/-!
# Reading written values back

A reader cannot tell a pair of halves in a text from the character that they spell, so what is read
back is the value with such halves put together.

* `text_written` : a written text is read back, whatever follows it.
* `ReadsBack` : the text of a value is read as the value; `readsBack` says of which values it is.
* `read_write` : a value without doubles that keeps the bounds of reading is read back;
  `read_write_of_isWhole` is the case where no halves are put together.
* `read_tooManyDigits` : an integer beyond the bounds is refused.
-/

set_option autoImplicit false

namespace ModelBindings.Json

open Text (isDigit digits)

variable {c d : CodePoint} {start tail rest : List CodePoint} {n fuel depth : Nat}

/-! ## Units -/

theorem hexValue?_hexDigit (h : n < 16) : Text.hexValue? (Text.hexDigit n) = some n := by
  interval_cases n <;> decide

theorem hex4?_hexDigits (h : n < 0x10000) (r : List CodePoint) :
    hex4? (Text.hexDigits 4 n ++ r) = some (n, r) := by
  have hdigit : ∀ k, Text.hexValue? (Text.hexDigit (k % 16)) = some (k % 16) := by
    intro k
    exact hexValue?_hexDigit (Nat.mod_lt k (by decide))
  simp only [Text.hexDigits, List.nil_append, List.cons_append, hex4?, hdigit, Option.bind_eq_bind,
    Option.bind_some, Option.some.injEq, Prod.mk.injEq, and_true]
  omega

/-- The text does not start with the unit of a low half. -/
def StartsApart (cs : List CodePoint) : Prop :=
  ∀ r, cs = .char '\\' :: .char 'u' :: r →
    ∃ n rest, hex4? r = some (n, rest) ∧ isLowSurrogate n = false

/-- One unit is read as its code point; some text has to follow, and behind a high half no low
one. -/
theorem unicodeEscape_unit (h : c.toNat < 0x10000) (htail : tail ≠ [])
    (hapart : isHighSurrogate c.toNat = true → StartsApart tail) :
    unicodeEscape (Text.hexDigits 4 c.toNat ++ tail) = .ok (c, tail) := by
  have hdrop : (Text.hexDigits 4 c.toNat ++ tail).drop 4 = tail := rfl
  have hmore : tail.isEmpty = false := by simpa using htail
  unfold unicodeEscape
  rw [hdrop, hmore, hex4?_hexDigits h]
  dsimp only
  rw [if_neg (by decide), CodePoint.ofNat_toNat]
  split
  · rename_i r
    split
    · rename_i hpair
      obtain ⟨low, rest, hlow, hapart⟩ := hapart (Bool.and_eq_true_iff.mp hpair).1 r rfl
      rw [hlow]
      dsimp only
      rw [hapart, if_neg (by decide)]
    · rfl
  · rfl

/-- Two units are read as one character. -/
theorem unicodeEscape_pair (h : n < 0x100000) (htail : tail ≠ []) :
    unicodeEscape (Text.hexDigits 4 (0xd800 + n / 0x400) ++
        (unitEscape (0xdc00 + n % 0x400) ++ tail)) = .ok (CodePoint.ofNat (0x10000 + n), tail) := by
  have hmore : tail.isEmpty = false := by simpa using htail
  have hdrop : (Text.hexDigits 4 (0xdc00 + n % 0x400) ++ tail).drop 4 = tail := rfl
  have hhigh : isHighSurrogate (0xd800 + n / 0x400) = true := by
    simp only [isHighSurrogate, decide_eq_true_eq]
    omega
  have hlow : isLowSurrogate (0xdc00 + n % 0x400) = true := by
    simp only [isLowSurrogate, decide_eq_true_eq]
    omega
  have hsum : 0x10000 + (0xd800 + n / 0x400 - 0xd800) * 0x400 + (0xdc00 + n % 0x400 - 0xdc00)
      = 0x10000 + n := by omega
  unfold unicodeEscape
  rw [hex4?_hexDigits (by omega), if_neg (by exact Bool.false_ne_true)]
  unfold unitEscape
  simp only [List.cons_append]
  rw [hhigh, hdrop, hmore, hex4?_hexDigits (by omega)]
  dsimp only
  rw [hlow, hsum]
  rfl

/-! ## Texts -/

/-- A character in front of what was read. -/
def consChar (c : CodePoint) (x : Step (List CodePoint)) : Step (List CodePoint) :=
  x.map fun p => (c :: p.1, p.2)

theorem textBody_escape {r : List CodePoint}
    (h : escape start (.char '\\' :: r) r = .ok (d, tail)) :
    textBody start (fuel + 1) (.char '\\' :: r) = consChar d (textBody start fuel tail) := by
  rw [textBody, if_neg (by decide), if_pos rfl, h]
  dsimp only
  cases textBody start fuel tail with
  | error s => rfl
  | ok p => rfl

/-- A written code point is read back; some text has to follow, and behind a high half no low
one. -/
theorem textBody_isWritten {w : List CodePoint} (h : IsWritten c w) (htail : tail ≠ [])
    (hapart : isHighSurrogate c.toNat = true → StartsApart tail) :
    textBody start (fuel + 1) (w ++ tail) = consChar c (textBody start fuel tail) := by
  cases h with
  | named h =>
    rename_i e
    have hnamed : ∀ p ∈ namedEscapes, p.1 ≠ 'u' ∧ simpleEscape? p.1 = some p.2 := by
      simp only [namedEscapes, List.forall_mem_cons]
      decide
    obtain ⟨hu, hsimple⟩ := hnamed _ h
    refine textBody_escape (r := e :: tail) ?_
    rw [escape]
    · rw [hsimple]
    · exact hu
  | plain hquote hback hlow hhigh =>
    have hcontrol : ¬ c.toNat < 0x20 := Nat.not_lt.mpr hlow
    rw [List.singleton_append, textBody, if_neg hquote, if_neg hback, if_neg hcontrol]
    cases textBody start fuel tail with
    | error s => rfl
    | ok p => rfl
  | unit h => exact textBody_escape (unicodeEscape_unit h htail hapart)
  | pair h =>
    rw [List.append_assoc]
    exact textBody_escape (unicodeEscape_pair h htail)

/-- A written code point other than a low half does not start with the unit of one. -/
theorem startsApart_of_isWritten {w : List CodePoint} (h : IsWritten c w)
    (hc : isLowSurrogate c.toNat = false) (rest : List CodePoint) : StartsApart (w ++ rest) := by
  intro r hr
  cases h with
  | named h =>
    have hletters : ∀ p ∈ namedEscapes, p.1 ≠ 'u' := by
      simp only [namedEscapes, List.forall_mem_cons]
      decide
    exact absurd (List.cons.inj (List.cons.inj hr).2).1 (hletters _ h)
  | plain hquote hback hlow hhigh => exact absurd (List.cons.inj hr).1 hback
  | unit h =>
    obtain rfl := (List.cons.inj (List.cons.inj hr).2).2
    exact ⟨_, rest, hex4?_hexDigits h rest, hc⟩
  | @pair n h =>
    obtain rfl := (List.cons.inj (List.cons.inj hr).2).2
    refine ⟨_, _, hex4?_hexDigits (by omega) (unitEscape (0xdc00 + n % 0x400) ++ rest), ?_⟩
    rw [isLowSurrogate, decide_eq_false_iff_not]
    omega

theorem startsApart_quote (rest : List CodePoint) : StartsApart (.char '"' :: rest) := by
  intro r hr
  cases hr

theorem writtenChar_of_isSurrogate (h : c.isSurrogate = true) :
    writtenChar c = unitEscape c.toNat := by
  cases c with
  | char c => cases h
  | surrogate n =>
    have hunit : 0xd800 + (n : Nat) < 0x10000 := by omega
    have hprintable : ¬ CodePoint.surrogate n ≤ '~' := by
      rw [CodePoint.le_def, CodePoint.toNat_surrogate]
      exact Nat.not_le.mpr (Nat.lt_of_lt_of_le (by decide) (Nat.le_add_right _ _))
    simp [writtenChar, hprintable, hunit]

/-- The two halves of a pair are read as the character that they spell. -/
theorem textBody_halves (h : c.ArePair d) (htail : tail ≠ []) :
    textBody start (fuel + 1) (writtenChar c ++ (writtenChar d ++ tail)) =
      consChar (c.join d) (textBody start fuel tail) := by
  obtain ⟨hhigh, hlow⟩ := h
  rw [isHighSurrogate, decide_eq_true_eq] at hhigh
  rw [isLowSurrogate, decide_eq_true_eq] at hlow
  have hpair : ∃ n < 0x100000, c.toNat = 0xd800 + n / 0x400 ∧ d.toNat = 0xdc00 + n % 0x400 ∧
      0x10000 + (c.toNat - 0xd800) * 0x400 + (d.toNat - 0xdc00) = 0x10000 + n := by
    refine ⟨(c.toNat - 0xd800) * 0x400 + (d.toNat - 0xdc00), ?_, ?_, ?_, ?_⟩ <;> omega
  obtain ⟨n, hn, hc, hd, hsum⟩ := hpair
  rw [writtenChar_of_isSurrogate (CodePoint.isSurrogate_iff.mpr (by omega)),
    writtenChar_of_isSurrogate (CodePoint.isSurrogate_iff.mpr (by omega)), CodePoint.join, hsum, hc,
    hd]
  exact textBody_escape (unicodeEscape_pair hn htail)

theorem textBody_written (cs : List CodePoint) (h : cs.length < fuel) (rest : List CodePoint) :
    textBody start fuel (cs.flatMap writtenChar ++ .char '"' :: rest) =
      .ok (Text.joinHalves cs, rest) := by
  have htail : ∀ ds : List CodePoint, ds.flatMap writtenChar ++ .char '"' :: rest ≠ [] := by simp
  fun_induction Text.joinHalves cs generalizing fuel with
  | case1 c d r hpair ih =>
    rw [List.length_cons, List.length_cons] at h
    obtain ⟨fuel, rfl⟩ : ∃ k, fuel = k + 1 := Nat.exists_eq_succ_of_ne_zero (by omega)
    rw [List.flatMap_cons, List.flatMap_cons, List.append_assoc, List.append_assoc,
      textBody_halves hpair (htail r), ih (by omega)]
    rfl
  | case2 c d r hapart ih =>
    rw [List.length_cons] at h
    obtain ⟨fuel, rfl⟩ : ∃ k, fuel = k + 1 := Nat.exists_eq_succ_of_ne_zero (by omega)
    have hnext : isHighSurrogate c.toNat = true →
        StartsApart ((d :: r).flatMap writtenChar ++ .char '"' :: rest) := by
      intro hhigh
      rw [List.flatMap_cons, List.append_assoc]
      refine startsApart_of_isWritten (isWritten_writtenChar d) ?_ _
      exact Bool.eq_false_iff.mpr fun hlow => hapart ⟨hhigh, hlow⟩
    rw [List.flatMap_cons, List.append_assoc,
      textBody_isWritten (isWritten_writtenChar c) (htail (d :: r)) hnext, ih (by omega)]
    rfl
  | case3 cs hshort =>
    obtain ⟨fuel, rfl⟩ : ∃ k, fuel = k + 1 := Nat.exists_eq_succ_of_ne_zero (by omega)
    cases cs with
    | nil => rfl
    | cons c r =>
      cases r with
      | nil =>
        obtain ⟨fuel, rfl⟩ : ∃ k, fuel = k + 1 :=
          Nat.exists_eq_succ_of_ne_zero (by simp at h; omega)
        rw [List.flatMap_cons, List.append_assoc, textBody_isWritten (isWritten_writtenChar c)
          (htail []) fun _ => startsApart_quote rest]
        rfl
      | cons d r => exact absurd rfl (hshort c d r)

/-- A written text is read back, whatever follows it. -/
theorem text_written (s : Text) (h : s.toList.length < fuel) (rest : List CodePoint) :
    text fuel (s.toList.flatMap writtenChar ++ .char '"' :: rest) = .ok (s.joined, rest) := by
  unfold text
  rw [textBody_written _ h]
  rfl

theorem length_writeText (s : Text) : s.toList.length + 2 ≤ (writeText s).toList.length := by
  have hchars : ∀ cs : List CodePoint, cs.length ≤ (cs.flatMap writtenChar).length := by
    intro cs
    induction cs with
    | nil => simp
    | cons c cs ih =>
      have hpos : 1 ≤ (writtenChar c).length := by
        have hc := isWritten_writtenChar c
        generalize writtenChar c = w at hc
        cases hc <;> simp [unitEscape]
      rw [List.flatMap_cons, List.length_append, List.length_cons]
      omega
  have hs := hchars s.toList
  rw [toList_writeText, List.length_cons, List.length_append, List.length_singleton]
  omega

/-! ## Integers -/

/-- What follows does not go on with a number. -/
def EndsNumber (rest : List CodePoint) : Prop :=
  ∀ c r, rest = c :: r → isDigit c = false ∧ c ≠ '.' ∧ c ≠ 'e' ∧ c ≠ 'E'

theorem endsNumber_nil : EndsNumber [] := by
  intro c r h
  cases h

theorem endsNumber_cons (r : List CodePoint) (hdigit : isDigit c = false)
    (hmarks : c ≠ '.' ∧ c ≠ 'e' ∧ c ≠ 'E') : EndsNumber (c :: r) := by
  intro e u he
  obtain ⟨rfl, rfl⟩ := List.cons.inj he
  exact ⟨hdigit, hmarks⟩

theorem wholePart_digits (n : Nat) (h : EndsNumber rest) :
    wholePart (digits n ++ rest) = some (digits n, rest) := by
  obtain ⟨c, r, hcr, hzero⟩ := Text.digits_eq_cons n
  by_cases hc : c = '0'
  · have hn : n = 0 := by
      by_contra hn
      exact hzero hn hc
    subst hn
    rw [digits, if_pos (by decide)]
    rfl
  · have hdigit := (Text.isDigits_digits n).digit
    rw [hcr] at hdigit ⊢
    have hr : ∀ e ∈ r, isDigit e = true := fun e he => hdigit e (List.mem_cons_of_mem c he)
    have hstop : rest.takeWhile isDigit = [] ∧ rest.dropWhile isDigit = rest := by
      cases rest with
      | nil => exact ⟨rfl, rfl⟩
      | cons e u => simp [(h e u rfl).1]
    rw [List.cons_append, wholePart, if_neg hc, if_pos (hdigit c List.mem_cons_self),
      List.takeWhile_append_of_pos hr, List.dropWhile_append_of_pos hr, hstop.1, hstop.2,
      List.append_nil]

theorem fractionPart_of_endsNumber (h : EndsNumber rest) : fractionPart rest = ([], rest) := by
  unfold fractionPart
  split
  · exact absurd rfl (h _ _ rfl).2.1
  · rfl

theorem exponentPart_of_endsNumber (h : EndsNumber rest) : exponentPart rest = (none, rest) := by
  unfold exponentPart
  split
  · have hc := h _ _ rfl
    rw [if_neg (by simp [hc])]
  · rfl

/-- The digits of a number are read as the number. -/
theorem number_digits (negative : Bool) (start : List CodePoint)
    (hn : (digits n).length ≤ digitLimit)
    (h : EndsNumber rest) : number negative start (digits n ++ rest)
      = .ok (.int (if negative then -(n : Int) else n), rest) := by
  have hlimit : ¬ digitLimit < (digits n).length := Nat.not_lt.mpr hn
  unfold number
  rw [wholePart_digits n h]
  simp only [fractionPart_of_endsNumber h, exponentPart_of_endsNumber h, NumberParts.value,
    List.isEmpty_nil, Option.isNone_none, Bool.and_self, if_true, if_neg hlimit,
    Text.ofDigits_digits]

/-- An integer with too many digits is refused as such. -/
theorem number_tooManyDigits (negative : Bool) (start : List CodePoint)
    (hn : digitLimit < (digits n).length) (h : EndsNumber rest) :
    number negative start (digits n ++ rest) = .error .tooManyDigits := by
  unfold number
  rw [wholePart_digits n h]
  simp only [fractionPart_of_endsNumber h, exponentPart_of_endsNumber h, NumberParts.value,
    List.isEmpty_nil, Option.isNone_none, Bool.and_self, if_true, if_pos hn]

/-- No word starts with a digit, nor with a sign and a digit. -/
theorem wordValue?_of_isDigit (hc : isDigit c = true) (r : List CodePoint) :
    wordValue? (c :: r) = none ∧ wordValue? (.char '-' :: c :: r) = none := by
  have hd := Text.mem_digits_of_isDigit hc
  simp only [List.mem_cons, List.not_mem_nil, or_false] at hd
  rcases hd with rfl | rfl | rfl | rfl | rfl | rfl | rfl | rfl | rfl | rfl <;> exact ⟨rfl, rfl⟩

/-- Digits, with a sign or without, are read as a number. -/
theorem plainValue_digits (n : Nat) (rest : List CodePoint) :
    plainValue (digits n ++ rest) = number false (digits n ++ rest) (digits n ++ rest) ∧
      plainValue (.char '-' :: (digits n ++ rest)) =
        number true (.char '-' :: (digits n ++ rest)) (digits n ++ rest) := by
  obtain ⟨c, r, hcr, -⟩ := Text.digits_eq_cons n
  have hc : isDigit c = true := (Text.isDigits_digits n).digit c (by simp [hcr])
  obtain ⟨hword, hsigned⟩ := wordValue?_of_isDigit hc (r ++ rest)
  have hdash : c ≠ '-' := by
    rintro rfl
    cases hc
  rw [hcr, List.cons_append]
  constructor
  · rw [plainValue, hword]
    intro u hu
    exact hdash (List.cons.inj hu).1
  · rw [plainValue, hsigned]

theorem plainValue_integer {n : Int} (hn : (digits n.natAbs).length ≤ digitLimit)
    (h : EndsNumber rest) : plainValue (Text.integer n ++ rest) = .ok (.int n, rest) := by
  cases n with
  | ofNat n => exact (plainValue_digits n rest).1.trans (number_digits false _ hn h)
  | negSucc n => exact (plainValue_digits (n + 1) rest).2.trans (number_digits true _ hn h)

/-! ## Values -/

theorem skip_cons (h : isSpace c = false) (r : List CodePoint) : skip (c :: r) = c :: r := by
  rw [skip, List.dropWhile_cons_of_neg (by simp [h])]

theorem skip_blank (r : List CodePoint) : skip (.char ' ' :: r) = skip r :=
  List.dropWhile_cons_of_pos rfl

/-- A value that is neither text, list nor object starts with another character. -/
theorem value_plain (h : c ≠ '"' ∧ c ≠ '[' ∧ c ≠ '\x7b') (r : List CodePoint) :
    value depth (fuel + 1) (c :: r) = plainValue (c :: r) := by
  rw [value]
  · intro u hu
    exact h.1 (List.cons.inj hu).1
  · intro u hu
    exact h.2.1 (List.cons.inj hu).1
  · intro u hu
    exact h.2.2 (List.cons.inj hu).1

/-! ### First characters -/

theorem integer_eq_cons (n : Int) :
    ∃ c r, Text.integer n = c :: r ∧ (isDigit c = true ∨ c = '-') := by
  cases n with
  | ofNat n =>
    obtain ⟨c, r, hcr, -⟩ := Text.digits_eq_cons n
    exact ⟨c, r, hcr, .inl ((Text.isDigits_digits n).digit c (by simp [hcr]))⟩
  | negSucc n => exact ⟨'-', _, rfl, .inr rfl⟩

theorem write_int (n : Int) : (write (.int n)).toList = Text.integer n := by
  rw [write, writeScalar, Text.toList_ofList]
  all_goals
    intro _ h
    cases h

theorem write_text (s : Text) : (write (.text s)).toList = (writeText s).toList := by
  rw [write, writeScalar]
  all_goals
    intro _ h
    cases h

/-- The texts of the items of a list, with commas between them. -/
def itemsText (vs : List Value) : List CodePoint :=
  (Text.join ", " (writeItems vs)).toList

theorem write_list (vs : List Value) :
    (write (.list vs)).toList = .char '[' :: (itemsText vs ++ [.char ']']) := by
  rw [write, Text.toList_append, Text.toList_append]
  rfl

/-- The texts of the members of an object, with commas between them. -/
def membersText (ms : List (Text × Value)) : List CodePoint :=
  (Text.join ", " (writeMembers ms)).toList

theorem write_object (ms : Members) :
    (write (.object ms)).toList = .char '\x7b' :: (membersText ms ++ [.char '\x7d']) := by
  rw [write, Text.toList_append, Text.toList_append]
  rfl

/-- The text of a value starts with a character that is no space and closes no list. -/
theorem write_eq_cons {v : Value} (h : v.IsExact) :
    ∃ c r, (write v).toList = c :: r ∧ isSpace c = false ∧ c ≠ ']' := by
  cases h with
  | null => exact ⟨'n', _, rfl, by decide, by decide⟩
  | bool b =>
    cases b with
    | true => exact ⟨'t', _, rfl, by decide, by decide⟩
    | false => exact ⟨'f', _, rfl, by decide, by decide⟩
  | int n =>
    obtain ⟨c, r, hcr, hc⟩ := integer_eq_cons n
    refine ⟨c, r, (write_int n).trans hcr, ?_⟩
    have hdigit : ∀ e, isDigit e = true → isSpace e = false ∧ e ≠ ']' :=
      Text.forall_isDigit (by decide)
    rcases hc with hc | rfl
    · exact hdigit c hc
    · decide
  | text s => exact ⟨'"', _, (write_text s).trans (toList_writeText s), by decide, by decide⟩
  | list h => exact ⟨'[', _, write_list _, by decide, by decide⟩
  | object h => exact ⟨'\x7b', _, write_object _, by decide, by decide⟩

/-! ### Items and members -/

/-- The text of a value is read as the value with its halves put together, whatever follows that
does not go on with a number. -/
def ReadsBack (depth : Nat) (v : Value) : Prop :=
  ∀ fuel rest, 2 * (write v).toList.length ≤ fuel → EndsNumber rest →
    value depth fuel ((write v).toList ++ rest) = .ok (v.joined, rest)

theorem itemsText_singleton (v : Value) : itemsText [v] = (write v).toList := rfl

theorem itemsText_cons_cons (v w : Value) (r : List Value) :
    itemsText (v :: w :: r) = (write v).toList ++ .char ',' :: .char ' ' :: itemsText (w :: r) := by
  unfold itemsText
  rw [writeItems, writeItems, Text.join_cons_cons, Text.toList_append, Text.toList_append,
    List.append_assoc]
  rfl

theorem itemsText_eq_cons {v : Value} (h : v.IsExact) (r : List Value) :
    ∃ c u, itemsText (v :: r) = c :: u ∧ isSpace c = false ∧ c ≠ ']' := by
  obtain ⟨c, u, hcu, hc⟩ := write_eq_cons h
  cases r with
  | nil => exact ⟨c, u, hcu, hc⟩
  | cons w r => exact ⟨c, _, by rw [itemsText_cons_cons, hcu, List.cons_append], hc⟩

/-- The last item of a list. -/
theorem items_close {cs r : List CodePoint} {v : Value}
    (hv : value depth fuel cs = .ok (v, .char ']' :: r)) :
    items depth (fuel + 1) cs = .ok ([v], r) := by
  rw [items, hv]
  rfl

/-- An item in front of others. -/
theorem items_comma {cs r : List CodePoint} {v : Value} {vs : List Value}
    (hv : value depth fuel cs = .ok (v, .char ',' :: r))
    (hr : items depth fuel (skip r) = .ok (vs, rest)) :
    items depth (fuel + 1) cs = .ok (v :: vs, rest) := by
  have hcomma : skip (.char ',' :: r) = .char ',' :: r := skip_cons rfl r
  simp [items, hv, hcomma, hr]

theorem items_written {vs : List Value} (hne : vs ≠ []) (hexact : ∀ v ∈ vs, v.IsExact)
    (h : ∀ v ∈ vs, ReadsBack depth v) (hfuel : 2 * (itemsText vs).length + 2 ≤ fuel)
    (rest : List CodePoint) : items depth fuel (itemsText vs ++ .char ']' :: rest) =
      .ok (Value.joinedItems vs, rest) := by
  induction vs generalizing fuel with
  | nil => exact absurd rfl hne
  | cons v r ih =>
    obtain ⟨fuel, rfl⟩ : ∃ k, fuel = k + 1 := Nat.exists_eq_succ_of_ne_zero (by omega)
    have hv := h v List.mem_cons_self
    cases r with
    | nil =>
      rw [itemsText_singleton] at hfuel ⊢
      exact items_close (hv fuel (.char ']' :: rest) (by omega) (endsNumber_cons _ rfl (by decide)))
    | cons w r =>
      rw [itemsText_cons_cons, List.length_append, List.length_cons, List.length_cons] at hfuel
      have hbound : 2 * (itemsText (w :: r)).length + 2 ≤ fuel := by omega
      have htail := ih (List.cons_ne_nil w r) (fun u hu => hexact u (List.mem_cons_of_mem v hu))
        (fun u hu => h u (List.mem_cons_of_mem v hu)) hbound
      obtain ⟨c, u, hcu, hspace, -⟩ := itemsText_eq_cons (hexact w (by simp)) r
      have hskip : skip (.char ' ' :: (itemsText (w :: r) ++ .char ']' :: rest))
          = itemsText (w :: r) ++ .char ']' :: rest := by
        rw [skip_blank, hcu, List.cons_append, skip_cons hspace]
      rw [itemsText_cons_cons, List.append_assoc, List.cons_append, List.cons_append]
      rw [← hskip] at htail
      exact items_comma (hv fuel _ (by omega) (endsNumber_cons _ rfl (by decide))) htail

/-- The text of a member: its name and its value. -/
def memberText (k : Text) (v : Value) : List CodePoint :=
  (writeText k).toList ++ .char ':' :: .char ' ' :: (write v).toList

theorem toList_member (k : Text) (v : Value) :
    (writeText k ++ ": " ++ write v).toList = memberText k v := by
  rw [Text.toList_append, Text.toList_append, List.append_assoc]
  rfl

theorem membersText_singleton (k : Text) (v : Value) : membersText [(k, v)] = memberText k v :=
  toList_member k v

theorem membersText_cons_cons (k : Text) (v : Value) (m : Text × Value)
    (r : List (Text × Value)) : membersText ((k, v) :: m :: r)
      = memberText k v ++ .char ',' :: .char ' ' :: membersText (m :: r) := by
  unfold membersText
  rw [writeMembers, writeMembers, Text.join_cons_cons, Text.toList_append, Text.toList_append,
    List.append_assoc, toList_member]
  rfl

theorem membersText_eq_cons (m : Text × Value) (r : List (Text × Value)) :
    ∃ u, membersText (m :: r) = .char '"' :: u := by
  have hmember : ∃ u, memberText m.1 m.2 = .char '"' :: u := by
    exact ⟨_, by rw [memberText, toList_writeText, List.cons_append]⟩
  obtain ⟨u, hu⟩ := hmember
  cases r with
  | nil => exact ⟨u, (membersText_singleton m.1 m.2).trans hu⟩
  | cons n r => exact ⟨_, by rw [membersText_cons_cons, hu, List.cons_append]⟩

/-- A member, up to the comma or brace behind it. -/
theorem members_colon {r r' : List CodePoint} {k : Text} {v : Value}
    (hk : text fuel r = .ok (k, .char ':' :: r'))
    (hv : value depth fuel (skip r') = .ok (v, c :: rest))
    (hc : c = ',' ∨ c = '\x7d') :
    members depth (fuel + 1) (.char '"' :: r)
      = if c = '\x7d' then .ok ([(k, v)], rest)
        else (members depth fuel (skip rest)).map fun p => ((k, v) :: p.1, p.2) := by
  have hcolon : skip (.char ':' :: r') = .char ':' :: r' := skip_cons rfl r'
  rcases hc with rfl | rfl
  · have hcomma : skip (.char ',' :: rest) = .char ',' :: rest := skip_cons rfl rest
    cases hrest : members depth fuel (skip rest) <;>
      simp [members, hk, hcolon, hv, hcomma, hrest, Except.map]
  · have hbrace : skip (.char '\x7d' :: rest) = .char '\x7d' :: rest := skip_cons rfl rest
    simp [members, hk, hcolon, hv, hbrace]

/-- A written member is read, up to the comma or brace behind it. -/
theorem members_memberText {k : Text} {v : Value} (hexact : v.IsExact) (hv : ReadsBack depth v)
    (hfuel : 2 * (memberText k v).length ≤ fuel) (hc : c = ',' ∨ c = '\x7d') (r : List CodePoint) :
    members depth (fuel + 1) (memberText k v ++ c :: r)
      = if c = '\x7d' then .ok ([(k.joined, v.joined)], r)
        else (members depth fuel (skip r)).map fun p => ((k.joined, v.joined) :: p.1, p.2) := by
  have hname := length_writeText k
  have hlength : (memberText k v).length
      = (writeText k).toList.length + (write v).toList.length + 2 := by
    rw [memberText, List.length_append, List.length_cons, List.length_cons]
    omega
  obtain ⟨e, u, heu, hspace, -⟩ := write_eq_cons hexact
  have hskip : skip (.char ' ' :: ((write v).toList ++ c :: r)) = (write v).toList ++ c :: r := by
    rw [skip_blank, heu, List.cons_append, skip_cons hspace]
  have hends : EndsNumber (c :: r) := by
    rcases hc with rfl | rfl
    · exact endsNumber_cons r rfl (by decide)
    · exact endsNumber_cons r rfl (by decide)
  have htext : memberText k v ++ c :: r = .char '"' :: (k.toList.flatMap writtenChar
      ++ .char '"' :: (.char ':' :: .char ' ' :: ((write v).toList ++ c :: r))) := by
    rw [memberText, toList_writeText]
    simp
  have hvalue := hv fuel (c :: r) (by omega) hends
  rw [← hskip] at hvalue
  rw [htext, members_colon (text_written k (by omega) _) hvalue hc]

theorem members_written {ms : List (Text × Value)} (hne : ms ≠ [])
    (hexact : ∀ m ∈ ms, m.2.IsExact) (h : ∀ m ∈ ms, ReadsBack depth m.2)
    (hfuel : 2 * (membersText ms).length + 2 ≤ fuel) (rest : List CodePoint) :
    members depth fuel (membersText ms ++ .char '\x7d' :: rest) =
      .ok (Value.joinedMembers ms, rest) := by
  induction ms generalizing fuel with
  | nil => exact absurd rfl hne
  | cons m r ih =>
    obtain ⟨k, v⟩ := m
    obtain ⟨fuel, rfl⟩ : ∃ k, fuel = k + 1 := Nat.exists_eq_succ_of_ne_zero (by omega)
    have hv : ReadsBack depth v := h (k, v) List.mem_cons_self
    have hvexact : v.IsExact := hexact (k, v) List.mem_cons_self
    cases r with
    | nil =>
      rw [membersText_singleton] at hfuel ⊢
      rw [members_memberText hvexact hv (by omega) (.inr rfl), if_pos rfl]
      rfl
    | cons n r =>
      rw [membersText_cons_cons, List.length_append, List.length_cons, List.length_cons] at hfuel
      have hbound : 2 * (membersText (n :: r)).length + 2 ≤ fuel := by omega
      have htail := ih (List.cons_ne_nil n r) (fun u hu => hexact u (List.mem_cons_of_mem _ hu))
        (fun u hu => h u (List.mem_cons_of_mem _ hu)) hbound
      obtain ⟨u, hu⟩ := membersText_eq_cons n r
      have hskip : skip (.char ' ' :: (membersText (n :: r) ++ .char '\x7d' :: rest))
          = membersText (n :: r) ++ .char '\x7d' :: rest := by
        rw [skip_blank, hu, List.cons_append, skip_cons rfl]
      rw [membersText_cons_cons, List.append_assoc, List.cons_append, List.cons_append,
        members_memberText hvexact hv (by omega) (.inl rfl), if_neg (by decide), hskip, htail]
      rfl

/-! ### Whole values -/

theorem readsBack_list {vs : List Value} (hexact : ∀ v ∈ vs, v.IsExact)
    (h : ∀ v ∈ vs, ReadsBack depth v) : ReadsBack (depth + 1) (.list vs) := by
  intro fuel rest hfuel _
  rw [write_list] at hfuel ⊢
  rw [List.length_cons, List.length_append, List.length_singleton] at hfuel
  obtain ⟨fuel, rfl⟩ : ∃ k, fuel = k + 1 := Nat.exists_eq_succ_of_ne_zero (by omega)
  cases vs with
  | nil => rfl
  | cons v r =>
    obtain ⟨c, u, hcu, hspace, hclose⟩ := itemsText_eq_cons (hexact v List.mem_cons_self) r
    have hbound : 2 * (itemsText (v :: r)).length + 2 ≤ fuel := by omega
    have hitems := items_written (List.cons_ne_nil v r) hexact h hbound rest
    rw [List.cons_append, List.append_assoc, List.singleton_append, value]
    rw [hcu, List.cons_append] at hitems ⊢
    rw [skip_cons hspace]
    split
    · rename_i he
      exact absurd (List.cons.inj he).1 hclose
    · rw [hitems]
      rfl

theorem readsBack_object {ms : Members} (hexact : ∀ m ∈ ms, m.2.IsExact)
    (h : ∀ m ∈ ms, ReadsBack depth m.2) : ReadsBack (depth + 1) (.object ms) := by
  intro fuel rest hfuel _
  rw [write_object] at hfuel ⊢
  rw [List.length_cons, List.length_append, List.length_singleton] at hfuel
  obtain ⟨fuel, rfl⟩ : ∃ k, fuel = k + 1 := Nat.exists_eq_succ_of_ne_zero (by omega)
  cases ms with
  | nil => rfl
  | cons m r =>
    obtain ⟨u, hu⟩ := membersText_eq_cons m r
    have hbound : 2 * (membersText (m :: r)).length + 2 ≤ fuel := by omega
    have hmembers := members_written (List.cons_ne_nil m r) hexact h hbound rest
    rw [List.cons_append, List.append_assoc, List.singleton_append]
    rw [hu, List.cons_append] at hmembers ⊢
    have hquote : ∀ r, skip (.char '"' :: r) = .char '"' :: r := skip_cons rfl
    simp [value, hquote, hmembers, Value.joined]

/-- A value that is neither text, list nor object. -/
theorem readsBack_plain {v : Value} {r : List CodePoint} (hcons : (write v).toList = c :: r)
    (hjoined : v.joined = v) (hc : c ≠ '"' ∧ c ≠ '[' ∧ c ≠ '\x7b')
    (h : ∀ rest, EndsNumber rest → plainValue ((write v).toList ++ rest) = .ok (v, rest)) :
    ReadsBack depth v := by
  intro fuel rest hfuel hrest
  have hplain := h rest hrest
  rw [hcons] at hfuel hplain ⊢
  rw [List.length_cons] at hfuel
  obtain ⟨fuel, rfl⟩ : ∃ k, fuel = k + 1 := Nat.exists_eq_succ_of_ne_zero (by omega)
  rw [List.cons_append] at hplain ⊢
  rw [value_plain hc, hplain, hjoined]

theorem readsBack_integer {n : Int} (h : (digits n.natAbs).length ≤ digitLimit) :
    ReadsBack depth (.int n) := by
  obtain ⟨c, r, hcr, hc⟩ := integer_eq_cons n
  refine readsBack_plain ((write_int n).trans hcr) rfl ?_ ?_
  · have hdigit : ∀ e, isDigit e = true → e ≠ '"' ∧ e ≠ '[' ∧ e ≠ '\x7b' :=
      Text.forall_isDigit (by decide)
    rcases hc with hc | rfl
    · exact hdigit c hc
    · decide
  · intro rest hrest
    rw [write_int]
    exact plainValue_integer h hrest

/-- A value without doubles that keeps the bounds of reading is read back from its text. -/
theorem readsBack {v : Value} (hfits : Fits depth v) (hexact : v.IsExact) :
    ReadsBack depth v := by
  induction hfits with
  | null => exact readsBack_plain rfl rfl (by decide) fun rest _ => rfl
  | bool b =>
    cases b with
    | true => exact readsBack_plain rfl rfl (by decide) fun rest _ => rfl
    | false => exact readsBack_plain rfl rfl (by decide) fun rest _ => rfl
  | int h => exact readsBack_integer h
  | double x => cases hexact
  | text s =>
    intro fuel rest hfuel _
    have hlength := length_writeText s
    rw [write_text] at hfuel ⊢
    obtain ⟨fuel, rfl⟩ : ∃ k, fuel = k + 1 := Nat.exists_eq_succ_of_ne_zero (by omega)
    rw [toList_writeText, List.cons_append, List.append_assoc, List.singleton_append, value,
      text_written s (by omega)]
    rfl
  | list h ih =>
    cases hexact with
    | list hitems => exact readsBack_list hitems fun v hv => ih v hv (hitems v hv)
  | object hkeys h ih =>
    cases hexact with
    | object hmembers => exact readsBack_object hmembers fun m hm => ih m hm (hmembers m hm)

/-! ## Documents -/

theorem endsNumber_of_isSpace {tail : List CodePoint} (h : ∀ c ∈ tail, isSpace c = true) :
    EndsNumber tail := by
  intro c r hcr
  have hc := h c (by simp [hcr])
  simp only [isSpace, Bool.or_eq_true, beq_iff_eq] at hc
  rcases hc with ((rfl | rfl) | rfl) | rfl <;> decide

/-- **A value without doubles that keeps the bounds of reading is read back** with its halves put
together, also with white space behind it. -/
theorem read_write {v : Value} (hfits : Fits nestingLimit v) (hexact : v.IsExact)
    (htail : ∀ c ∈ tail, isSpace c = true) : read ((write v).toList ++ tail) = .ok v.joined := by
  obtain ⟨c, r, hcr, hspace, -⟩ := write_eq_cons hexact
  have hmark : c ≠ '\ufeff' := by
    rintro rfl
    have hprintable := isPrintable_write v '\ufeff' (by simp [hcr])
    exact absurd hprintable.2 (by decide)
  have hvalue := readsBack hfits hexact (2 * ((write v).toList ++ tail).length + 2) tail
    (by rw [List.length_append]; omega) (endsNumber_of_isSpace htail)
  have hskip : skip tail = [] := List.dropWhile_eq_nil_iff.mpr htail
  have hdocument : document ((write v).toList ++ tail) = .ok v.joined := by
    have hstart : skip ((write v).toList ++ tail) = (write v).toList ++ tail := by
      rw [hcr, List.cons_append, skip_cons hspace]
    unfold document
    rw [hstart, hvalue]
    dsimp only
    rw [hskip]
  rw [read, hdocument]
  intro u hu
  rw [hcr] at hu
  exact hmark (List.cons.inj hu).1

theorem read_write_of_isWhole {v : Value} (hfits : Fits nestingLimit v) (hexact : v.IsExact)
    (hwhole : v.IsWhole) : read (write v).toList = .ok v := by
  have hread := read_write hfits hexact (List.forall_mem_nil _)
  rwa [List.append_nil, Value.joined_of_isWhole hfits hwhole] at hread

/-- A document of digits only is refused where they are too many. -/
theorem read_tooManyDigits (hn : digitLimit < (digits n).length) :
    read (digits n) = .error .tooManyDigits := by
  have hmarks : ∀ c, isDigit c = true → isSpace c = false ∧ c ≠ '\ufeff' ∧
      (c ≠ '"' ∧ c ≠ '[' ∧ c ≠ '\x7b') := Text.forall_isDigit (by decide)
  obtain ⟨c, r, hcr, -⟩ := Text.digits_eq_cons n
  have hc : isDigit c = true := (Text.isDigits_digits n).digit c (by simp [hcr])
  obtain ⟨hspace, hmark, hplain⟩ := hmarks c hc
  have hnumber : plainValue (digits n ++ []) = .error .tooManyDigits :=
    (plainValue_digits n []).1.trans (number_tooManyDigits false _ hn endsNumber_nil)
  rw [List.append_nil, hcr] at hnumber
  have hdocument : document (c :: r) = .error .tooManyDigits := by
    rw [document, skip_cons hspace, value_plain hplain, hnumber]
  rw [hcr, read, hdocument]
  · rfl
  · intro u hu
    exact hmark (List.cons.inj hu).1

end ModelBindings.Json
