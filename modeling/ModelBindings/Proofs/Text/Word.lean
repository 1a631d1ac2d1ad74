import ModelBindings.Naming
import ModelBindings.Source.Token.Scan

/-!
# Words

Identifiers consist of characters that may stand in a word of a source text, and so does the snake
case of such a text.

* `inWord_of_isIdentifier`, `inWord_snakeChars` : no blank, quote, bracket or line end is in them.
* `isSurrogate_of_isIdentifier` : nor is a surrogate in an identifier.
* `isUpper_snakeChars` : no capital of ASCII is in snake case.
-/

set_option autoImplicit false

namespace ModelBindings

open Source.Scan (inWord startsWord)

/-! ## ASCII characters -/

theorem isUpper_iff {c : CodePoint} : c.isUpper = true ↔ 65 ≤ c.toNat ∧ c.toNat ≤ 90 :=
  CodePoint.isIn_iff_toNat (fun _ => decide_eq_true_iff) (by decide)

theorem isLower_iff {c : CodePoint} : c.isLower = true ↔ 97 ≤ c.toNat ∧ c.toNat ≤ 122 :=
  CodePoint.isIn_iff_toNat
    (fun _ => Bool.and_eq_true_iff.trans (and_congr decide_eq_true_iff decide_eq_true_iff))
    (by decide)

theorem isAlpha_iff {c : CodePoint} :
    c.isAlpha = true ↔ 65 ≤ c.toNat ∧ c.toNat ≤ 90 ∨ 97 ≤ c.toNat ∧ c.toNat ≤ 122 :=
  CodePoint.isIn_or.trans (or_congr isUpper_iff isLower_iff)

theorem isAlphanum_iff {c : CodePoint} :
    c.isAlphanum = true ↔ c.isAlpha = true ∨ 48 ≤ c.toNat ∧ c.toNat ≤ 57 :=
  CodePoint.isIn_or.trans (or_congr Iff.rfl (CodePoint.isIn_iff_toNat
    (fun _ => Bool.and_eq_true_iff.trans (and_congr decide_eq_true_iff decide_eq_true_iff))
    (by decide)))

/-! ## Words -/

theorem inWord_of_isAlphanum {c : CodePoint} (h : c.isAlphanum = true) : inWord c = true := by
  rcases isAlphanum_iff.mp h with h | h
  · simp [inWord, startsWord, h]
  · have hd : Text.isDigit c = true := decide_eq_true h
    simp [inWord, hd]

theorem inWord_of_le {c : CodePoint} (h : 128 ≤ c.toNat) : inWord c = true := by
  simp [inWord, startsWord, h]

/-- An identifier consists of characters that may stand in a word. -/
theorem inWord_of_isIdentifier {cs : List CodePoint} (h : Text.isIdentifier cs = true) :
    ∀ c ∈ cs, inWord c = true := by
  have hstart : ∀ c, Text.isIdentifierStart c = true → inWord c = true := by
    intro c hc
    unfold Text.isIdentifierStart at hc
    split at hc
    · rcases Bool.or_eq_true _ _ ▸ hc with hc | hc
      · simp [inWord, startsWord, hc]
      · simp [inWord, startsWord, beq_iff_eq.mp hc]
    · exact inWord_of_le (by omega)
  have hcontinue : ∀ c, Text.isIdentifierContinue c = true → inWord c = true := by
    intro c hc
    unfold Text.isIdentifierContinue at hc
    split at hc
    · rcases Bool.or_eq_true _ _ ▸ hc with hc | hc
      · exact inWord_of_isAlphanum hc
      · simp [inWord, startsWord, beq_iff_eq.mp hc]
    · exact inWord_of_le (by omega)
  cases cs with
  | nil => cases h
  | cons c r =>
    simp only [Text.isIdentifier, Bool.and_eq_true, List.all_eq_true] at h
    intro d hd
    rcases List.mem_cons.mp hd with rfl | hd
    · exact hstart _ h.1
    · exact hcontinue d (h.2 d hd)

/-- No range reaches into the numbers of the surrogates. -/
def Text.Ranges.avoidSurrogates (t : Text.Ranges) : Bool :=
  t.all fun r => decide (r.2 < 0xd800) || decide (0xe000 ≤ r.1)

theorem Text.Ranges.has_eq_false {t : Text.Ranges} (h : t.avoidSurrogates = true) {c : CodePoint}
    (hc : c.isSurrogate = true) : t.has c = false := by
  obtain ⟨hlow, hhigh⟩ := CodePoint.isSurrogate_iff.mp hc
  refine List.any_eq_false.mpr fun r hr => ?_
  have hside := List.all_eq_true.mp h r hr
  simp only [Bool.or_eq_true, decide_eq_true_eq] at hside
  simp only [Bool.and_eq_true, decide_eq_true_eq]
  omega

/-- An identifier holds no surrogate. -/
theorem isSurrogate_of_isIdentifier {cs : List CodePoint} (h : Text.isIdentifier cs = true) :
    ∀ c ∈ cs, c.isSurrogate = false := by
  have hstart : Text.identifierStartRanges.avoidSurrogates = true := by decide +kernel
  have hcontinue : Text.identifierContinueRanges.avoidSurrogates = true := by decide +kernel
  have hbeyond : ∀ c : CodePoint, c.isSurrogate = true → ¬ c.toNat < 128 := fun c hc => by
    have hlow := (CodePoint.isSurrogate_iff.mp hc).1
    omega
  intro c hc
  rw [← Bool.not_eq_true]
  intro hs
  cases cs with
  | nil => cases hc
  | cons d r =>
    simp only [Text.isIdentifier, Bool.and_eq_true, List.all_eq_true] at h
    rcases List.mem_cons.mp hc with rfl | hc
    · have hd := h.1
      rw [Text.isIdentifierStart, if_neg (hbeyond _ hs), Text.Ranges.has_eq_false hstart hs] at hd
      cases hd
    · have hd := h.2 c hc
      rw [Text.isIdentifierContinue, if_neg (hbeyond _ hs),
        Text.Ranges.has_eq_false hcontinue hs] at hd
      cases hd

/-! ## Lowercase -/

/-- The row leads to characters beyond ASCII, or to a single small letter. -/
def Text.CaseRow.staysInWords (r : Text.CaseRow) : Bool :=
  let low := (r.first : Int) + r.shift
  let high := (r.last : Int) + r.shift
  (decide (128 ≤ low) && decide (high < 0xd800))
    || (decide (0xe000 ≤ low) && decide (high < 0x110000))
    || (decide (97 ≤ low) && decide (high ≤ 122))

theorem lowerRows_staysInWords : Text.lowerRows.all Text.CaseRow.staysInWords = true := by
  decide +kernel

/-- The code point that the row leads to. -/
def Text.CaseRow.image (r : Text.CaseRow) (n : Nat) : Nat :=
  ((n : Int) + r.shift).toNat

theorem Text.CaseRow.image_cases {r : Text.CaseRow} (hr : r ∈ lowerRows) {n : Nat}
    (hn : r.covers n = true) :
    (97 ≤ r.image n ∧ r.image n ≤ 122) ∨ 128 ≤ r.image n ∧ r.image n < 0x110000 := by
  have hstays := List.all_eq_true.mp lowerRows_staysInWords r hr
  simp only [Text.CaseRow.covers, Bool.and_eq_true, decide_eq_true_eq] at hn
  simp only [Text.CaseRow.staysInWords, Bool.or_eq_true, Bool.and_eq_true,
    decide_eq_true_eq] at hstays
  obtain ⟨⟨hfirst, hlast⟩, -⟩ := hn
  unfold Text.CaseRow.image
  omega

/-- Beyond ASCII, the lowercase of a character is where the row that covers it leads to, or the
character itself if there is none. -/
theorem Text.lowerChar_beyond {c : CodePoint} (h : 128 ≤ c.toNat) :
    (∃ r ∈ lowerRows, r.covers c.toNat = true ∧ (lowerChar c).toNat = r.image c.toNat) ∨
      (lowerChar c = c ∧ ∀ r ∈ lowerRows, r.covers c.toNat = false) := by
  unfold lowerChar
  rw [if_neg (by omega)]
  split
  · rename_i r hr
    have hmem := List.mem_of_find?_eq_some hr
    have hcovers := List.find?_some hr
    have hvalid : r.image c.toNat < 0x110000 := by
      rcases CaseRow.image_cases hmem hcovers with hsmall | ⟨-, hvalid⟩
      · omega
      · exact hvalid
    exact .inl ⟨r, hmem, hcovers, CodePoint.toNat_ofNat hvalid⟩
  · rename_i hnone
    refine .inr ⟨rfl, fun r hr => ?_⟩
    simpa using List.find?_eq_none.mp hnone r hr

/-- The lowercase of a character is a small letter of ASCII or stands beyond ASCII, or the character
was no capital and stays as it is. -/
theorem Text.lowerChar_cases (c : CodePoint) :
    (97 ≤ (lowerChar c).toNat ∧ (lowerChar c).toNat ≤ 122) ∨ 128 ≤ (lowerChar c).toNat ∨
      (lowerChar c = c ∧ c.isUpper = false) := by
  by_cases hascii : c.toNat < 128
  · unfold lowerChar
    rw [if_pos hascii]
    split
    · rename_i hc
      have h1 : 65 ≤ c.toNat := hc.1
      have h2 : c.toNat ≤ 90 := hc.2
      rw [CodePoint.toNat_ofNat (by omega)]
      left
      omega
    · rename_i hc
      refine .inr (.inr ⟨rfl, ?_⟩)
      rw [← Bool.not_eq_true]
      exact fun h => hc (isUpper_iff.mp h)
  · rcases lowerChar_beyond (by omega : 128 ≤ c.toNat) with ⟨r, hr, hcovers, himage⟩ | ⟨hsame, -⟩
    · rw [himage]
      rcases CaseRow.image_cases hr hcovers with hsmall | ⟨hbeyond, -⟩
      · exact .inl hsmall
      · exact .inr (.inl hbeyond)
    · rw [hsame]
      omega

/-- The lowercase of a character of a word may stand in a word. -/
theorem inWord_lowerChar {c : CodePoint} (h : inWord c = true) :
    inWord (Text.lowerChar c) = true := by
  rcases Text.lowerChar_cases c with hsmall | hbeyond | ⟨hsame, -⟩
  · exact inWord_of_isAlphanum (isAlphanum_iff.mpr (.inl (isAlpha_iff.mpr (.inr hsmall))))
  · exact inWord_of_le hbeyond
  · rwa [hsame]

theorem isUpper_lowerChar (c : CodePoint) : (Text.lowerChar c).isUpper = false := by
  rw [← Bool.not_eq_true, isUpper_iff]
  rcases Text.lowerChar_cases c with hsmall | hbeyond | ⟨hsame, hc⟩
  · omega
  · omega
  · rw [hsame, ← isUpper_iff, hc]
    exact Bool.false_ne_true

/-- What holds of the lowercase of each character, and of the letters that stand for two, holds of
the lowercase of a text. -/
theorem Text.forall_mem_lowerFrom {P : CodePoint → Prop} {cs : List CodePoint} (b : Bool)
    (h : ∀ c ∈ cs, c ≠ 'İ' → P (lowerChar c)) (hspecial : P 'ς' ∧ P 'σ' ∧ P 'i' ∧ P '\u0307') :
    ∀ c ∈ lowerFrom b cs, P c := by
  obtain ⟨hfinal, hsigma, hi, hdot⟩ := hspecial
  induction cs generalizing b with
  | nil => simp [lowerFrom]
  | cons c r ih =>
    intro d hd
    simp only [lowerFrom, List.mem_append] at hd
    rcases hd with hd | hd
    · split at hd
      · split at hd
        · rwa [List.mem_singleton.mp hd]
        · rwa [List.mem_singleton.mp hd]
      · split at hd
        · rcases List.mem_cons.mp hd with rfl | hd
          · exact hi
          · rwa [List.mem_singleton.mp hd]
        · rename_i hdotted
          obtain rfl := List.mem_singleton.mp hd
          exact h c List.mem_cons_self hdotted
    · exact ih _ (fun e he => h e (List.mem_cons_of_mem c he)) d hd

theorem inWord_lowerFrom {cs : List CodePoint} (b : Bool) (h : ∀ c ∈ cs, inWord c = true) :
    ∀ c ∈ Text.lowerFrom b cs, inWord c = true :=
  Text.forall_mem_lowerFrom b (fun c hc _ => inWord_lowerChar (h c hc))
    ⟨by decide, by decide, by decide, by decide⟩

/-- **No capital of ASCII is left in snake case.** -/
theorem isUpper_snakeChars (cs : List CodePoint) : ∀ c ∈ snakeChars cs, c.isUpper = false :=
  Text.forall_mem_lowerFrom _ (fun c _ _ => isUpper_lowerChar c) ⟨rfl, rfl, rfl, rfl⟩

theorem inWord_markWords {cs : List CodePoint} (b : Bool) (h : ∀ c ∈ cs, inWord c = true) :
    ∀ c ∈ markWords b cs, inWord c = true := by
  induction cs generalizing b with
  | nil => simp [markWords]
  | cons c r ih =>
    have hr := fun e he => h e (List.mem_cons_of_mem c he)
    have hc := h c List.mem_cons_self
    unfold markWords
    split
    · simp only [List.mem_cons, forall_eq_or_imp]
      exact ⟨by decide, hc, ih _ hr⟩
    · simp only [List.mem_cons, forall_eq_or_imp]
      exact ⟨hc, ih _ hr⟩

/-- **The snake case of a word is a word.** -/
theorem inWord_snakeChars {cs : List CodePoint} (h : ∀ c ∈ cs, inWord c = true) :
    ∀ c ∈ snakeChars cs, inWord c = true :=
  inWord_lowerFrom _ (inWord_markWords _ h)

end ModelBindings
