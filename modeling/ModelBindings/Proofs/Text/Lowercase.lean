import ModelBindings.Proofs.Text.Word

/-!
# Lowercase of lowercase

The table of lowercase letters is read once for each character, and no row of it leads to a
character that a row covers. So what lowercase leaves stays as it is when it is read again, wherever
in a text it stands.

* `CaseRow.not_covers_image` : no row leads to a capital.
* `IsSettled` : a character that lowercase leaves as it is.
* `isSettled_lowerFrom`, `lowerFrom_of_isSettled` : lowercase leaves such characters only.
* `ascii_of_lowerChar` : the one character beyond ASCII that has a lowercase in ASCII.
-/

set_option autoImplicit false

namespace ModelBindings.Text

/-! ## The table of rows -/

/-- The letter that becomes two characters, as a row. -/
def dottedRow : CaseRow :=
  ⟨0x130, 0x130, 1, 0⟩

/-- A row that leads to code points from `low` to `high` leads to none that the other row covers:
they are outside of its range, or all between its steps. -/
def CaseRow.leadsBeside (r : CaseRow) (low high : Nat) (other : CaseRow) : Bool :=
  Nat.blt high other.first || Nat.blt other.last low
    || (Nat.ble other.first low && (low - other.first) % other.stride != 0
      && (r.first == r.last || r.stride % other.stride == 0))

/-- No row leads to a code point that a row covers. -/
theorem lowerRows_leadBeside :
    lowerRows.all (fun r => (dottedRow :: lowerRows).all
      (r.leadsBeside (r.image r.first) (r.image r.last))) = true := by
  decide +kernel

/-- Two code points of one row are as far apart behind it. -/
theorem CaseRow.image_eq {r : CaseRow} (hr : r ∈ lowerRows) {n : Nat} (hn : r.covers n = true) :
    r.image n = r.image r.first + (n - r.first) ∧ r.image n ≤ r.image r.last := by
  have hstays := List.all_eq_true.mp lowerRows_staysInWords r hr
  simp only [covers, Bool.and_eq_true, decide_eq_true_eq] at hn
  simp only [staysInWords, Bool.or_eq_true, Bool.and_eq_true, decide_eq_true_eq] at hstays
  unfold image
  omega

/-- **What a row leads to is covered by no row.** -/
theorem CaseRow.not_covers_image {r other : CaseRow} (hr : r ∈ lowerRows)
    (hother : other ∈ dottedRow :: lowerRows) {n : Nat} (hn : r.covers n = true) :
    other.covers (r.image n) = false := by
  have hbeside := List.all_eq_true.mp (List.all_eq_true.mp lowerRows_leadBeside r hr) other hother
  obtain ⟨himage, hhigh⟩ := image_eq hr hn
  simp only [covers, Bool.and_eq_true, decide_eq_true_eq, beq_iff_eq] at hn
  obtain ⟨⟨hfirst, hlast⟩, hstep⟩ := hn
  simp only [leadsBeside, Bool.or_eq_true, Bool.and_eq_true, Nat.blt_eq, Nat.ble_eq, bne_iff_ne,
    beq_iff_eq] at hbeside
  rw [← Bool.not_eq_true]
  simp only [covers, Bool.and_eq_true, decide_eq_true_eq, beq_iff_eq]
  rintro ⟨⟨hlow, hup⟩, hcovered⟩
  rcases hbeside with (hbelow | habove) | ⟨⟨hle, hbetween⟩, hsteps⟩
  · omega
  · omega
  · -- steps of the row are steps of the other one, so all that it leads to is between those
    have hdvd : other.stride ∣ n - r.first := by
      rcases hsteps with hsingle | hsteps
      · rw [show n - r.first = 0 by omega]
        exact Nat.dvd_zero _
      · exact Nat.dvd_trans (Nat.dvd_of_mod_eq_zero hsteps) (Nat.dvd_of_mod_eq_zero hstep)
    have hsum : r.image n - other.first = (r.image r.first - other.first) + (n - r.first) := by
      omega
    rw [hsum, Nat.add_mod, Nat.mod_eq_zero_of_dvd hdvd, Nat.add_zero, Nat.mod_mod] at hcovered
    exact hbetween hcovered

/-! ## Characters that stay as they are -/

/-- Lowercase leaves the character as it is. -/
structure IsSettled (c : CodePoint) : Prop where
  lower : lowerChar c = c
  notSigma : c ≠ 'Σ'
  notDotted : c ≠ 'İ'

theorem isSettled_of_ascii {c : CodePoint} (hc : c.toNat < 128) (hupper : c.isUpper = false) :
    IsSettled c := by
  have hplain : ¬('A' ≤ c ∧ c ≤ 'Z') := by
    rw [← Bool.not_eq_true] at hupper
    exact fun h => hupper (isUpper_iff.mpr h)
  refine ⟨?_, ?_, ?_⟩
  · rw [lowerChar, if_pos hc, if_neg hplain]
  · rintro rfl
    exact absurd hc (by decide)
  · rintro rfl
    exact absurd hc (by decide)

/-- Beyond ASCII, a character that no row covers stays as it is, unless it is the letter that
becomes two. -/
theorem isSettled_of_not_covers {c : CodePoint} (hc : 128 ≤ c.toNat)
    (hrows : ∀ r ∈ dottedRow :: lowerRows, r.covers c.toNat = false) : IsSettled c := by
  have hsigma : ∃ r ∈ lowerRows, r.covers (CodePoint.char 'Σ').toNat = true := by
    rw [← List.any_eq_true]
    decide +kernel
  refine ⟨?_, ?_, ?_⟩
  · rcases lowerChar_beyond hc with ⟨r, hr, hcovers, -⟩ | ⟨hsame, -⟩
    · rw [hrows r (List.mem_cons_of_mem _ hr)] at hcovers
      cases hcovers
    · exact hsame
  · rintro rfl
    obtain ⟨r, hr, hcovers⟩ := hsigma
    rw [hrows r (List.mem_cons_of_mem _ hr)] at hcovers
    cases hcovers
  · rintro rfl
    exact absurd (hrows dottedRow List.mem_cons_self) (by decide)

theorem not_covers_dottedRow {c : CodePoint} (h : c ≠ 'İ') : dottedRow.covers c.toNat = false := by
  rw [← Bool.not_eq_true]
  simp only [CaseRow.covers, Bool.and_eq_true, decide_eq_true_eq]
  rintro ⟨⟨hle, hge⟩, -⟩
  exact h (CodePoint.toNat_inj.mp (Nat.le_antisymm hge hle))

theorem lowerChar_lt {c : CodePoint} (h : c.toNat < 128) : (lowerChar c).toNat < 128 := by
  unfold lowerChar
  rw [if_pos h]
  split
  · rename_i hupper
    have hle : c.toNat ≤ 90 := hupper.2
    rw [CodePoint.toNat_ofNat (by omega)]
    omega
  · exact h

/-- **The lowercase of a character stays as it is.** -/
theorem isSettled_lowerChar {c : CodePoint} (h : c ≠ 'İ') : IsSettled (lowerChar c) := by
  by_cases hascii : (lowerChar c).toNat < 128
  · exact isSettled_of_ascii hascii (isUpper_lowerChar c)
  · have hc : 128 ≤ c.toNat := Nat.le_of_not_lt fun hlt => hascii (lowerChar_lt hlt)
    refine isSettled_of_not_covers (by omega) fun r hr => ?_
    rcases lowerChar_beyond hc with ⟨s, hs, hcovers, himage⟩ | ⟨hsame, hnone⟩
    · rw [himage]
      exact CaseRow.not_covers_image hs hr hcovers
    · rw [hsame]
      rcases List.mem_cons.mp hr with rfl | hr
      · exact not_covers_dottedRow h
      · exact hnone r hr

/-- The sign for Kelvin is the one character beyond ASCII that has a lowercase in ASCII. -/
theorem ascii_of_lowerChar {c : CodePoint} (h : (lowerChar c).toNat < 128) :
    c.toNat < 128 ∨ lowerChar c = 'k' := by
  have hrows : ∀ r ∈ lowerRows, 128 ≤ r.image r.first ∨
      r.first = r.last ∧ r.image r.first = (CodePoint.char 'k').toNat := by
    decide +kernel
  by_cases hc : c.toNat < 128
  · exact .inl hc
  · rcases lowerChar_beyond (by omega : 128 ≤ c.toNat) with ⟨r, hr, hcovers, himage⟩ | ⟨hsame, -⟩
    · obtain ⟨hstep, -⟩ := CaseRow.image_eq hr hcovers
      simp only [CaseRow.covers, Bool.and_eq_true, decide_eq_true_eq] at hcovers
      refine .inr (CodePoint.toNat_inj.mp ?_)
      rcases hrows r hr with hbeyond | ⟨hsingle, hk⟩
      · omega
      · omega
    · rw [hsame] at h
      exact absurd h hc

/-! ## Texts -/

/-- **Lowercase leaves only characters that stay as they are.** -/
theorem isSettled_lowerFrom (b : Bool) (cs : List CodePoint) :
    ∀ c ∈ lowerFrom b cs, IsSettled c := by
  exact forall_mem_lowerFrom b (fun c _ => isSettled_lowerChar)
    ⟨isSettled_of_not_covers (by decide) (by decide +kernel),
      isSettled_of_not_covers (by decide) (by decide +kernel),
      isSettled_of_ascii (by decide) rfl,
      isSettled_of_not_covers (by decide) (by decide +kernel)⟩

/-- Lowercase leaves a text of such characters as it is, in every context. -/
theorem lowerFrom_of_isSettled {cs : List CodePoint} (h : ∀ c ∈ cs, IsSettled c) (b : Bool) :
    lowerFrom b cs = cs := by
  induction cs generalizing b with
  | nil => rfl
  | cons c r ih =>
    have hc := h c List.mem_cons_self
    have hr := fun b => ih (fun d hd => h d (List.mem_cons_of_mem c hd)) b
    simp only [lowerFrom, if_neg hc.notSigma, if_neg hc.notDotted, hc.lower, hr]
    rfl

end ModelBindings.Text
