import ModelBindings.Proofs.Source.Names
import ModelBindings.Proofs.Text.Lowercase

/-!
# Names in snake case

Words are told apart by the capitals of ASCII, and lowercase leaves none of them. What it leaves it
would also leave the next time, so a name in snake case is its own snake case.

* `markWords_of_not_upper` : without capitals no word is marked.
* `snakeChars_of_isSettled` : texts that are in snake case.
* `IsAsciiIdentifier.snakeCase` : the snake case of an identifier of ASCII is one as well.
* `snakeCase_idempotent` : snake case in snake case.
-/

set_option autoImplicit false

namespace ModelBindings

open Text (IsSettled)

/-! ## Texts in snake case -/

/-- Without capitals no word is marked. -/
theorem markWords_of_not_upper {cs : List CodePoint} (h : ∀ c ∈ cs, c.isUpper = false) (b : Bool) :
    markWords b cs = cs := by
  induction cs generalizing b with
  | nil => rfl
  | cons c r ih =>
    rw [markWords, h c List.mem_cons_self, Bool.and_false, if_neg Bool.false_ne_true,
      ih fun d hd => h d (List.mem_cons_of_mem c hd)]

/-- A text that has no capitals and that lowercase leaves as it is, is in snake case. -/
theorem snakeChars_of_isSettled {cs : List CodePoint} (hupper : ∀ c ∈ cs, c.isUpper = false)
    (hsettled : ∀ c ∈ cs, IsSettled c) : snakeChars cs = cs := by
  rw [snakeChars, markWords_of_not_upper hupper, Text.lower, Text.lowerFrom_of_isSettled hsettled]

theorem snakeChars_snakeChars (cs : List CodePoint) : snakeChars (snakeChars cs) = snakeChars cs :=
  snakeChars_of_isSettled (isUpper_snakeChars cs) (Text.isSettled_lowerFrom false _)

/-! ## Identifiers of ASCII -/

/-- The text is an identifier, and all its characters are of ASCII. -/
def IsAsciiIdentifier (s : Text) : Prop :=
  IsName s ∧ ∀ c ∈ s.toList, c.toNat < 128

instance (s : Text) : Decidable (IsAsciiIdentifier s) :=
  decidable_of_iff (IsName s ∧ (s.toList.all fun c => c.toNat < 128) = true) (by
    simp [IsAsciiIdentifier])

theorem isIdentifierStart_iff {c : CodePoint} (h : c.toNat < 128) :
    Text.isIdentifierStart c = true ↔ c.isAlpha = true ∨ c = '_' := by
  rw [Text.isIdentifierStart, if_pos h, Bool.or_eq_true, beq_iff_eq]

theorem isIdentifierStart_lowerChar {c : CodePoint} (h : c.toNat < 128)
    (hc : Text.isIdentifierStart c = true) : Text.isIdentifierStart (Text.lowerChar c) = true := by
  rw [isIdentifierStart_iff (Text.lowerChar_lt h)]
  rcases (isIdentifierStart_iff h).mp hc with halpha | rfl
  · exact .inl (isAlpha_lowerChar halpha)
  · exact .inr (Text.isSettled_of_ascii (by decide) rfl).lower

/-- An identifier of ASCII has a start, and characters of a word behind it. -/
theorem IsAsciiIdentifier.exists_cons {s : Text} (h : IsAsciiIdentifier s) :
    ∃ c r, s.toList = c :: r ∧ Text.isIdentifierStart c = true ∧
      ∀ d ∈ c :: r, isAsciiWordChar d = true := by
  obtain ⟨hname, hascii⟩ := h
  unfold IsName at hname
  cases hs : s.toList with
  | nil =>
    rw [hs] at hname
    cases hname
  | cons c r =>
    rw [hs] at hname hascii
    simp only [Text.isIdentifier, Bool.and_eq_true, List.all_eq_true] at hname
    obtain ⟨hstart, hrest⟩ := hname
    refine ⟨c, r, rfl, hstart, List.forall_mem_cons.mpr ⟨?_, fun d hd => ?_⟩⟩
    · rcases (isIdentifierStart_iff (hascii c List.mem_cons_self)).mp hstart with halpha | rfl
      · exact isAsciiWordChar_of_isAlpha halpha
      · rfl
    · have hd' := hrest d hd
      rwa [Text.isIdentifierContinue, if_pos (hascii d (List.mem_cons_of_mem c hd))] at hd'

/-- **The snake case of an identifier of ASCII is one as well.** -/
theorem IsAsciiIdentifier.snakeCase {s : Text} (h : IsAsciiIdentifier s) :
    IsAsciiIdentifier (snakeCase s) := by
  obtain ⟨c, r, hs, hstart, hword⟩ := h.exists_cons
  have hc : c.toNat < 128 := lt_of_isAsciiWordChar (hword c List.mem_cons_self)
  have hmarked := isAsciiWordChar_markWords hword false
  have hsnake : (ModelBindings.snakeCase s).toList
      = Text.lowerChar c :: (markWords c.isAlphanum r).map Text.lowerChar := by
    rw [ModelBindings.snakeCase, Text.toList_ofList, hs, snakeChars, Text.lower,
      lowerFrom_of_isAsciiWordChar hmarked]
    rfl
  have hrest : ∀ d ∈ (markWords c.isAlphanum r).map Text.lowerChar, isAsciiWordChar d = true := by
    intro d hd
    obtain ⟨e, he, rfl⟩ := List.mem_map.mp hd
    exact isAsciiWordChar_lowerChar (hmarked e (List.mem_cons_of_mem c he))
  unfold IsAsciiIdentifier IsName
  rw [hsnake]
  simp only [Text.isIdentifier, Bool.and_eq_true, List.all_eq_true, List.forall_mem_cons]
  exact ⟨⟨isIdentifierStart_lowerChar hc hstart,
      fun d hd => isIdentifierContinue_of_isAsciiWordChar (hrest d hd)⟩,
    Text.lowerChar_lt hc, fun d hd => lt_of_isAsciiWordChar (hrest d hd)⟩

/-! ## Snake case in snake case -/

/-- **A name in snake case is its own snake case**, has no capital of ASCII, and is an identifier of
ASCII if the name was one. -/
theorem snakeCase_idempotent (s : Text) :
    snakeCase (snakeCase s) = snakeCase s ∧
      (∀ c ∈ (snakeCase s).toList, ¬('A' ≤ c ∧ c ≤ 'Z')) ∧
      (IsAsciiIdentifier s → IsAsciiIdentifier (snakeCase s)) := by
  refine ⟨?_, fun c hc hupper => ?_, IsAsciiIdentifier.snakeCase⟩
  · rw [snakeCase, snakeCase, Text.toList_ofList, snakeChars_snakeChars]
  · rw [snakeCase, Text.toList_ofList] at hc
    have hplain := isUpper_snakeChars s.toList c hc
    rw [isUpper_iff.mpr hupper] at hplain
    cases hplain

/-- An identifier with an underscore at its start and a run of capitals. -/
theorem snakeCase_idempotent_userID :
    IsAsciiIdentifier "_userID2" ∧ snakeCase "_userID2" = "_user_i_d2" ∧
      snakeCase "_user_i_d2" = "_user_i_d2" ∧ IsAsciiIdentifier "_user_i_d2" := by
  have hname : IsAsciiIdentifier "_userID2" := by decide +kernel
  have hsnake : snakeCase "_userID2" = "_user_i_d2" := by decide +kernel
  obtain ⟨hagain, -, hascii⟩ := snakeCase_idempotent "_userID2"
  rw [hsnake] at hagain hascii
  exact ⟨hname, hsnake, hagain, hascii hname⟩

/-- The capital letter with a dot becomes two characters, the sign for Kelvin a letter of ASCII, and
a sigma depends on where it stands. -/
example : snakeCase "\u0130d\u212aΑΣ" = "i\u0307dkας" := by decide +kernel

end ModelBindings
