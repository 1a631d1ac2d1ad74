import ModelBindings.Proofs.Source.Token.Reading
import ModelBindings.Source.EnumClass
import ModelBindings.Source.Field

/-!
# Names of generated classes, members and modules

An ASCII name is a letter with letters, digits and underscores behind it. It is an identifier, and
so is its snake case; an underscore behind an identifier makes it none of the reserved words.

* `IsAsciiName.isName_snakeCase` : the snake case of an ASCII name is an identifier.
* `isFreeName_fieldName`, `isFreeName_memberName` : the names that stand in class bodies are
  identifiers and no reserved words.
-/

set_option autoImplicit false

namespace ModelBindings

open Source (memberName fieldName)
open Source.Scan (IsFreeName)

/-- A character that may stand behind the first letter of an ASCII name. -/
def isAsciiWordChar (c : CodePoint) : Bool :=
  c.isAlphanum || c == '_'

/-- The text is a letter and letters, digits and underscores behind it, all of ASCII. -/
def IsAsciiName (s : Text) : Prop :=
  s.toList.head?.any CodePoint.isAlpha = true ∧ s.toList.all isAsciiWordChar = true

instance (s : Text) : Decidable (IsAsciiName s) :=
  inferInstanceAs (Decidable (_ ∧ _))

/-- An ASCII name is a letter and word characters behind it. -/
theorem IsAsciiName.exists_cons {s : Text} (h : IsAsciiName s) :
    ∃ c r, s.toList = c :: r ∧ c.isAlpha = true ∧ ∀ d ∈ r, isAsciiWordChar d = true := by
  obtain ⟨hhead, hall⟩ := h
  cases hs : s.toList with
  | nil =>
    rw [hs] at hhead
    cases hhead
  | cons c r =>
    rw [hs] at hhead hall
    exact ⟨c, r, rfl, hhead, fun d hd =>
      List.all_eq_true.mp hall d (List.mem_cons_of_mem c hd)⟩

/-! ## ASCII characters -/

theorem isAsciiWordChar_of_isAlpha {c : CodePoint} (h : c.isAlpha = true) :
    isAsciiWordChar c = true := by
  simp [isAsciiWordChar, isAlphanum_iff.mpr (.inl h)]

theorem lt_of_isAsciiWordChar {c : CodePoint} (h : isAsciiWordChar c = true) : c.toNat < 128 := by
  simp only [isAsciiWordChar, Bool.or_eq_true, isAlphanum_iff, isAlpha_iff,
    beq_iff_eq] at h
  rcases h with h | rfl
  · omega
  · decide

theorem isIdentifierContinue_of_isAsciiWordChar {c : CodePoint} (h : isAsciiWordChar c = true) :
    Text.isIdentifierContinue c = true := by
  rw [Text.isIdentifierContinue, if_pos (lt_of_isAsciiWordChar h)]
  exact h

theorem isIdentifierStart_of_isAlpha {c : CodePoint} (h : c.isAlpha = true) :
    Text.isIdentifierStart c = true := by
  rw [Text.isIdentifierStart, if_pos (lt_of_isAsciiWordChar (isAsciiWordChar_of_isAlpha h)), h]
  rfl

/-- The lowercase of an ASCII character, for each of them. -/
theorem lowerChar_ascii : ∀ n < 128,
    ((CodePoint.ofNat n).isAlpha = true → (Text.lowerChar (CodePoint.ofNat n)).isAlpha = true) ∧
      (isAsciiWordChar (CodePoint.ofNat n) = true →
        isAsciiWordChar (Text.lowerChar (CodePoint.ofNat n)) = true) := by
  decide +kernel

theorem isAlpha_lowerChar {c : CodePoint} (h : c.isAlpha = true) :
    (Text.lowerChar c).isAlpha = true := by
  have hc := (lowerChar_ascii c.toNat (lt_of_isAsciiWordChar (isAsciiWordChar_of_isAlpha h))).1
  rw [CodePoint.ofNat_toNat] at hc
  exact hc h

theorem isAsciiWordChar_lowerChar {c : CodePoint} (h : isAsciiWordChar c = true) :
    isAsciiWordChar (Text.lowerChar c) = true := by
  have hc := (lowerChar_ascii c.toNat (lt_of_isAsciiWordChar h)).2
  rw [CodePoint.ofNat_toNat] at hc
  exact hc h

/-- ASCII characters change their case one by one. -/
theorem lowerFrom_of_ascii {cs : List CodePoint} (h : ∀ c ∈ cs, c.toNat < 128) (b : Bool) :
    Text.lowerFrom b cs = cs.map Text.lowerChar := by
  induction cs generalizing b with
  | nil => rfl
  | cons c r ih =>
    have hc := h c List.mem_cons_self
    have hsigma : c ≠ 'Σ' := by
      rintro rfl
      exact absurd hc (by decide)
    have hdotted : c ≠ 'İ' := by
      rintro rfl
      exact absurd hc (by decide)
    simp only [Text.lowerFrom, if_neg hsigma, if_neg hdotted,
      ih fun d hd => h d (List.mem_cons_of_mem c hd)]
    rfl

theorem lowerFrom_of_isAsciiWordChar {cs : List CodePoint} (h : ∀ c ∈ cs, isAsciiWordChar c = true)
    (b : Bool) : Text.lowerFrom b cs = cs.map Text.lowerChar :=
  lowerFrom_of_ascii (fun c hc => lt_of_isAsciiWordChar (h c hc)) b

theorem isAsciiWordChar_markWords {cs : List CodePoint} (h : ∀ c ∈ cs, isAsciiWordChar c = true)
    (b : Bool) : ∀ c ∈ markWords b cs, isAsciiWordChar c = true := by
  induction cs generalizing b with
  | nil => simp [markWords]
  | cons c r ih =>
    have hc := h c List.mem_cons_self
    have hr := ih fun d hd => h d (List.mem_cons_of_mem c hd)
    unfold markWords
    split
    · simp only [List.forall_mem_cons]
      exact ⟨by decide, hc, hr _⟩
    · simp only [List.forall_mem_cons]
      exact ⟨hc, hr _⟩

/-! ## Identifiers -/

theorem isIdentifier_of_isAsciiWordChar {c : CodePoint} {r : List CodePoint} (hc : c.isAlpha = true)
    (hr : ∀ d ∈ r, isAsciiWordChar d = true) : Text.isIdentifier (c :: r) = true := by
  simp only [Text.isIdentifier, Bool.and_eq_true, List.all_eq_true]
  exact ⟨isIdentifierStart_of_isAlpha hc,
    fun d hd => isIdentifierContinue_of_isAsciiWordChar (hr d hd)⟩

theorem IsAsciiName.isName {s : Text} (h : IsAsciiName s) : IsName s := by
  obtain ⟨c, r, hs, hc, hr⟩ := h.exists_cons
  unfold IsName
  rw [hs]
  exact isIdentifier_of_isAsciiWordChar hc hr

/-- The snake case of an ASCII name is made from its first letter and from what follows it in the
same word. -/
theorem IsAsciiName.exists_snakeChars {s : Text} (h : IsAsciiName s) :
    ∃ c r, s.toList = c :: r ∧ c.isAlpha = true ∧ (∀ d ∈ r, isAsciiWordChar d = true) ∧
      snakeChars s.toList = Text.lowerChar c :: (markWords true r).map Text.lowerChar := by
  obtain ⟨c, r, hs, hc, hr⟩ := h.exists_cons
  have hmarked := isAsciiWordChar_markWords hr true
  have hall : ∀ d ∈ c :: markWords true r, isAsciiWordChar d = true :=
    List.forall_mem_cons.mpr ⟨isAsciiWordChar_of_isAlpha hc, hmarked⟩
  refine ⟨c, r, hs, hc, hr, ?_⟩
  rw [snakeChars, hs, markWords, Bool.false_and, if_neg Bool.false_ne_true,
    isAlphanum_iff.mpr (.inl hc), Text.lower, lowerFrom_of_isAsciiWordChar hall, List.map_cons]

/-- **The snake case of an ASCII name is an identifier.** -/
theorem IsAsciiName.isName_snakeCase {s : Text} (h : IsAsciiName s) : IsName (snakeCase s) := by
  obtain ⟨c, r, -, hc, hr, hsnake⟩ := h.exists_snakeChars
  unfold IsName
  rw [snakeCase, Text.toList_ofList, hsnake]
  refine isIdentifier_of_isAsciiWordChar (isAlpha_lowerChar hc) fun d hd => ?_
  obtain ⟨e, he, rfl⟩ := List.mem_map.mp hd
  exact isAsciiWordChar_lowerChar (isAsciiWordChar_markWords hr true e he)

/-! ## Reserved words -/

theorem append_underscore_ne {t : Text} (h : t.toList.getLast? ≠ some (.char '_')) (s : Text) :
    s ++ "_" ≠ t := by
  rintro rfl
  rw [Text.toList_append, show ("_" : Text).toList = [.char '_'] from rfl,
    List.getLast?_concat] at h
  exact h rfl

/-- No reserved word ends in an underscore. -/
theorem isKeyword_append_underscore (s : Text) : isKeyword (s ++ "_") = false := by
  have hends : ∀ k ∈ keywords, k.toList.getLast? ≠ some (.char '_') := by decide +kernel
  rw [isKeyword, List.contains_eq_mem, decide_eq_false_iff_not]
  exact fun hm => append_underscore_ne (hends _ hm) s rfl

theorem isName_append_underscore {s : Text} (h : IsName s) : IsName (s ++ "_") := by
  unfold IsName at h ⊢
  rw [Text.toList_append, show ("_" : Text).toList = [.char '_'] from rfl]
  cases hs : s.toList with
  | nil =>
    rw [hs] at h
    cases h
  | cons c r =>
    rw [hs] at h
    simp only [Text.isIdentifier, Bool.and_eq_true] at h
    simp only [List.cons_append, Text.isIdentifier, List.all_append, h.1, h.2, Bool.true_and]
    decide

theorem isFreeName_append_underscore {s : Text} (h : IsName s) : IsFreeName (s ++ "_") :=
  ⟨isName_append_underscore h, isKeyword_append_underscore s⟩

/-- **The name of a field in a class body is no reserved word.** -/
theorem isFreeName_fieldName (known : List Text) {s : Text} (h : IsAsciiName s) :
    IsFreeName (fieldName known s) := by
  unfold fieldName
  dsimp only
  split
  · exact isFreeName_append_underscore h.isName_snakeCase
  · rename_i hfree
    simp only [Bool.or_eq_true, not_or, Bool.not_eq_true] at hfree
    exact ⟨h.isName_snakeCase, hfree.1.1⟩

/-- **The name of a member is no reserved word.** -/
theorem isFreeName_memberName {s : Text} (h : IsAsciiName s) : IsFreeName (memberName s) := by
  unfold memberName
  split
  · exact isFreeName_append_underscore h.isName
  · rename_i hfree
    exact ⟨h.isName, by simpa using hfree⟩

end ModelBindings
