import ModelBindings.Text.Lines

/-!
# Cutting at separators

* `segments_append_cons`, `segments_append` : the first segment of a text, and the last.
* `segments_append_sep` : the segments of two texts with a separator between them.
* `exists_mem_segments_iff` : the segments hold the characters of the text, but for the separator.
* `segments_join` : cutting at a separator undoes putting together with it.
-/

set_option autoImplicit false

namespace ModelBindings.Text

variable {sep : CodePoint}

/-! ## Segments -/

theorem segments_append_cons {l : List CodePoint} (h : sep ∉ l) (r : List CodePoint) :
    segments sep (l ++ sep :: r) = l :: segments sep r := by
  induction l with
  | nil => exact if_pos rfl
  | cons c l ih =>
    simp only [List.mem_cons, not_or] at h
    rw [List.cons_append, segments, if_neg (Ne.symm h.1), ih h.2]
    rfl

theorem segments_eq_cons (sep : CodePoint) (cs : List CodePoint) :
    ∃ l ls, segments sep cs = l :: ls := by
  cases cs with
  | nil => exact ⟨[], [], rfl⟩
  | cons c r =>
    rw [segments]
    split
    · exact ⟨[], _, rfl⟩
    · unfold pushFront
      split
      · exact ⟨[c], [], rfl⟩
      · exact ⟨c :: _, _, rfl⟩

theorem segments_of_not_mem {cs : List CodePoint} (h : sep ∉ cs) : segments sep cs = [cs] := by
  induction cs with
  | nil => rfl
  | cons c r ih =>
    simp only [List.mem_cons, not_or] at h
    rw [segments, if_neg (Ne.symm h.1), ih h.2]
    rfl

/-- The last segment takes all that stands behind the last separator. -/
theorem segments_append {b : List CodePoint} (hb : sep ∉ b) (a : List CodePoint) :
    ∃ front l, segments sep (a ++ b) = front ++ [l ++ b] := by
  induction a with
  | nil => exact ⟨[], [], segments_of_not_mem hb⟩
  | cons c r ih =>
    obtain ⟨front, l, h⟩ := ih
    rw [List.cons_append, segments]
    split
    · exact ⟨[] :: front, l, by rw [h]; rfl⟩
    · rw [h]
      cases front with
      | nil => exact ⟨[], c :: l, rfl⟩
      | cons f fs => exact ⟨(c :: f) :: fs, l, rfl⟩

/-- What stands in front of a separator and what stands behind it are cut apart. -/
theorem segments_append_sep (a b : List CodePoint) :
    segments sep (a ++ sep :: b) = segments sep a ++ segments sep b := by
  induction a with
  | nil => exact if_pos rfl
  | cons c r ih =>
    rw [List.cons_append, segments, segments, ih]
    split
    · rfl
    · obtain ⟨l, ls, hr⟩ := segments_eq_cons sep r
      rw [hr]
      rfl

/-- Segments do not hold the separator. -/
theorem not_mem_of_mem_segments {cs l : List CodePoint} (h : l ∈ segments sep cs) : sep ∉ l := by
  induction cs generalizing l with
  | nil =>
    obtain rfl := List.mem_singleton.mp h
    exact List.not_mem_nil
  | cons c r ih =>
    rw [segments] at h
    split at h
    · rcases List.mem_cons.mp h with rfl | h
      · exact List.not_mem_nil
      · exact ih h
    · rename_i hc
      cases hr : segments sep r with
      | nil =>
        rw [hr] at h
        obtain rfl := List.mem_singleton.mp h
        simpa using Ne.symm hc
      | cons k ks =>
        rw [hr] at h ih
        rcases List.mem_cons.mp h with rfl | h
        · simpa [Ne.symm hc] using ih List.mem_cons_self
        · exact ih (List.mem_cons_of_mem k h)

theorem mem_pushFront_iff {c d : CodePoint} {ls : List (List CodePoint)} :
    (∃ l ∈ pushFront d ls, c ∈ l) ↔ c = d ∨ ∃ l ∈ ls, c ∈ l := by
  cases ls with
  | nil => simp [pushFront]
  | cons k ks => simp [pushFront, or_assoc]

/-- The characters of the segments are those of the text, but for the separator. -/
theorem exists_mem_segments_iff {c : CodePoint} (hc : c ≠ sep) (cs : List CodePoint) :
    (∃ l ∈ segments sep cs, c ∈ l) ↔ c ∈ cs := by
  induction cs with
  | nil => simp [segments]
  | cons d r ih =>
    rw [segments]
    split
    · rename_i hd
      subst hd
      simp [ih, hc]
    · rw [mem_pushFront_iff, ih, List.mem_cons]

/-! ## Texts put together -/

/-- Cutting at the separator undoes putting together with it. -/
theorem segments_join {s : Text} (hs : s.toList = [sep]) {names : List Text} (hne : names ≠ [])
    (h : ∀ n ∈ names, sep ∉ n.toList) :
    segments sep (join s names).toList = names.map Text.toList := by
  induction names with
  | nil => exact absurd rfl hne
  | cons a r ih =>
    have ha := h a List.mem_cons_self
    cases r with
    | nil => exact segments_of_not_mem ha
    | cons b r =>
      rw [join_cons_cons, Text.toList_append, Text.toList_append, hs, List.append_assoc,
        List.singleton_append, segments_append_cons ha,
        ih (List.cons_ne_nil b r) fun n hn => h n (List.mem_cons_of_mem a hn)]
      rfl

theorem mem_toList_join {c : CodePoint} {s : Text} (hs : c ∉ s.toList) (names : List Text) :
    c ∈ (join s names).toList ↔ ∃ n ∈ names, c ∈ n.toList := by
  induction names with
  | nil => simp [join]
  | cons a r ih =>
    cases r with
    | nil => simp [join]
    | cons b r =>
      rw [join_cons_cons, Text.toList_append, Text.toList_append]
      simp only [List.mem_append, hs, or_false, ih]
      simp only [List.mem_cons, exists_eq_or_imp]

end ModelBindings.Text
