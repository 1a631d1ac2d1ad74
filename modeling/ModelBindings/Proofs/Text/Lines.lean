import ModelBindings.Proofs.Text.Segments

/-!
# Texts as lines

* `Text.closed` : lines with a line feed behind each.
* `IsLine` : a text without line feeds.
* `cut_closed` : cutting at the line feeds gives the lines back.
* `join_newline`, `join_blank` : lines and blocks of lines put together, one text.
* `of_mem_lines` : the lines of a text hold its characters, and no line boundary.
* `lines_flatMap_append` : cutting at all boundaries undoes putting lines together.
-/

set_option autoImplicit false

namespace ModelBindings.Text

/-- Lines with a line feed behind each. -/
def closed (ls : List Text) : Text :=
  Text.concat (ls.map (· ++ "\n"))

/-- The parts of a text between its line feeds. -/
def cut (text : Text) : List Text :=
  (segments '\n' text.toList).map Text.ofList

@[simp] theorem closed_nil : closed [] = "" := rfl

@[simp] theorem closed_cons (l : Text) (ls : List Text) :
    closed (l :: ls) = l ++ ("\n" ++ closed ls) := by
  simp [closed, Text.append_assoc]

@[simp] theorem closed_append (a b : List Text) : closed (a ++ b) = closed a ++ closed b := by
  simp [closed]

theorem toList_newline : ("\n" : Text).toList = [.char '\n'] := rfl

theorem toList_closed (ls : List Text) :
    (closed ls).toList = ls.flatMap fun l => l.toList ++ [.char '\n'] := by
  simp only [closed, Text.toList_concat, List.flatMap_map, Text.toList_append, toList_newline]

/-- Lines are at least as long as each of them. -/
theorem length_le_closed {l : Text} {ls : List Text} (h : l ∈ ls) :
    l.length ≤ (closed ls).length := by
  induction ls with
  | nil => cases h
  | cons k ls ih =>
    rw [closed_cons, Text.length_append, Text.length_append]
    rcases List.mem_cons.mp h with rfl | h
    · omega
    · have hle := ih h
      omega

/-- A fixed text in two pieces. -/
theorem literal_append {s t u : String} {a b : List Char} (ht : t = String.ofList a)
    (hu : u = String.ofList b) (hs : s = String.ofList (a ++ b)) :
    (s : Text) = (t : Text) ++ u := by
  subst ht hu hs
  simp [← Text.toList_inj]

/-! ## Single lines -/

/-- The text has no line feed. -/
def IsLine (s : Text) : Prop :=
  .char '\n' ∉ s.toList

theorem IsLine.append {s t : Text} (hs : IsLine s) (ht : IsLine t) : IsLine (s ++ t) := by
  simpa [IsLine] using ⟨hs, ht⟩

theorem isLine_ofList {cs : List CodePoint} (h : .char '\n' ∉ cs) : IsLine (Text.ofList cs) := by
  simpa [IsLine] using h

theorem isLine_join {sep : Text} (hs : IsLine sep) {ls : List Text} (h : ∀ l ∈ ls, IsLine l) :
    IsLine (join sep ls) := by
  induction ls with
  | nil => exact isLine_ofList List.not_mem_nil
  | cons a r ih =>
    have ha := h a List.mem_cons_self
    have hr := ih fun l hl => h l (List.mem_cons_of_mem _ hl)
    cases r with
    | nil => exact ha
    | cons b r =>
      rw [join_cons_cons]
      exact (ha.append hs).append hr

/-! ## Cutting -/

/-- **Cutting at the line feeds gives the lines back.** -/
theorem cut_closed {ls : List Text} (h : ∀ l ∈ ls, IsLine l) :
    cut (closed ls) = ls ++ [("" : Text)] := by
  unfold cut
  rw [toList_closed]
  induction ls with
  | nil => rfl
  | cons l r ih =>
    rw [List.flatMap_cons, List.append_assoc, List.singleton_append,
      segments_append_cons (h l List.mem_cons_self), List.map_cons,
      ih fun k hk => h k (List.mem_cons_of_mem _ hk), Text.ofList_toList]
    rfl

/-! ## Putting together -/

/-- Lines with line feeds between them lack only the last line feed. -/
theorem join_newline {ls : List Text} (h : ls ≠ []) : join "\n" ls ++ "\n" = closed ls := by
  induction ls with
  | nil => exact absurd rfl h
  | cons a r ih =>
    cases r with
    | nil => simp [join]
    | cons b r =>
      rw [join_cons_cons, closed_cons, ← ih (by simp)]
      simp only [Text.append_assoc]

/-- Blocks of lines with blank lines between them. -/
theorem join_blank (bs : List (List Text)) :
    join "\n\n" (bs.map closed) = closed ([("" : Text), ""].intercalate bs) := by
  induction bs with
  | nil => rfl
  | cons b bs ih =>
    cases bs with
    | nil => simp [join, List.intercalate]
    | cons b' bs =>
      have h : ("\n\n" : Text) = "\n" ++ "\n" := rfl
      have hi : [("" : Text), ""].intercalate (b :: b' :: bs)
          = b ++ ([("" : Text), ""] ++ [("" : Text), ""].intercalate (b' :: bs)) := by
        simp [List.intercalate]
      rw [List.map_cons, List.map_cons, join_cons_cons, ← List.map_cons, ih, h, hi]
      simp only [closed_append, closed_cons, closed_nil, Text.append_assoc, Text.empty_append]

/-! ## Lines at all boundaries -/

theorem lines_cons {c : CodePoint} {r : List CodePoint}
    (h : c = '\r' → r.head? ≠ some (.char '\n')) :
    lines (c :: r) = if isLineBoundary c then [] :: lines r else pushFront c (lines r) := by
  refine lines.eq_3 c r fun r' hc hr => ?_
  rw [hr] at h
  exact h hc rfl

theorem mem_pushFront {c : CodePoint} {l : List CodePoint} {ls : List (List CodePoint)}
    (h : l ∈ pushFront c ls) : (∃ k, l = c :: k ∧ (k = [] ∨ k ∈ ls)) ∨ l ∈ ls := by
  cases ls with
  | nil => exact .inl ⟨[], by simpa [pushFront] using h, .inl rfl⟩
  | cons k r =>
    rcases List.mem_cons.mp h with rfl | h
    · exact .inl ⟨k, rfl, .inr List.mem_cons_self⟩
    · exact .inr (List.mem_cons_of_mem _ h)

/-- The lines of a text hold its characters, and no line boundary. -/
theorem of_mem_lines {cs l : List CodePoint} (h : l ∈ lines cs) :
    ∀ c ∈ l, c ∈ cs ∧ isLineBoundary c = false := by
  fun_induction lines cs generalizing l with
  | case1 => cases h
  | case2 r ih =>
    rcases List.mem_cons.mp h with rfl | h
    · simp
    · exact fun c hc => (ih h c hc).imp_left fun m => by simp [m]
  | case3 c r _ hb ih =>
    rcases List.mem_cons.mp h with rfl | h
    · simp
    · exact fun c hc => (ih h c hc).imp_left (List.mem_cons_of_mem _)
  | case4 c r _ hb ih =>
    rcases mem_pushFront h with ⟨k, rfl, hk⟩ | h
    · intro d hd
      rcases List.mem_cons.mp hd with rfl | hd
      · exact ⟨List.mem_cons_self, by simpa using hb⟩
      · rcases hk with rfl | hk
        · cases hd
        · exact (ih hk d hd).imp_left (List.mem_cons_of_mem _)
    · exact fun d hd => (ih h d hd).imp_left (List.mem_cons_of_mem _)

/-! ## Lines put together -/

/-- The text has no line boundary. -/
def IsUncut (cs : List CodePoint) : Prop :=
  ∀ c ∈ cs, isLineBoundary c = false

instance (cs : List CodePoint) : Decidable (IsUncut cs) :=
  decidable_of_iff (cs.all fun c => !isLineBoundary c) (by simp [IsUncut])

theorem IsUncut.append {a b : List CodePoint} (ha : IsUncut a) (hb : IsUncut b) :
    IsUncut (a ++ b) :=
  fun c hc => (List.mem_append.mp hc).elim (ha c) (hb c)

theorem lines_cons_of_isUncut {c : CodePoint} (h : isLineBoundary c = false) (r : List CodePoint) :
    lines (c :: r) = pushFront c (lines r) := by
  have hcr : c ≠ '\r' := by
    rintro rfl
    cases h
  rw [lines_cons fun hc => absurd hc hcr, h, if_neg Bool.false_ne_true]

theorem lines_append_newline {l : List CodePoint} (h : IsUncut l) (r : List CodePoint) :
    lines (l ++ .char '\n' :: r) = l :: lines r := by
  induction l with
  | nil => exact lines_cons (by simp)
  | cons c l ih =>
    have hl := ih fun d hd => h d (List.mem_cons_of_mem c hd)
    rw [List.cons_append, lines_cons_of_isUncut (h c List.mem_cons_self), hl]
    rfl

theorem lines_of_isUncut {l : List CodePoint} (hne : l ≠ []) (h : IsUncut l) : lines l = [l] := by
  induction l with
  | nil => exact absurd rfl hne
  | cons c l ih =>
    rw [lines_cons_of_isUncut (h c List.mem_cons_self)]
    by_cases hl : l = []
    · rw [hl]
      rfl
    · rw [ih hl fun d hd => h d (List.mem_cons_of_mem c hd)]
      rfl

/-- **Lines put together with line feeds are cut into the same lines.** -/
theorem lines_flatMap_append {ls : List (List CodePoint)} (h : ∀ l ∈ ls, IsUncut l)
    {last : List CodePoint}
    (hne : last ≠ []) (hlast : IsUncut last) :
    lines (ls.flatMap (· ++ [.char '\n']) ++ last) = ls ++ [last] := by
  induction ls with
  | nil => exact lines_of_isUncut hne hlast
  | cons l r ih =>
    rw [List.flatMap_cons, List.append_assoc, List.append_assoc, List.singleton_append,
      lines_append_newline (h l List.mem_cons_self), ih fun k hk => h k (List.mem_cons_of_mem l hk)]
    rfl

end ModelBindings.Text
