import Mathlib.Data.List.Induction
import ModelBindings.Proofs.Source.Token.Quoted
import ModelBindings.Proofs.Text.Lines

/-!
# Reading docstrings

The lines of a docstring are read as one text literal. Three quotes in a row are escaped in it, so
what is left of a run of quotes never closes it early; the last quote of a single line is escaped as
well, which is enough unless the quotes at its end come in threes.

* `trailingQuotes`, `KeepsApart` : the quotes at the end of a documentation.
* `read_escapeTriple` : how many quotes an escaped text has at its end.
* `exists_last_quote` : the last quote of a line, escaped once more.
* `lines_escapeTriple` : a text can be cut into lines before or after it is escaped.
* `docLines_eq` : a docstring is a literal between three quotes, on lines of its own.
-/

set_option autoImplicit false

namespace ModelBindings.Source

open Text (lines)

/-- The number of quotes that a text ends with. -/
def trailingQuotes (cs : List CodePoint) : Nat :=
  (cs.reverse.takeWhile (· == .char '"')).length

/-- The text has more than one line, or the quotes at its end do not come in threes. -/
def KeepsApart (cs : List CodePoint) : Prop :=
  ∀ line, lines cs = [line] → trailingQuotes line % 3 = 0 → trailingQuotes line = 0

/-! ## Characters of a docstring -/

theorem mem_escapeTriple {cs : List CodePoint} {d : CodePoint} (h : d ∈ escapeTriple cs) :
    d = '\\' ∨ d ∈ cs := by
  fun_induction escapeTriple cs with
  | case1 => cases h
  | case2 r ih =>
    simp only [List.mem_cons] at h ⊢
    grind
  | case3 r hthree ih =>
    simp only [List.mem_cons] at h ⊢
    grind
  | case4 c r hthree hc ih =>
    simp only [List.mem_cons] at h ⊢
    grind

theorem mem_guardEnd {c : CodePoint} {cs : List CodePoint} (h : c ∈ guardEnd cs) :
    c = '\\' ∨ c ∈ cs := by
  fun_induction guardEnd cs with
  | case1 => cases h
  | case2 =>
    simp only [List.mem_cons, List.not_mem_nil, or_false] at h ⊢
    exact h
  | case3 d r hne ih =>
    rcases List.mem_cons.mp h with rfl | h
    · exact .inr List.mem_cons_self
    · exact (ih h).imp_right (List.mem_cons_of_mem _)

namespace Scan

/-! ## Runs of quotes -/

/-- The quotes in a row behind a text, with some in front of it. -/
def quotesAfter (n : Nat) (cs : List CodePoint) : Nat :=
  cs.foldl (fun n (c : CodePoint) => if c = '"' then n + 1 else 0) n

/-- The quotes in a row that a text starts with. -/
def leadingQuotes (cs : List CodePoint) : Nat :=
  (cs.takeWhile (· == .char '"')).length

theorem trailingQuotes_append (cs : List CodePoint) (c : CodePoint) :
    trailingQuotes (cs ++ [c]) = if c = '"' then trailingQuotes cs + 1 else 0 := by
  unfold trailingQuotes
  rw [List.reverse_append, List.reverse_singleton, List.singleton_append, List.takeWhile_cons]
  by_cases h : c = '"'
  · simp [h]
  · simp [h]

theorem quotesAfter_zero (cs : List CodePoint) : quotesAfter 0 cs = trailingQuotes cs := by
  induction cs using List.reverseRecOn with
  | nil => rfl
  | append_singleton cs c ih =>
    rw [trailingQuotes_append, ← ih]
    simp [quotesAfter]

theorem quotesAfter_add_three (n : Nat) (cs : List CodePoint) :
    quotesAfter (n + 3) cs % 3 = quotesAfter n cs % 3 := by
  induction cs generalizing n with
  | nil => simp [quotesAfter]
  | cons c cs ih =>
    by_cases h : c = '"'
    · have h' := ih (n + 1)
      rw [show n + 1 + 3 = n + 3 + 1 by omega] at h'
      simpa [quotesAfter, h] using h'
    · simp [quotesAfter, h]

/-- **An escaped text is read whole, and the quotes at its end are those that are left of threes.**
It may start behind quotes that do not make three with its own. -/
theorem read_escapeTriple {n : Nat} (cs : List CodePoint) (h : n = 0 ∨ n + leadingQuotes cs ≤ 2) :
    (escapeTriple cs).foldlM (readText true) (.quotes n)
      = some (.quotes (quotesAfter n cs % 3)) := by
  fun_induction escapeTriple cs generalizing n with
  | case1 =>
    have hn : n % 3 = n := by
      rcases h with h | h
      · omega
      · exact Nat.mod_eq_of_lt (by omega)
    simp [quotesAfter, hn]
  | case2 r ih =>
    obtain rfl : n = 0 := by
      rcases h with h | h
      · exact h
      · simp [leadingQuotes] at h
        omega
    have hr := ih (.inl rfl)
    have hquotes :
        quotesAfter 0 (.char '"' :: .char '"' :: .char '"' :: r) = quotesAfter (0 + 3) r := rfl
    rw [hquotes, quotesAfter_add_three, ← hr]
    rfl
  | case3 r hthree ih =>
    have hr := ih (.inl rfl)
    rw [show quotesAfter n (.char '\\' :: r) = quotesAfter 0 r from rfl, ← hr]
    rfl
  | case4 c r hthree hc ih =>
    rw [List.foldlM_cons]
    by_cases hq : c = '"'
    · subst hq
      have hlead : leadingQuotes r ≤ 1 := by
        match r with
        | [] => simp [leadingQuotes]
        | [d] => exact (List.takeWhile_sublist _).length_le
        | d :: e :: r =>
          by_cases hd : d = '"'
          · have he : e ≠ '"' := fun he => hthree r rfl (by rw [hd, he])
            simp [leadingQuotes, hd, he]
          · simp [leadingQuotes, hd]
      have hn : n + 1 + leadingQuotes r ≤ 2 := by
        rcases h with h | h
        · omega
        · simp [leadingQuotes] at h ⊢
          omega
      have hstep : readText true (.quotes n) '"' = some (.quotes (n + 1)) := by
        have : n < 2 := by omega
        simp [readText, this]
      rw [hstep, show quotesAfter n (.char '"' :: r) = quotesAfter (n + 1) r from rfl]
      exact ih (.inr hn)
    · have hstep : readText true (.quotes n) c = some (.quotes 0) := by simp [readText, hq, hc]
      have hquotes : quotesAfter n (c :: r) = quotesAfter 0 r := by simp [quotesAfter, hq]
      rw [hstep, hquotes]
      exact ih (.inl rfl)

/-! ## The end of a line -/

theorem guardEnd_append (cs : List CodePoint) (c : CodePoint) :
    guardEnd (cs ++ [c]) = cs ++ if c = '"' then [.char '\\', .char '"'] else [c] := by
  induction cs with
  | nil =>
    by_cases h : c = '"'
    · subst h
      rfl
    · simp [guardEnd, h]
  | cons d cs ih =>
    rw [List.cons_append, guardEnd.eq_3 _ _ (by simp), ih]
    rfl

theorem getLast?_escapeTriple (cs : List CodePoint) : (escapeTriple cs).getLast? = cs.getLast? := by
  fun_induction escapeTriple cs with
  | case1 => rfl
  | case2 r ih => simp [List.getLast?_cons, ih]
  | case3 r hthree ih => simp [List.getLast?_cons, ih]
  | case4 c r hthree hc ih => simp [List.getLast?_cons, ih]

/-- A line that ends in no quote stays as it is. -/
theorem guardEnd_of_no_quote {line : List CodePoint} (h : trailingQuotes line = 0) :
    guardEnd (escapeTriple line) = escapeTriple line := by
  have hlast := getLast?_escapeTriple line
  rcases List.eq_nil_or_concat (escapeTriple line) with he | ⟨y, c, he⟩
  · rw [he]
    rfl
  rw [List.concat_eq_append] at he
  rw [he] at hlast ⊢
  obtain ⟨z, rfl⟩ : ∃ z, line = z ++ [c] :=
    List.getLast?_eq_some_iff.mp (by rw [← hlast]; simp)
  have hc : c ≠ '"' := by
    rintro rfl
    rw [trailingQuotes_append, if_pos rfl] at h
    exact absurd h (by omega)
  rw [guardEnd_append, if_neg hc]

/-- Where the last quote of a line stands when the line is escaped: behind a backslash of its own
exactly if the quotes at the end of the line come in threes. -/
theorem exists_last_quote {line : List CodePoint} (h : trailingQuotes line ≠ 0) :
    ∃ y v, escapeTriple line = y ++ [.char '"'] ∧
      guardEnd (escapeTriple line) = y ++ [.char '\\', .char '"'] ∧
      y.foldlM (readText true) (.quotes 0) = some v ∧
      readText true v '"' = some (.quotes (trailingQuotes line % 3)) := by
  have hread := read_escapeTriple line (.inl rfl)
  rw [quotesAfter_zero] at hread
  have hlast := getLast?_escapeTriple line
  rcases List.eq_nil_or_concat line with rfl | ⟨z, c, rfl⟩
  · exact absurd rfl h
  rw [List.concat_eq_append] at h hread hlast ⊢
  obtain rfl : c = '"' := by
    by_contra hc
    rw [trailingQuotes_append, if_neg hc] at h
    exact h rfl
  rw [List.getLast?_concat] at hlast
  obtain ⟨y, hy⟩ := List.getLast?_eq_some_iff.mp hlast
  rw [hy, List.foldlM_append] at hread
  obtain ⟨v, hv, hend⟩ := Option.bind_eq_some_iff.mp hread
  obtain ⟨u, hu, hnil⟩ := foldlM_cons_eq_some hend
  obtain rfl : u = _ := Option.some.inj hnil
  exact ⟨y, v, hy, by rw [hy, guardEnd_append, if_pos rfl], hv, hu⟩

/-- **A line keeps apart from the quotes behind it when its last quote is escaped.** -/
theorem isContent_guardEnd {line : List CodePoint}
    (h : trailingQuotes line % 3 = 0 → trailingQuotes line = 0) :
    IsContent true (guardEnd (escapeTriple line)) := by
  by_cases hzero : trailingQuotes line = 0
  · rw [guardEnd_of_no_quote hzero, IsContent, read_escapeTriple line (.inl rfl), quotesAfter_zero,
      hzero]
  · obtain ⟨y, v, -, hguard, hread, hv⟩ := exists_last_quote hzero
    rw [hguard, IsContent, List.foldlM_append, hread]
    cases v with
    | quotes n => rfl
    | escape =>
      have hthrees : trailingQuotes line % 3 = 0 := by simpa [readText, eq_comm] using hv
      exact absurd (h hthrees) hzero

/-! ## Lines -/

theorem head?_escapeTriple {cs : List CodePoint} (h : (escapeTriple cs).head? = some (.char '\n')) :
    cs.head? = some (.char '\n') := by
  fun_cases escapeTriple cs with
  | case1 => exact h
  | case2 r => simp [escapeTriple] at h
  | case3 r hthree => simp [escapeTriple] at h
  | case4 c r hthree hc =>
    rw [escapeTriple.eq_3 _ _ hthree, if_neg hc] at h
    exact h

/-- The start of the first line is the start of the text. -/
theorem of_lines_eq_cons {cs l : List CodePoint} {c : CodePoint} {ls : List (List CodePoint)}
    (h : lines cs = (c :: l) :: ls) : ∃ r, cs = c :: r ∧ (l = [] ∨ ∃ ls', lines r = l :: ls') := by
  fun_cases lines cs with
  | case1 => cases h
  | case2 r => simp [lines] at h
  | case3 d r hcr hb =>
    rw [lines.eq_3 _ _ hcr, if_pos hb] at h
    simp at h
  | case4 d r hcr hb =>
    rw [lines.eq_3 _ _ hcr, if_neg hb] at h
    cases hr : lines r with
    | nil =>
      rw [hr] at h
      cases h
      exact ⟨r, rfl, .inl rfl⟩
    | cons k ks =>
      rw [hr] at h
      cases h
      exact ⟨r, rfl, .inr ⟨_, hr⟩⟩

/-- **A text is cut into the same lines before and after it is escaped.** -/
theorem lines_escapeTriple (cs : List CodePoint) :
    lines (escapeTriple cs) = (lines cs).map escapeTriple := by
  have hq : ∀ r, lines (.char '"' :: r) = Text.pushFront '"' (lines r) := fun r =>
    Text.lines_cons (by simp)
  have hb : ∀ r, lines (.char '\\' :: r) = Text.pushFront '\\' (lines r) := fun r =>
    Text.lines_cons (by simp)
  fun_induction escapeTriple cs with
  | case1 => rfl
  | case2 r ih =>
    simp only [hq, hb, ih]
    cases lines r <;> rfl
  | case3 r hthree ih =>
    simp only [hb, ih]
    cases lines r <;> rfl
  | case4 c r hthree hc ih =>
    by_cases hcr : c = '\r' ∧ r.head? = some (.char '\n')
    · obtain ⟨rfl, hr⟩ := hcr
      obtain ⟨r, rfl⟩ := List.head?_eq_some_iff.mp hr
      have hn : ∀ r, lines (.char '\n' :: r) = [] :: lines r := fun r => Text.lines_cons (by simp)
      have he : escapeTriple (.char '\n' :: r) = .char '\n' :: escapeTriple r :=
        escapeTriple.eq_3 _ _ (by simp)
      rw [he, hn, hn, List.map_cons, List.cons.injEq] at ih
      rw [he, lines, lines, List.map_cons, ih.2]
      rfl
    · have h1 : c = '\r' → r.head? ≠ some (.char '\n') := fun h1 h2 => hcr ⟨h1, h2⟩
      have h2 : c = '\r' → (escapeTriple r).head? ≠ some (.char '\n') :=
        fun hc' hr => h1 hc' (head?_escapeTriple hr)
      rw [Text.lines_cons h1, Text.lines_cons h2]
      split
      · rw [List.map_cons, ih]
        rfl
      · rw [ih]
        cases hl : lines r with
        | nil => simp [Text.pushFront, escapeTriple, hc]
        | cons k ks =>
          have hk : escapeTriple (c :: k) = c :: escapeTriple k := by
            refine (escapeTriple.eq_3 c k fun k' hq hk => ?_).trans (if_neg hc)
            subst hk
            obtain ⟨r1, rfl, hr1⟩ := of_lines_eq_cons hl
            obtain ⟨ls, hr1⟩ := hr1.resolve_left (by simp)
            obtain ⟨r2, rfl, -⟩ := of_lines_eq_cons hr1
            exact hthree r2 hq rfl
          simp [Text.pushFront, hk]

/-! ## Docstrings -/

theorem Clean.escapeTriple {cs : List CodePoint} (h : Clean cs) : Clean (escapeTriple cs) := by
  obtain ⟨hs, hr⟩ := h
  refine ⟨fun c hc => ?_, fun hm => hr ((mem_escapeTriple hm).resolve_left (by decide))⟩
  rcases mem_escapeTriple hc with rfl | hc
  · exact ⟨by decide, rfl⟩
  · exact hs c hc

theorem Clean.guardEnd {cs : List CodePoint} (h : Clean cs) : Clean (guardEnd cs) := by
  obtain ⟨hs, hr⟩ := h
  refine ⟨fun c hc => ?_, fun hm => hr ((mem_guardEnd hm).resolve_left (by decide))⟩
  rcases mem_guardEnd hc with rfl | hc
  · exact ⟨by decide, rfl⟩
  · exact hs c hc

theorem clean_of_mem_lines {cs l : List CodePoint} (h0 : IsSourceText cs) (hl : l ∈ lines cs) :
    Clean l :=
  ⟨fun c hm => h0 c (Text.of_mem_lines hl _ hm).1,
    fun hm => absurd (Text.of_mem_lines hl _ hm).2 (by decide)⟩

variable {indent : List CodePoint}

/-- A line of a docstring, with its line feed. -/
theorem isContent_docLine (hi : IsContent true indent) (l : List CodePoint) :
    IsContent true (docLine indent (escapeTriple l) ++ [.char '\n']) := by
  unfold docLine
  split
  · rfl
  · have hread := read_escapeTriple l (.inl rfl)
    rw [List.append_assoc]
    refine hi.append ?_
    unfold IsContent
    rw [List.foldlM_append, hread]
    rfl

/-- What stands between the quotes of a docstring of several lines. -/
def longContent (indent : List CodePoint) (ls : List (List CodePoint)) : List CodePoint :=
  .char '\n' :: (ls.flatMap (fun l => docLine indent (escapeTriple l) ++ [.char '\n']) ++ indent)

theorem isContent_longContent (hi : IsContent true indent) (ls : List (List CodePoint)) :
    IsContent true (longContent indent ls) := by
  have hn : IsContent true [.char '\n'] := rfl
  exact hn.append ((isContent_flatMap fun l _ => isContent_docLine hi l).append hi)

theorem clean_docLine (hi : Clean indent) {l : List CodePoint} (hl : Clean l) :
    Clean (docLine indent (escapeTriple l) ++ [.char '\n']) := by
  refine Clean.append ?_ (by decide)
  unfold docLine
  split
  · exact clean_nil
  · exact hi.append hl.escapeTriple

/-- **A docstring is a literal between three quotes.** -/
theorem docLines_eq (hi : IsContent true indent) (hc : Clean indent) {cs : List CodePoint}
    (h0 : IsSourceText cs) (h : KeepsApart cs) :
    ∃ content, IsContent true content ∧ Clean content ∧
      (docLines indent (escapeTriple cs)).flatMap (· ++ [.char '\n'])
        = indent ++ (tripleQuote ++ (content ++ (tripleQuote ++ [.char '\n']))) := by
  unfold docLines
  rw [lines_escapeTriple]
  match hl : lines cs with
  | [] => exact ⟨[], isContent_nil, clean_nil, by simp⟩
  | [l] =>
    have hclean : Clean l := clean_of_mem_lines h0 (by rw [hl]; exact List.mem_singleton_self l)
    exact ⟨_, isContent_guardEnd (h l hl), hclean.escapeTriple.guardEnd, by simp⟩
  | k :: l :: ls =>
    refine ⟨longContent indent (k :: l :: ls), isContent_longContent hi _, ?_, ?_⟩
    · have hn : Clean [.char '\n'] := by decide
      refine hn.append ((clean_flatMap fun l hm => ?_).append hc)
      exact clean_docLine hc (clean_of_mem_lines h0 (by rw [hl]; exact hm))
    · simp [longContent, List.flatMap_append, List.flatMap_map]

end Scan

end ModelBindings.Source
