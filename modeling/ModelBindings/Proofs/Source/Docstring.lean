import ModelBindings.Proofs.Source.Layout
import ModelBindings.Proofs.Source.Literal

/-!
# Docstrings

A docstring is one literal behind its indentation. What it stands for are the lines of the
documentation, whatever they hold, with one exception: a single line with three quotes at its end,
or six, or nine, closes the literal early.

* `IsDocstring` : a docstring that closes where it ends, and what it stands for.
* `docstring_line_iff` : the single lines that are read as they are written.
* `docstring_lines` : several lines are always read as they are written, and stay indented.
-/

set_option autoImplicit false

namespace ModelBindings.Source

open Text (lines IsUncut isBlankText)
open Scan (IsContent longContent isContent_longContent)

/-- The text is the indentation and one literal between three quotes, which closes where the text
ends and stands for `value`. -/
def IsDocstring (indent value text : List CodePoint) : Prop :=
  ∃ content, text = indent ++ (tripleQuote ++ (content ++ tripleQuote)) ∧
    closeAt tripleQuote (content ++ tripleQuote) = some (content, []) ∧
    decode content = some value

theorem isDocstring_of_isContent {content value : List CodePoint} (indent : List CodePoint)
    (hcontent : IsContent true content) (hvalue : decode content = some value) :
    IsDocstring indent value (indent ++ (tripleQuote ++ (content ++ tripleQuote))) := by
  have hclose := closeAt_of_isContent hcontent []
  rw [List.append_nil] at hclose
  exact ⟨content, rfl, hclose, hvalue⟩

/-- A docstring consists of its lines. -/
theorem toList_docstring (indent text : Text) :
    (docstring indent text).toList ++ [.char '\n']
      = (docLines indent.toList (escapeTriple text.toList)).flatMap (· ++ [.char '\n']) := by
  have hne : (docLines indent.toList (escapeTriple text.toList)).map Text.ofList ≠ [] := by
    simpa using docLines_ne_nil _ _
  have h := congrArg Text.toList (Text.join_newline hne)
  rw [Text.toList_append, Text.toList_newline, Text.toList_closed, List.flatMap_map] at h
  rw [docstring, h]

/-! ## One line -/

/-- A text of one line, or of none, stands between the quotes of one line. -/
theorem toList_docstring_line (indent text : Text) (h : (lines text.toList).length ≤ 1) :
    (docstring indent text).toList = indent.toList ++ (tripleQuote
      ++ (guardEnd (escapeTriple ((lines text.toList).headD [])) ++ tripleQuote)) := by
  have hlist := toList_docstring indent text
  unfold docLines at hlist
  rw [Scan.lines_escapeTriple] at hlist
  match hl : lines text.toList, h with
  | [], _ =>
    rw [hl] at hlist
    exact List.append_cancel_right (hlist.trans (by simp [guardEnd, escapeTriple]))
  | [l], _ =>
    rw [hl] at hlist
    exact List.append_cancel_right (hlist.trans (by simp))

/-- **A single line is read as it is written, unless the quotes at its end come in threes.** -/
theorem docstring_line_iff (n : Nat) (text : Text) (h : (lines text.toList).length ≤ 1) :
    IsDocstring (List.replicate n (.char ' ')) ((lines text.toList).headD [])
        (docstring (Text.ofList (List.replicate n (.char ' '))) text).toList ↔
      ¬ (0 < trailingQuotes ((lines text.toList).headD []) ∧
        3 ∣ trailingQuotes ((lines text.toList).headD [])) := by
  rw [toList_docstring_line _ _ h, Text.toList_ofList]
  generalize (lines text.toList).headD [] = line
  constructor
  · rintro ⟨content, htext, hclose, -⟩ ⟨hpos, hthrees⟩
    have hcontent : guardEnd (escapeTriple line) = content := by
      simpa using htext
    obtain ⟨y, -, hearly⟩ := closeAt_guardEnd_of_threes (Nat.ne_of_gt hpos)
      (Nat.mod_eq_zero_of_dvd hthrees)
    -- one quote is left behind the literal
    rw [hcontent, hclose] at hearly
    simp at hearly
  · intro hapart
    have hthrees : trailingQuotes line % 3 = 0 → trailingQuotes line = 0 := by
      intro hmod
      by_contra hzero
      exact hapart ⟨Nat.pos_of_ne_zero hzero, Nat.dvd_of_mod_eq_zero hmod⟩
    exact isDocstring_of_isContent _ (Scan.isContent_guardEnd hthrees) (decode_guardEnd hthrees)

/-- A name in quotes at the end of a line, with three quotes and a backslash in front of it. -/
theorem docstring_quoted_name :
    (lines ("\"\"\"a\\\" is \"b\"\n" : Text).toList).length ≤ 1 ∧
      IsDocstring (List.replicate 4 (.char ' ')) ("\"\"\"a\\\" is \"b\"" : Text).toList
        (docstring (Text.ofList (List.replicate 4 (.char ' ')))
          "\"\"\"a\\\" is \"b\"\n").toList := by
  have hone : (lines ("\"\"\"a\\\" is \"b\"\n" : Text).toList).length ≤ 1 := by decide +kernel
  have hline : (lines ("\"\"\"a\\\" is \"b\"\n" : Text).toList).headD []
      = ("\"\"\"a\\\" is \"b\"" : Text).toList := by decide +kernel
  have hread := docstring_line_iff 4 _ hone
  rw [hline] at hread
  exact ⟨hone, hread.mpr (by decide +kernel)⟩

/-- Three quotes close their docstring one quote early. -/
theorem docstring_three_quotes :
    (lines ("\"\"\"" : Text).toList).length ≤ 1 ∧
      ¬ IsDocstring (List.replicate 4 (.char ' ')) ((lines ("\"\"\"" : Text).toList).headD [])
        (docstring (Text.ofList (List.replicate 4 (.char ' '))) "\"\"\"").toList := by
  refine ⟨by decide +kernel, ?_⟩
  rintro ⟨content, htext, hclose, -⟩
  have hdocstring : (docstring (Text.ofList (List.replicate 4 (.char ' '))) "\"\"\"").toList
      = List.replicate 4 (.char ' ') ++ (tripleQuote
        ++ (("\\\"\\\"\\\\\"" : Text).toList ++ tripleQuote)) := by
    decide +kernel
  rw [hdocstring, List.append_cancel_left_eq, List.append_cancel_left_eq,
    List.append_cancel_right_eq] at htext
  rw [← htext] at hclose
  exact absurd hclose (by decide)

/-! ## Several lines -/

theorem isBlankText_escapeTriple (cs : List CodePoint) :
    isBlankText (escapeTriple cs) = isBlankText cs := by
  have hquote : Text.isBlank '"' = false := by decide
  have hbackslash : Text.isBlank '\\' = false := by decide
  unfold isBlankText
  fun_induction escapeTriple cs with
  | case1 => rfl
  | case2 r ih => simp [hquote, hbackslash]
  | case3 r hthree ih => simp [hbackslash]
  | case4 c r hthree hc ih => simp [ih]

/-- The lines of a documentation behind an indentation that is left out of blank ones. -/
def indentedLines (indent : List CodePoint) (ls : List (List CodePoint)) : List CodePoint :=
  ls.flatMap fun l => (if l.all Text.isBlank then [] else indent ++ l) ++ [.char '\n']

variable {indent : List CodePoint}

theorem decode_docLine (hi : .char '\\' ∉ indent) (l : List CodePoint) :
    decode (docLine indent (escapeTriple l) ++ [.char '\n'])
      = some ((if l.all Text.isBlank then [] else indent ++ l) ++ [.char '\n']) := by
  refine decode_append_of_some ?_ rfl
  rw [docLine, isBlankText_escapeTriple, isBlankText]
  split
  · rfl
  · exact decode_append_of_some (decode_of_plain hi) (decode_escapeTriple l)

theorem decode_longContent (hi : .char '\\' ∉ indent) (ls : List (List CodePoint)) :
    decode (longContent indent ls) = some (.char '\n' :: (indentedLines indent ls ++ indent)) := by
  rw [longContent, decode_cons (by decide),
    decode_append_of_some (decode_flatMap fun l _ => decode_docLine hi l) (decode_of_plain hi)]
  rfl

/-- A text of several lines stands on lines of its own between the quotes. -/
theorem toList_docstring_lines (indent text : Text) (h : 2 ≤ (lines text.toList).length) :
    (docstring indent text).toList = indent.toList ++ (tripleQuote
      ++ (longContent indent.toList (lines text.toList) ++ tripleQuote)) := by
  have hlist := toList_docstring indent text
  unfold docLines at hlist
  rw [Scan.lines_escapeTriple] at hlist
  match hl : lines text.toList, h with
  | k :: l :: ls, _ =>
    rw [hl] at hlist
    refine List.append_cancel_right (hlist.trans ?_)
    simp [longContent, List.flatMap_map]

/-- The lines of a docstring of several lines hold no line boundary. -/
theorem isUncut_docLine (hi : IsUncut indent) {l : List CodePoint} (hl : IsUncut l) :
    IsUncut (docLine indent (escapeTriple l)) := by
  unfold docLine
  split
  · exact fun c hc => nomatch hc
  · refine hi.append fun c hc => ?_
    rcases mem_escapeTriple hc with rfl | hc
    · decide
    · exact hl c hc

theorem lines_docstring (hi : IsUncut indent) (cs : List CodePoint) :
    lines (indent ++ (tripleQuote ++ (longContent indent (lines cs) ++ tripleQuote)))
      = ((indent ++ tripleQuote) :: (lines cs).map fun l => docLine indent (escapeTriple l))
        ++ [indent ++ tripleQuote] := by
  have hquotes : IsUncut tripleQuote := by
    intro c hc
    rw [List.eq_of_mem_replicate (show c ∈ List.replicate 3 (.char '"') from hc)]
    decide
  have huncut : ∀ l ∈ (indent ++ tripleQuote)
      :: (lines cs).map (fun l => docLine indent (escapeTriple l)), IsUncut l := by
    intro l hl
    rcases List.mem_cons.mp hl with rfl | hl
    · exact hi.append hquotes
    · obtain ⟨k, hk, rfl⟩ := List.mem_map.mp hl
      exact isUncut_docLine hi fun c hc => (Text.of_mem_lines hk c hc).2
  rw [← Text.lines_flatMap_append huncut (by simp [tripleQuote]) (hi.append hquotes)]
  simp [longContent, List.flatMap_map]

/-- A line of a docstring is empty or indented. -/
theorem head?_of_mem_docstring {n : Nat} (hn : n ≠ 0) {cs l : List CodePoint}
    (hl : l ∈ ((List.replicate n (CodePoint.char ' ') ++ tripleQuote)
        :: (lines cs).map fun l => docLine (List.replicate n (.char ' ')) (escapeTriple l))
      ++ [List.replicate n (.char ' ') ++ tripleQuote]) : l = [] ∨ l.head? = some (.char ' ') := by
  have hindented : ∀ r, (List.replicate n (CodePoint.char ' ') ++ r).head? = some (.char ' ') := by
    intro r
    obtain ⟨k, rfl⟩ := Nat.exists_eq_succ_of_ne_zero hn
    rfl
  simp only [List.cons_append, List.mem_cons, List.mem_append, List.mem_map, List.not_mem_nil,
    or_false] at hl
  rcases hl with rfl | ⟨k, -, rfl⟩ | rfl
  · exact .inr (hindented _)
  · unfold docLine
    split
    · exact .inl rfl
    · exact .inr (hindented _)
  · exact .inr (hindented _)

/-- **Several lines are read as they are written, and stay indented.** -/
theorem docstring_lines (n : Nat) (text : Text) (h : 2 ≤ (lines text.toList).length) :
    IsDocstring (List.replicate n (.char ' '))
        (.char '\n' :: (indentedLines (List.replicate n (.char ' ')) (lines text.toList)
          ++ List.replicate n (.char ' ')))
        (docstring (Text.ofList (List.replicate n (.char ' '))) text).toList ∧
      ∀ l ∈ lines (docstring (Text.ofList (List.replicate n (.char ' '))) text).toList,
        l = [] ∨ n = 0 ∨ l.head? = some (.char ' ') := by
  have hspace : ∀ c ∈ List.replicate n (CodePoint.char ' '), c = ' ' :=
    fun c hc => List.eq_of_mem_replicate hc
  have hplain : .char '\\' ∉ List.replicate n (CodePoint.char ' ') :=
    fun hm => absurd (hspace _ hm) (by decide)
  have hcontent : IsContent true (List.replicate n (.char ' ')) := by
    refine Scan.isContent_of_plain fun c hc => ?_
    rw [hspace c hc]
    decide
  have huncut : IsUncut (List.replicate n (.char ' ')) := by
    intro c hc
    rw [hspace c hc]
    decide
  rw [toList_docstring_lines _ _ h, Text.toList_ofList]
  constructor
  · exact isDocstring_of_isContent _ (isContent_longContent hcontent _)
      (decode_longContent hplain _)
  · intro l hl
    rw [lines_docstring huncut] at hl
    by_cases hn : n = 0
    · exact .inr (.inl hn)
    · exact (head?_of_mem_docstring hn hl).imp_right .inr

/-- Four lines with different boundaries behind them: quotes at the end, a backslash, blanks. -/
def fourLines : Text := "a\"\"\"\n\\\u2028  \r\n\"\""

theorem docstring_four_lines :
    2 ≤ (lines fourLines.toList).length ∧
      IsDocstring (List.replicate 4 (.char ' '))
        ("\n    a\"\"\"\n    \\\n\n    \"\"\n    " : Text).toList
        (docstring (Text.ofList (List.replicate 4 (.char ' '))) fourLines).toList ∧
      ∀ l ∈ lines (docstring (Text.ofList (List.replicate 4 (.char ' '))) fourLines).toList,
        l = [] ∨ 4 = 0 ∨ l.head? = some (.char ' ') := by
  have hlines : 2 ≤ (lines fourLines.toList).length := by decide +kernel
  have hvalue : .char '\n' :: (indentedLines (List.replicate 4 (.char ' ')) (lines fourLines.toList)
        ++ List.replicate 4 (.char ' '))
      = ("\n    a\"\"\"\n    \\\n\n    \"\"\n    " : Text).toList := by decide +kernel
  have hread := docstring_lines 4 _ hlines
  rw [hvalue] at hread
  exact ⟨hlines, hread⟩

end ModelBindings.Source
