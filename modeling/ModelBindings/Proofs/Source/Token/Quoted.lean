import ModelBindings.Proofs.Source.Token.Reading
import ModelBindings.Source.Literal

/-!
# Reading text literals

A text literal is read to its closing quotes when no quote in it closes it early and every backslash
starts an escape of a single character.

* `readText` : one more character of such a literal.
* `IsContent` : what may stand between the quotes.
* `Ends.text`, `Ends.longText` : a literal in front of the rest of a line.
* `isContent_escapeChars` : any text, escaped, may stand between quotes.
-/

set_option autoImplicit false

namespace ModelBindings.Source.Scan

variable {b : List Bracket} {c : CodePoint} {r cs : List CodePoint} {ts : List Token}
    {triple : Bool}
  {w w' : Within}

/-- What was read last, after one more character of a literal that does not end with it. -/
def readText (triple : Bool) (w : Within) (c : CodePoint) : Option Within :=
  match w with
  | .quotes n =>
    if c = '"' then (if triple && decide (n < 2) then some (.quotes (n + 1)) else none)
    else if c = '\n' && !triple then none
    else some (if c = '\\' then .escape else .quotes 0)
  | .escape => if c ∈ (['\\', '"', 'n', 'r'] : List CodePoint) then some (.quotes 0) else none

/-- What may stand between the quotes of a literal. -/
def IsContent (triple : Bool) (cs : List CodePoint) : Prop :=
  cs.foldlM (readText triple) (.quotes 0) = some (.quotes 0)

/-! ## One character -/

theorem step_text (h : readText triple w c = some w') (reversed : List CodePoint)
    (i : List (Nat × Nat)) (b : List Bracket) :
    step ⟨.text .plain '"' triple w reversed, i, b⟩ c
      = State.go ⟨.text .plain '"' triple w reversed, i, b⟩
        (.text .plain '"' triple w' (c :: reversed)) [] := by
  cases w with
  | quotes n =>
    simp only [readText] at h
    simp only [step, inText]
    split at h
    · rename_i hc
      split at h
      · rename_i hn
        cases h
        rw [if_pos hc, if_pos hn]
      · cases h
    · rename_i hc
      split at h
      · cases h
      · rename_i hn
        cases h
        rw [if_neg hc, if_neg hn]
  | escape =>
    simp only [readText] at h
    split at h
    · cases h
      rfl
    · cases h

/-- Where the escapes of a literal stand. -/
def Within.escapes : Within → EscapeState
  | .quotes _ => .outside
  | .escape => .backslash

theorem next?_escapes (h : readText triple w c = some w') :
    EscapeState.next? false w.escapes c = some w'.escapes := by
  cases w with
  | quotes n =>
    simp only [readText] at h
    simp only [Within.escapes, EscapeState.next?]
    split at h
    · rename_i hc
      split at h
      · cases h
        rw [if_neg (by rw [hc]; decide)]
      · cases h
    · split at h
      · cases h
      · cases h
        split <;> rfl
  | escape =>
    simp only [readText, List.mem_cons, List.not_mem_nil, or_false] at h
    split at h
    · rename_i hc
      cases h
      rcases hc with rfl | rfl | rfl | rfl <;> rfl
    · cases h

/-! ## Whole literals -/

theorem foldlM_cons_eq_some {α β : Type} {f : β → α → Option β} {a : α} {as : List α} {x y : β}
    (h : (a :: as).foldlM f x = some y) : ∃ z, f x a = some z ∧ as.foldlM f z = some y := by
  rw [List.foldlM_cons] at h
  exact Option.bind_eq_some_iff.mp h

/-- The characters of a literal are read one after another. -/
theorem run_text (h : cs.foldlM (readText triple) w = some w') (reversed : List CodePoint)
    (i : List (Nat × Nat)) (b : List Bracket) (r : List CodePoint) :
    run ⟨.text .plain '"' triple w reversed, i, b⟩ (cs ++ r)
      = run ⟨.text .plain '"' triple w' (cs.reverse ++ reversed), i, b⟩ r := by
  induction cs generalizing w reversed with
  | nil =>
    cases h
    rfl
  | cons c cs ih =>
    obtain ⟨v, hv, h⟩ := foldlM_cons_eq_some h
    rw [List.cons_append, run_go (step_text hv reversed i b), ih h]
    simp

theorem foldlM_escapes (h : cs.foldlM (readText triple) w = some w') :
    cs.foldlM (EscapeState.next? false) w.escapes = some w'.escapes := by
  induction cs generalizing w with
  | nil =>
    cases h
    rfl
  | cons c cs ih =>
    obtain ⟨v, hv, h⟩ := foldlM_cons_eq_some h
    rw [List.foldlM_cons, next?_escapes hv]
    exact ih h

/-- The literal has no fields and its escapes are all right. -/
theorem fields?_eq (h : IsContent triple cs) : TextKind.plain.fields? cs = some [] := by
  have hescapes : hasValidEscapes false cs = true := decide_eq_true (foldlM_escapes h)
  simp [TextKind.fields?, TextKind.plain, TextKind.accepts, hescapes]

theorem endText_eq (h : IsContent triple cs) (s : State) :
    endText s .plain cs = s.go .between [.text false []] := by
  unfold endText
  rw [fields?_eq h]
  rfl

/-- **A text literal in front of the rest of a line.** -/
theorem Ends.text (h : IsContent false cs) (hclean : Clean cs) (hc : c ≠ '"')
    (hr : Ends b (c :: r) ts) :
      Ends b (.char '"' :: (cs ++ .char '"' :: c :: r)) (.text false [] :: ts) := by
  have hquote : Clean [.char '"'] := by decide
  refine ⟨fun i => ?_, hquote.append (hclean.append (hquote.append hr.clean))⟩
  rw [run_go (show step ⟨.between, i, b⟩ '"'
    = State.go ⟨.between, i, b⟩ (.quote .plain '"') [] from rfl)]
  cases cs with
  | nil =>
    have hend : step ⟨.secondQuote .plain '"', i, b⟩ c
        = endToken ⟨.secondQuote .plain '"', i, b⟩ [.text false []] c := if_neg hc
    rw [List.nil_append, run_go (show step ⟨.quote .plain '"', i, b⟩ '"'
      = State.go ⟨.quote .plain '"', i, b⟩ (.secondQuote .plain '"') [] from rfl),
      run_endToken hend, hr.run_eq]
    rfl
  | cons d cs =>
    obtain ⟨v, hv, hrest⟩ := foldlM_cons_eq_some h
    have hd : d ≠ '"' := by
      rintro rfl
      cases hv
    have hfirst : step ⟨.quote .plain '"', i, b⟩ d
        = State.go ⟨.quote .plain '"', i, b⟩ (.text .plain '"' false v [d]) [] :=
      (if_neg hd).trans (step_text hv [] i b)
    have hlast : ∀ reversed, step ⟨.text .plain '"' false (.quotes 0) reversed, i, b⟩ '"'
        = endText ⟨.text .plain '"' false (.quotes 0) reversed, i, b⟩ .plain reversed.reverse :=
      fun _ => rfl
    rw [List.cons_append, run_go hfirst, run_text hrest, run, hlast,
      show (cs.reverse ++ [d]).reverse = d :: cs by simp, endText_eq h]
    show behind [.text false []] (run ⟨.between, i, b⟩ (c :: r)) = _
    rw [hr.run_eq]
    rfl

/-- **A text literal with three quotes in front of the rest of a line.** -/
theorem Ends.longText (h : IsContent true cs) (hclean : Clean cs) (hr : Ends b r ts) :
    Ends b (tripleQuote ++ (cs ++ (tripleQuote ++ r))) (.text false [] :: ts) := by
  have hquotes : Clean tripleQuote := by decide
  refine ⟨fun i => ?_, hquotes.append (hclean.append (hquotes.append hr.clean))⟩
  have hopen : ∀ rest, run ⟨.between, i, b⟩ (tripleQuote ++ rest)
      = run ⟨.text .plain '"' true (.quotes 0) [], i, b⟩ rest := fun _ => rfl
  have hclose : ∀ reversed rest,
      run ⟨.text .plain '"' true (.quotes 0) reversed, i, b⟩ (tripleQuote ++ rest)
        = (endText ⟨.text .plain '"' true (.quotes 2) (.char '"' :: .char '"' :: reversed), i, b⟩
          .plain
            reversed.reverse).andThen fun s => run s rest := fun _ _ => rfl
  rw [hopen, run_text h, hclose, List.append_nil, List.reverse_reverse, endText_eq h]
  show behind [.text false []] (run ⟨.between, i, b⟩ r) = _
  rw [hr.run_eq]
  rfl

/-! ## Contents -/

theorem isContent_nil : IsContent triple [] := rfl

theorem IsContent.append {u v : List CodePoint} (hu : IsContent triple u)
    (hv : IsContent triple v) :
    IsContent triple (u ++ v) := by
  unfold IsContent
  rw [List.foldlM_append, hu]
  exact hv

theorem isContent_flatMap {α : Type} {f : α → List CodePoint} {as : List α}
    (h : ∀ a ∈ as, IsContent triple (f a)) : IsContent triple (as.flatMap f) := by
  induction as with
  | nil => rfl
  | cons a as ih =>
    exact (h a List.mem_cons_self).append (ih fun x hx => h x (List.mem_cons_of_mem a hx))

/-- A text without backslash, quote and line feed may stand between quotes. -/
theorem isContent_of_plain (h : ∀ d ∈ cs, d ≠ '"' ∧ d ≠ '\n' ∧ d ≠ '\\') :
    IsContent triple cs := by
  unfold IsContent
  induction cs with
  | nil => rfl
  | cons d cs ih =>
    obtain ⟨hq, hn, hb⟩ := h d List.mem_cons_self
    have hd : readText triple (.quotes 0) d = some (.quotes 0) := by simp [readText, hq, hn, hb]
    rw [List.foldlM_cons, hd]
    exact ih fun e he => h e (List.mem_cons_of_mem d he)

theorem isContent_of_inWord (h : ∀ d ∈ cs, inWord d = true) : IsContent triple cs := by
  refine isContent_of_plain fun d hd => ⟨?_, ?_, ?_⟩ <;>
  · rintro rfl
    exact absurd (h _ hd) (by decide)

theorem isContent_escapeChar (d : CodePoint) : IsContent false (escapeChar d) := by
  unfold escapeChar
  split
  · rfl
  · rename_i hb
    split
    · rfl
    · rename_i hq
      split
      · rfl
      · rename_i hn
        split
        · rfl
        · simp [IsContent, readText, hb, hq, hn]

/-- **Any text may stand between quotes when it is escaped.** -/
theorem isContent_escapeChars (cs : List CodePoint) : IsContent false (escapeChars cs) :=
  isContent_flatMap fun d _ => isContent_escapeChar d

/-- Apart from the marks of escapes, an escaped character is the character itself. -/
theorem mem_escapeChar {d e : CodePoint} (h : d ∈ escapeChar e) :
    d ∈ (['\\', '"', 'n', 'r'] : List CodePoint) ∨ d = e ∧ e ≠ '\n' ∧ e ≠ '\r' := by
  unfold escapeChar at h
  grind

theorem clean_escapeChars (h : IsSourceText cs) : Clean (escapeChars cs) := by
  constructor
  · intro c hc
    obtain ⟨d, hd, hm⟩ := List.mem_flatMap.mp hc
    have hmarks : IsSourceText (['\\', '"', 'n', 'r'] : List CodePoint) := by decide
    rcases mem_escapeChar hm with hm | ⟨rfl, -⟩
    · exact hmarks c hm
    · exact h c hd
  · intro hm
    obtain ⟨d, hd, hm⟩ := List.mem_flatMap.mp hm
    rcases mem_escapeChar hm with hm | ⟨rfl, -, hr⟩
    · exact absurd hm (by decide)
    · exact hr rfl

end ModelBindings.Source.Scan
