import ModelBindings.Proofs.Datamodel.Names
import ModelBindings.Proofs.Text.Word

/-!
# Reading the rest of a line

A line is read from its end: what is in front of a part that is known to read as some tokens adds
tokens of its own.

* `Scan.Ends` : the rest of a line, what it reads as, and the brackets that are open before it.
* `Ends.fixed`, `Ends.word`, `Ends.dot`, `Ends.operator` : a fixed text, a word, a point or another
  operator in front of it.
-/

set_option autoImplicit false

namespace ModelBindings.Source.Scan

variable {b : List Bracket} {c : CodePoint} {r : List CodePoint} {ts : List Token}

/-! ## Steps -/

theorem behind_andThen (us : List Token) (x : Result) (f : State → Result) :
    (behind us x).andThen f = behind us (x.andThen f) := by
  obtain ⟨vs, _ | s⟩ := x
  · rfl
  · simp [behind, Result.andThen]

/-- What is read between tokens does not depend on what was read before. -/
theorem startToken_between (m : Mode) (i : List (Nat × Nat)) (b : List Bracket) (c : CodePoint) :
    startToken ⟨m, i, b⟩ c = startToken ⟨.between, i, b⟩ c := rfl

/-- A token that ends before a character is left in front of what is read from there. -/
theorem run_endToken {s : State} {m : Mode} {i : List (Nat × Nat)} {us : List Token}
    (h : step s c = endToken ⟨m, i, b⟩ us c) (r : List CodePoint) :
    run s (c :: r) = behind us (run ⟨.between, i, b⟩ (c :: r)) := by
  rw [run, h, endToken, startToken_between, behind_andThen]
  rfl

/-- A step that leaves nothing goes on in its state. -/
theorem run_go {s : State} {m : Mode} (h : step s c = s.go m []) (r : List CodePoint) :
    run s (c :: r) = run { s with mode := m } r := by
  rw [run, h]
  rfl

/-! ## Clean texts -/

/-- The text can stand in a source text: it has neither a zero character nor a surrogate. -/
def IsSourceText (cs : List CodePoint) : Prop :=
  ∀ c ∈ cs, c ≠ '\x00' ∧ c.isSurrogate = false

instance (cs : List CodePoint) : Decidable (IsSourceText cs) :=
  inferInstanceAs (Decidable (∀ c ∈ cs, _))

/-- The text can stand in a source text and has no carriage return. -/
def Clean (cs : List CodePoint) : Prop :=
  IsSourceText cs ∧ .char '\r' ∉ cs

instance (cs : List CodePoint) : Decidable (Clean cs) :=
  inferInstanceAs (Decidable (_ ∧ _))

theorem Clean.zero {cs : List CodePoint} (h : Clean cs) : .char '\x00' ∉ cs :=
  fun hm => (h.1 _ hm).1 rfl

theorem clean_nil : Clean [] := ⟨List.forall_mem_nil _, List.not_mem_nil⟩

theorem Clean.append {u v : List CodePoint} (hu : Clean u) (hv : Clean v) : Clean (u ++ v) :=
  ⟨List.forall_mem_append.mpr ⟨hu.1, hv.1⟩, by simp [hu.2, hv.2]⟩

theorem clean_flatMap {α : Type} {f : α → List CodePoint} {as : List α}
    (h : ∀ a ∈ as, Clean (f a)) : Clean (as.flatMap f) := by
  constructor
  · intro c hc
    obtain ⟨a, ha, hm⟩ := List.mem_flatMap.mp hc
    exact (h a ha).1 c hm
  · intro hc
    obtain ⟨a, ha, hm⟩ := List.mem_flatMap.mp hc
    exact (h a ha).2 hm

theorem clean_of_isIdentifier {w : List CodePoint} (h : Text.isIdentifier w = true) : Clean w := by
  have hw := inWord_of_isIdentifier h
  refine ⟨fun c hc => ⟨?_, isSurrogate_of_isIdentifier h c hc⟩,
    fun hr => absurd (hw _ hr) (by decide)⟩
  rintro rfl
  exact absurd (hw _ hc) (by decide)

/-! ## The rest of a line -/

/-- The start of a line. -/
def lineStart (i : List (Nat × Nat)) : State :=
  ⟨.margin .start, i, []⟩

/-- The rest of a line within brackets reads as tokens, and the next line starts behind it. -/
structure Ends (b : List Bracket) (cs : List CodePoint) (ts : List Token) : Prop where
  run_eq : ∀ i, run ⟨.between, i, b⟩ cs = ⟨ts, some (lineStart i)⟩
  clean : Clean cs

theorem Ends.newline : Ends [] [.char '\n'] [.newline] :=
  ⟨fun _ => rfl, by decide⟩

/-- A text in front that reads as tokens of its own. -/
theorem Ends.fixed {b' : List Bracket} (cs : List CodePoint) (us : List Token)
    (h : ∀ i r, run ⟨.between, i, b⟩ (cs ++ r) = behind us (run ⟨.between, i, b'⟩ r))
    (hc : Clean cs) (hr : Ends b' r ts) : Ends b (cs ++ r) (us ++ ts) := by
  refine ⟨fun i => ?_, hc.append hr.clean⟩
  rw [h, hr.run_eq]
  rfl

/-- A token that the first character of the rest ends. -/
theorem Ends.token {cs : List CodePoint} {t : Token} {m : Mode}
    (h : ∀ i r, run ⟨.between, i, b⟩ (cs ++ r) = run ⟨m, i, b⟩ r)
    (hend : ∀ i, step ⟨m, i, b⟩ c = endToken ⟨m, i, b⟩ [t] c) (hc : Clean cs)
    (hr : Ends b (c :: r) ts) : Ends b (cs ++ c :: r) (t :: ts) := by
  refine ⟨fun i => ?_, hc.append hr.clean⟩
  rw [h, run_endToken (hend i), hr.run_eq]
  rfl

/-! ## Words -/

/-- A character that may follow a word: none of a word, and no quote. -/
def endsWord (c : CodePoint) : Bool :=
  !inWord c && !Formatted.isQuote c

theorem startToken_word (s : State) (h : startsWord c = true) :
    startToken s c = s.go (.word [c] false) [] := by
  have hne : ∀ d, startsWord d = false → c ≠ d := by
    rintro d hd rfl
    rw [h] at hd
    cases hd
  unfold startToken
  rw [if_neg, if_neg (hne _ (by decide)), if_neg (hne _ (by decide)), if_neg (hne _ (by decide)),
    if_pos h]
  simp only [not_or]
  exact ⟨hne _ (by decide), hne _ (by decide), hne _ (by decide)⟩

/-- The characters of a word are read one after another. -/
theorem run_inWord {w : List CodePoint} (h : ∀ c ∈ w, inWord c = true) (reversed : List CodePoint)
    (i : List (Nat × Nat)) (b : List Bracket) (r : List CodePoint) :
    run ⟨.word reversed false, i, b⟩ (w ++ r)
      = run ⟨.word (w.reverse ++ reversed) false, i, b⟩ r := by
  induction w generalizing reversed with
  | nil => rfl
  | cons c w ih =>
    have hstep : step ⟨.word reversed false, i, b⟩ c
        = State.go ⟨.word reversed false, i, b⟩ (.word (c :: reversed) false) [] :=
      if_pos (h c List.mem_cons_self)
    rw [List.cons_append, run_go hstep, ih fun d hd => h d (List.mem_cons_of_mem c hd)]
    simp

/-- **A word in front of the rest of a line.** -/
theorem Ends.spelled {w : List CodePoint} {t : Token}
    (hne : ∃ d, w.head? = some d ∧ startsWord d = true)
    (hw : ∀ d ∈ w, inWord d = true) (hclean : Clean w) (ht : Token.ofWord? w = some t)
    (hc : endsWord c = true)
    (hr : Ends b (c :: r) ts) : Ends b (w ++ c :: r) (t :: ts) := by
  obtain ⟨d, hd, hstart⟩ := hne
  cases w with
  | nil => cases hd
  | cons e w =>
    obtain rfl : e = d := Option.some.inj hd
    simp only [endsWord, Bool.and_eq_true, Bool.not_eq_true'] at hc
    refine hr.token (m := .word (w.reverse ++ [e]) false) (fun i r => ?_) (fun i => ?_)
      hclean
    · have hstep : step ⟨.between, i, b⟩ e
          = State.go ⟨.between, i, b⟩ (.word [e] false) [] := startToken_word _ hstart
      rw [List.cons_append, run_go hstep,
        run_inWord fun d hd => hw d (List.mem_cons_of_mem e hd)]
    · have hword : wordToken? (w.reverse ++ [e]) false = some t := by
        simp only [wordToken?, List.reverse_append, List.reverse_reverse, List.reverse_singleton,
          List.singleton_append, ht]
        cases t <;> rfl
      simp only [step, onWord, hc, Bool.false_and, endWord, hword]
      rfl

/-! ## Names -/

/-- The text is an identifier and no reserved word. -/
def IsFreeName (s : Text) : Prop :=
  IsName s ∧ isKeyword s = false

instance (s : Text) : Decidable (IsFreeName s) :=
  inferInstanceAs (Decidable (_ ∧ _))

theorem ofSpelling?_eq_none {s : Text} (h : isKeyword s = false) :
    Keyword.ofSpelling? s = none := by
  refine List.find?_eq_none.mpr fun k hk he => ?_
  have hmem : s ∈ keywords := by
    rw [← Keyword.map_spelling_all, ← beq_iff_eq.mp he]
    exact List.mem_map_of_mem hk
  rw [isKeyword, List.contains_iff_mem.mpr hmem] at h
  cases h

theorem ofWord?_name {s : Text} (h : IsFreeName s) : Token.ofWord? s.toList = some (.name s) := by
  simp only [Token.ofWord?, Text.ofList_toList, ofSpelling?_eq_none h.2]
  exact if_pos h.1

theorem startsWord_of_isIdentifier {cs : List CodePoint} (h : Text.isIdentifier cs = true) :
    ∃ d, cs.head? = some d ∧ startsWord d = true := by
  cases cs with
  | nil => cases h
  | cons d w =>
    refine ⟨d, rfl, ?_⟩
    simp only [Text.isIdentifier, Bool.and_eq_true] at h
    have hd := h.1
    unfold Text.isIdentifierStart at hd
    split at hd
    · simp only [startsWord, hd, Bool.true_or]
    · simp only [startsWord, Bool.or_eq_true, decide_eq_true_eq]
      omega

/-- **A name in front of the rest of a line.** -/
theorem Ends.word {s : Text} (hs : IsFreeName s) (hc : endsWord c = true)
    (hr : Ends b (c :: r) ts) : Ends b (s.toList ++ c :: r) (.name s :: ts) :=
  hr.spelled (startsWord_of_isIdentifier hs.1) (inWord_of_isIdentifier hs.1)
    (clean_of_isIdentifier hs.1)
    (ofWord?_name hs) hc

theorem isDigit_eq_false_of_startsWord (h : startsWord c = true) : Text.isDigit c = false := by
  simp only [startsWord, Bool.or_eq_true, isAlpha_iff, decide_eq_true_eq, beq_iff_eq] at h
  refine decide_eq_false fun hd => ?_
  have hle : c.toNat ≤ 57 := hd.2
  rcases h with (h | rfl) | h
  · omega
  · exact absurd hle (by decide)
  · omega

/-- A point in front of a name. -/
theorem Ends.dot {s : Text} (hs : IsFreeName s) (hr : Ends b (s.toList ++ r) ts) :
    Ends b (.char '.' :: (s.toList ++ r)) (.op .dot :: ts) := by
  obtain ⟨c, hc, hstart⟩ := startsWord_of_isIdentifier hs.1
  obtain ⟨w, hw⟩ := List.head?_eq_some_iff.mp hc
  rw [hw] at hr ⊢
  have hpoint : c ≠ '.' := by
    rintro rfl
    exact absurd hstart (by decide)
  have hdigit := isDigit_eq_false_of_startsWord hstart
  show Ends b ([.char '.'] ++ c :: (w ++ r)) _
  refine hr.token (m := .point false) (fun _ _ => rfl) (fun i => ?_) (by decide)
  simp only [step, onPoint, if_neg hpoint, hdigit]
  rfl

/-- An operator in front of a character that makes it no longer. -/
theorem Ends.operator {o : Operator} {d : CodePoint}
    (hd : ∀ s : State, startToken s d = s.go (.operator o) []) (ho : o.extend? c = none)
    (hclean : Clean [d]) (hr : Ends b (c :: r) ts) : Ends b (d :: c :: r) (.op o :: ts) := by
  show Ends b ([d] ++ c :: r) _
  refine hr.token (m := .operator o) (fun i r => ?_) (fun i => ?_) hclean
  · have hstep : step ⟨.between, i, b⟩ d = State.go ⟨.between, i, b⟩ (.operator o) [] := hd _
    exact run_go hstep r
  · simp only [step, onOperator, ho]

end ModelBindings.Source.Scan
