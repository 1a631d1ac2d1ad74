import ModelBindings.FileTree.AtomicWrite
import ModelBindings.Proofs.Source.Grammar.Statement
import ModelBindings.Proofs.Source.Token.Reading
import ModelBindings.Proofs.Text.Lines
import ModelBindings.Source.Literal

/-!
# Validity of generated source

A text of whole lines is known by the statements that it reads as. Lines of a class body open its
block where they come first; the line behind a class closes it, or the end of the text does.

* `BodyText`, `ModuleText` : lines of a class body and lines of a module, as statements.
* `BodyText.append`, `ModuleText.append` : texts behind each other.
* `ModuleText.checkSource` : such a text is accepted before it is written.
-/

set_option autoImplicit false

namespace ModelBindings.Source

open Scan (Clean Ends lineStart run behind)

variable {cs a b : List CodePoint} {ss us : List (List Token)} {c : CodePoint} {r : List CodePoint}
  {i : List (Nat × Nat)} {ts : List Token}

/-! ## Indentations -/

/-- The indentations within a class body. -/
def bodyIndents : List (Nat × Nat) := [(4, 4)]

/-- The indentations of generated source. -/
def IsLevel (i : List (Nat × Nat)) : Prop :=
  i = [] ∨ i = bodyIndents

/-- What opens a block behind a line with these indentations. -/
def opens : List (Nat × Nat) → List Token
  | [] => [.indent]
  | _ => []

/-- What closes all blocks. -/
def dedents (i : List (Nat × Nat)) : List Token :=
  i.map fun _ => .dedent

/-- A character at which a line starts that is neither blank nor a comment. -/
def startsLine (c : CodePoint) : Bool :=
  !(([' ', '\t', '\x0c', '\n', '#', '\\'] : List CodePoint).contains c)

theorem step_margin (hc : startsLine c = true) {m : Scan.Margin} {i indents : List (Nat × Nat)}
    {ts : List Token} (h : Scan.indentation i m.widths.1 m.widths.2 = some (indents, ts)) :
    Scan.step ⟨.margin m, i, []⟩ c = Scan.endToken ⟨.margin m, indents, []⟩ ts c := by
  simp only [startsLine, List.contains_cons, List.contains_nil, Bool.or_false, Bool.not_eq_true',
    Bool.or_eq_false_iff, beq_eq_false_iff_ne] at hc
  obtain ⟨h1, h2, h3, h4, h5, h6⟩ := hc
  simp only [Scan.step, Scan.inMargin, Scan.Margin.blank?, if_neg h1, if_neg h2, if_neg h3,
    if_neg h4, if_neg h5, if_neg h6, h]

/-- A line without indentation closes all blocks. -/
theorem run_lineStart (hi : IsLevel i) (hc : startsLine c = true) (r : List CodePoint) :
    run (lineStart i) (c :: r) = behind (dedents i) (run ⟨.between, [], []⟩ (c :: r)) := by
  refine Scan.run_endToken (m := .margin .start) ?_ r
  rcases hi with rfl | rfl <;> exact step_margin hc rfl

/-- A line with the indentation of a class body is in the block of the body. -/
theorem run_bodyLine (hi : IsLevel i) (hc : startsLine c = true) (r : List CodePoint) :
    run (lineStart i) (.char ' ' :: .char ' ' :: .char ' ' :: .char ' ' :: c :: r)
      = behind (opens i) (run ⟨.between, bodyIndents, []⟩ (c :: r)) := by
  show run ⟨.margin ⟨4, 4, 0⟩, i, []⟩ (c :: r) = _
  refine Scan.run_endToken (m := .margin ⟨4, 4, 0⟩) ?_ r
  rcases hi with rfl | rfl <;> exact step_margin hc rfl

/-! ## Lines of a class body -/

/-- Lines of a class body, and the statements that they read as. -/
structure BodyText (cs : List CodePoint) (ss : List (List Token)) : Prop where
  run_eq : ∀ i, IsLevel i →
    run (lineStart i) cs = ⟨opens i ++ ss.flatten, some (lineStart bodyIndents)⟩
  clean : Clean cs
  ne_nil : ss ≠ []
  count : ss.length ≤ cs.length
  statement : ∀ s ∈ ss, Grammar.IsStatement 34 7 10 s

/-- A line of a class body that is a statement. -/
theorem bodyText_line (hc : startsLine c = true) (h : Ends [] (c :: r) ts)
    (hs : Grammar.IsStatement 34 7 10 ts) :
    BodyText (.char ' ' :: .char ' ' :: .char ' ' :: .char ' ' :: c :: r) [ts] := by
  have hindent : Clean ([' ', ' ', ' ', ' '] : List CodePoint) := by decide
  refine ⟨fun i hi => ?_, hindent.append h.clean, by simp, by simp, by simpa using hs⟩
  rw [run_bodyLine hi hc, h.run_eq]
  simp [behind]

theorem startsLine_of_startsWord (h : Scan.startsWord c = true) : startsLine c = true := by
  unfold startsLine
  rw [Bool.not_eq_true', List.contains_eq_mem, decide_eq_false_iff_not]
  intro hm
  simp only [List.mem_cons, List.not_mem_nil, or_false] at hm
  rcases hm with rfl | rfl | rfl | rfl | rfl | rfl <;> exact absurd h (by decide)

/-- A line of a class body that starts with a name. -/
theorem bodyText_named {s : Text} (hs : Scan.IsFreeName s) (h : Ends [] (s.toList ++ r) ts)
    (hst : Grammar.IsStatement 34 7 10 ts) :
    BodyText (bodyIndent.toList ++ (s.toList ++ r)) [ts] := by
  have hindent : bodyIndent.toList = ([' ', ' ', ' ', ' '] : List CodePoint) := rfl
  obtain ⟨c, hc, hstart⟩ := Scan.startsWord_of_isIdentifier hs.1
  obtain ⟨w, hw⟩ := List.head?_eq_some_iff.mp hc
  rw [hw] at h ⊢
  rw [hindent]
  exact bodyText_line (startsLine_of_startsWord hstart) h hst

theorem run_append_of_eq {s t : Scan.State} {ts : List Token} {a : List CodePoint}
    (h : run s a = ⟨ts, some t⟩) (b : List CodePoint) : run s (a ++ b) = behind ts (run t b) := by
  rw [Scan.run_append, h]
  rfl

theorem BodyText.append (ha : BodyText a ss) (hb : BodyText b us) :
    BodyText (a ++ b) (ss ++ us) := by
  refine ⟨fun i hi => ?_, ha.clean.append hb.clean, by simp [ha.ne_nil], ?_, fun s hs => ?_⟩
  · rw [run_append_of_eq (ha.run_eq i hi), hb.run_eq _ (.inr rfl)]
    simp [behind, opens, bodyIndents]
  · have h1 := ha.count
    have h2 := hb.count
    simp only [List.length_append]
    omega
  · rcases List.mem_append.mp hs with hs | hs
    · exact ha.statement s hs
    · exact hb.statement s hs

/-- A blank line within a class body. -/
theorem BodyText.blank (ha : BodyText a ss) : BodyText (a ++ [.char '\n']) ss := by
  refine ⟨fun i hi => ?_, ha.clean.append (by decide), ha.ne_nil, ?_, ha.statement⟩
  · rw [run_append_of_eq (ha.run_eq i hi)]
    simp [behind, run, Scan.step, Scan.inMargin, Scan.Margin.blank?, lineStart, Scan.State.go,
      Scan.Result.andThen]
  · have h := ha.count
    simp only [List.length_append]
    omega

/-! ## Lines of a module -/

/-- Lines of a module, and the statements that they read as. A class is closed where the next line
starts. -/
structure ModuleText (cs : List CodePoint) (ss : List (List Token)) : Prop where
  run_eq : ∀ i, IsLevel i → ∃ ts i', IsLevel i' ∧
    run (lineStart i) cs = ⟨ts, some (lineStart i')⟩ ∧
    ts ++ dedents i' = dedents i ++ ss.flatten
  clean : Clean cs
  count : ss.length ≤ cs.length
  statement : ∀ s ∈ ss, Grammar.IsStatement (cs.length + 60) 0 11 s

theorem moduleText_nil : ModuleText [] [] :=
  ⟨fun i hi => ⟨[], i, hi, rfl, by simp⟩, Scan.clean_nil, Nat.le_refl 0, by simp⟩

theorem ModuleText.append (ha : ModuleText a ss) (hb : ModuleText b us) :
    ModuleText (a ++ b) (ss ++ us) := by
  refine ⟨fun i hi => ?_, ha.clean.append hb.clean, ?_, fun s hs => ?_⟩
  · obtain ⟨ts, j, hj, hrun, hts⟩ := ha.run_eq i hi
    obtain ⟨ts', k, hk, hrun', hts'⟩ := hb.run_eq j hj
    refine ⟨ts ++ ts', k, hk, ?_, ?_⟩
    · rw [run_append_of_eq hrun, hrun']
      rfl
    · rw [List.append_assoc, hts', ← List.append_assoc, hts, List.append_assoc,
        List.flatten_append]
  · have h1 := ha.count
    have h2 := hb.count
    simp only [List.length_append]
    omega
  · rw [List.length_append]
    rcases List.mem_append.mp hs with hs | hs
    · exact (ha.statement s hs).mono (by omega) (Nat.le_refl 11)
    · exact (hb.statement s hs).mono (by omega) (Nat.le_refl 11)

theorem moduleText_blank : ModuleText [.char '\n'] [] :=
  ⟨fun i hi => ⟨[], i, hi, rfl, by simp⟩, by decide, by simp, by simp⟩

/-- A comment on a line of its own. -/
theorem moduleText_comment (h : .char '\n' ∉ cs) (hc : Clean cs) :
    ModuleText (.char '#' :: (cs ++ [.char '\n'])) [] := by
  have hmark : Clean [.char '#'] := by decide
  refine ⟨fun i hi => ⟨[], i, hi, ?_, by simp⟩, hmark.append (hc.append (by decide)), by simp,
    by simp⟩
  have hread : ∀ {cs : List CodePoint}, .char '\n' ∉ cs →
      run ⟨.comment true, i, []⟩ (cs ++ [.char '\n']) = ⟨[], some (lineStart i)⟩ := by
    intro cs h
    induction cs with
    | nil => rfl
    | cons c cs ih =>
      simp only [List.mem_cons, not_or] at h
      have hstep : Scan.step ⟨.comment true, i, []⟩ c
          = Scan.State.go ⟨.comment true, i, []⟩ (.comment true) [] := if_neg (Ne.symm h.1)
      rw [List.cons_append, Scan.run_go hstep]
      exact ih h.2
  exact hread h

/-- A line of a module that is a statement. -/
theorem moduleText_line (hc : startsLine c = true) (h : Ends [] (c :: r) ts)
    (hs : Grammar.IsStatement ((c :: r).length + 60) 0 11 ts) : ModuleText (c :: r) [ts] := by
  refine ⟨fun i hi => ⟨dedents i ++ ts, [], .inl rfl, ?_, by simp [dedents]⟩, h.clean, by simp,
    by simpa using hs⟩
  rw [run_lineStart hi hc, h.run_eq]
  rfl

/-- **A class with its body.** -/
theorem moduleText_class {n : Text} {bases : List Token} (hb : Grammar.IsBases bases)
    (hc : startsLine c = true)
    (h : Ends [] (c :: r) (.keyword .classWord :: .name n :: .op (.opening .round) ::
      (bases ++ [Token.op (.closing .round), .op .colon, .newline])))
    (hbody : BodyText b ss) :
    ModuleText (c :: r ++ b) [.keyword .classWord :: .name n :: .op (.opening .round) ::
      (bases ++ Token.op (.closing .round) :: .op .colon :: .newline :: .indent ::
        (ss.flatten ++ [Token.dedent]))] := by
  have hcount := hbody.count
  refine ⟨fun i hi => ⟨dedents i ++ (Token.keyword .classWord :: .name n :: .op (.opening .round) ::
      (bases ++ [Token.op (.closing .round), .op .colon, .newline]) ++ (opens [] ++ ss.flatten)),
    bodyIndents, .inr rfl, ?_, ?_⟩, h.clean.append hbody.clean, by simp, ?_⟩
  · have hhead := run_lineStart hi hc r
    rw [h.run_eq] at hhead
    rw [run_append_of_eq hhead, hbody.run_eq _ (.inl rfl)]
    simp only [behind, List.append_assoc]
  · simp [dedents, bodyIndents, opens]
  · simp only [List.mem_singleton, forall_eq]
    refine (Grammar.isStatement_class n hb hbody.ne_nil hbody.statement).mono ?_ (Nat.le_refl 11)
    simp only [List.length_append, List.length_cons]
    omega

/-! ## Acceptance -/

theorem normalizeNewlines_eq (h : .char '\r' ∉ cs) : Text.normalizeNewlines cs = cs := by
  fun_induction Text.normalizeNewlines cs with
  | case1 => rfl
  | case2 r ih => simp at h
  | case3 c r hcr ih =>
    simp only [List.mem_cons, not_or] at h
    rw [if_neg (Ne.symm h.1), ih h.2]

theorem closeLines_eq (h : .char '\r' ∉ cs) (hend : cs.getLast? = some (.char '\n')) :
    closeLines cs = cs := by
  unfold closeLines
  obtain ⟨ds, rfl⟩ := List.getLast?_eq_some_iff.mp hend
  have hends : endsLine (ds ++ [CodePoint.char '\n']).reverse = true := by
    rw [List.reverse_append, List.reverse_singleton, List.singleton_append]
    unfold endsLine
    split
    · rename_i heq
      have hmem : (CodePoint.char '\r') ∈ ds.reverse := by
        rw [List.cons.injEq] at heq
        rw [heq.2]
        exact List.mem_cons_self
      exact absurd (List.mem_append_left _ (List.mem_reverse.mp hmem)) h
    · rfl
    · rfl
    · rename_i hne _
      exact absurd rfl (hne _)
  rw [normalizeNewlines_eq h, hends]
  simp

/-- The tokens of a text of statements are those of the statements. -/
theorem ModuleText.scan_eq (h : ModuleText cs ss) (hend : cs.getLast? = some (.char '\n')) :
    Token.scan cs = ⟨ss.flatten, true⟩ := by
  obtain ⟨ts, i, -, hrun, hts⟩ := h.run_eq [] (.inl rfl)
  rw [show dedents [] = [] from rfl, List.nil_append] at hts
  unfold Token.scan
  rw [if_neg (by simpa using h.clean.zero), closeLines_eq h.clean.2 hend]
  have hstart : run Scan.State.start cs = ⟨ts, some (lineStart i)⟩ := hrun
  dsimp only
  rw [hstart]
  exact congrArg (Scanned.mk · true) hts

/-- The statements are taken one after another, to the end of the text. -/
theorem ModuleText.judge_eq {text : Text} (h : ModuleText text.toList ss) (hne : ss ≠ [])
    (hend : text.toList.getLast? = some (.char '\n')) (hl : 9 ≤ text.length) :
      judge text = .valid := by
  have hlength : text.toList.length = text.length := Text.length_toList text
  have hcount := h.count
  rw [hlength] at hcount
  have htokens : ss.flatten.isEmpty = false := by
    obtain ⟨s, ss, rfl⟩ := List.exists_cons_of_ne_nil hne
    obtain ⟨t, r, rfl, -⟩ := (h.statement s List.mem_cons_self).head
    rfl
  have htakes := Grammar.takes_statements (l := 0) (by decide) hne h.statement (.inl rfl)
    (d := Grammar.depthFor text.length) (by unfold Grammar.depthFor; omega)
  rw [List.append_nil] at htakes
  obtain ⟨shape, height, hread, hheight⟩ := htakes
  unfold judge judgeTokens Grammar.read
  rw [h.scan_eq hend]
  dsimp only
  rw [htokens, if_neg Bool.false_ne_true]
  have hrecognized : Grammar.recognize false (Grammar.depthFor text.length)
      (Grammar.startLevel false) .along .statements ss.flatten = .ok ⟨shape, height, []⟩ := hread
  rw [hrecognized]
  dsimp only
  rw [if_neg (by simp), if_neg]
  unfold Grammar.heightLimit
  omega

/-- **A text of statements is accepted before it is written.** -/
theorem ModuleText.checkSource {text : Text} (h : ModuleText text.toList ss) (hne : ss ≠ [])
    (hend : text.toList.getLast? = some (.char '\n')) (hl : 9 ≤ text.length) :
    FileTree.checkSource text = .ok () := by
  have hencoding : FileTree.checkEncoding text = .ok () := by
    rw [FileTree.checkEncoding, Text.encodingFault?_eq_none_iff.mpr fun c hc => (h.clean.1 c hc).2]
  rw [FileTree.checkSource, hencoding]
  show FileTree.checkEncoded text = .ok ()
  rw [FileTree.checkEncoded, if_neg (by simpa using h.clean.zero), h.judge_eq hne hend hl]

end ModelBindings.Source
