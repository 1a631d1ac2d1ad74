import ModelBindings.Proofs.Source.Statement.Field
import ModelBindings.Proofs.Source.Token.Docstring

/-!
# Classes as statements

The body of a class is its documentation, its members or fields, and the settings of a model; each
of its lines is a statement, and the body holds at least one.

* `IsBody`, `IsModule` : lines that are statements of a class body, or of a module.
* `isBody_docBlock`, `isBody_bodyBlock`, `isBody_settings` : the parts of a class body.
* `isModule_enum`, `isModule_model` : a whole class.
-/

set_option autoImplicit false

namespace ModelBindings

open Source (KeepsApart)

/-- A text can stand in a docstring, and its last quotes stay apart from the closing ones. -/
def Value.IsClassDoc (v : Value) : Prop :=
  ∀ s, v = .text s → Source.Scan.IsSourceText s.toList ∧ KeepsApart s.toList

namespace Source

open Scan (Ends Clean IsContent IsFreeName)
open Text (closed)

variable {a b : List Text} {l s : Text} {known : List Text}

/-! ## Lines -/

/-- Lines that are statements of a class body. -/
def IsBody (ls : List Text) : Prop :=
  ∃ ss, BodyText (closed ls).toList ss

/-- Lines that are statements of a module. -/
def IsModule (ls : List Text) : Prop :=
  ∃ ss, ModuleText (closed ls).toList ss

theorem toList_closed_append (a b : List Text) :
    (closed (a ++ b)).toList = (closed a).toList ++ (closed b).toList := by
  rw [Text.closed_append, Text.toList_append]

theorem toList_closed_singleton (l : Text) : (closed [l]).toList = l.toList ++ [.char '\n'] := by
  rw [Text.toList_closed, List.flatMap_singleton]

theorem IsBody.append (ha : IsBody a) (hb : IsBody b) : IsBody (a ++ b) := by
  obtain ⟨ss, ha⟩ := ha
  obtain ⟨us, hb⟩ := hb
  exact ⟨ss ++ us, by rw [toList_closed_append]; exact ha.append hb⟩

/-- A blank line behind lines of a class body. -/
theorem IsBody.blank (ha : IsBody a) : IsBody (a ++ [("" : Text)]) := by
  obtain ⟨ss, ha⟩ := ha
  refine ⟨ss, ?_⟩
  rw [toList_closed_append, toList_closed_singleton]
  exact ha.blank

theorem isBody_of_text {cs : List CodePoint} {ss : List (List Token)} (h : BodyText cs ss)
    (htext : (closed a).toList = cs) : IsBody a :=
  ⟨ss, htext ▸ h⟩

/-- Lines that are statements one by one. -/
theorem isBody_of_forall {ls : List Text} (hne : ls ≠ []) (h : ∀ l ∈ ls, IsBody [l]) :
    IsBody ls := by
  induction ls with
  | nil => exact absurd rfl hne
  | cons l ls ih =>
    have hl := h l List.mem_cons_self
    cases ls with
    | nil => exact hl
    | cons k ls => exact hl.append (ih (by simp) fun m hm => h m (List.mem_cons_of_mem l hm))

theorem isModule_of_text {cs : List CodePoint} {ss : List (List Token)} (h : ModuleText cs ss)
    (htext : (closed a).toList = cs) : IsModule a :=
  ⟨ss, htext ▸ h⟩

theorem isModule_nil : IsModule [] := ⟨[], moduleText_nil⟩

theorem IsModule.append (ha : IsModule a) (hb : IsModule b) : IsModule (a ++ b) := by
  obtain ⟨ss, ha⟩ := ha
  obtain ⟨us, hb⟩ := hb
  exact ⟨ss ++ us, by rw [toList_closed_append]; exact ha.append hb⟩

theorem isModule_of_forall {ls : List Text} (h : ∀ l ∈ ls, IsModule [l]) : IsModule ls := by
  induction ls with
  | nil => exact isModule_nil
  | cons l ls ih =>
    exact (h l List.mem_cons_self).append (ih fun m hm => h m (List.mem_cons_of_mem l hm))

theorem isModule_blank : IsModule [""] := by
  refine ⟨[], ?_⟩
  rw [toList_closed_singleton]
  exact moduleText_blank

/-! ## Parts of a class body -/

/-- **The documentation of a class is a statement of its body.** -/
theorem isBody_docstring (h0 : Scan.IsSourceText s.toList) (h : KeepsApart s.toList) :
    IsBody (docBlock [] (some s)) := by
  have hindent : bodyIndent.toList = ([' ', ' ', ' ', ' '] : List CodePoint) := rfl
  have hcontentIndent : IsContent true bodyIndent.toList := by
    rw [hindent]
    rfl
  have hcleanIndent : Clean bodyIndent.toList := by
    rw [hindent]
    decide
  obtain ⟨content, hcontent, hclean, hlines⟩ := Scan.docLines_eq hcontentIndent
    hcleanIndent h0 h
  have hread :
      Ends [] (.char '"' :: (.char '"' :: .char '"' :: (content ++ (tripleQuote ++ [.char '\n']))))
      [.text false [], .newline] := Ends.newline.longText hcontent hclean
  refine ⟨[[.text false [], .newline]], ?_⟩
  rw [docBlock, List.append_nil, Text.toList_closed, List.flatMap_map]
  rw [hlines, hindent]
  exact bodyText_line (by decide) hread (Grammar.isStatement_docstring.mono (by decide) (by decide))

/-- The documentation of a class in front of its body. -/
theorem IsBody.documented {v : Value} (hv : v.IsClassDoc) {behind : List Text}
    (hbehind : behind = [] ∨ behind = [("" : Text)]) (hb : IsBody b) :
    IsBody (docBlock behind (shownText v) ++ b) := by
  cases hs : shownText v with
  | none => exact hb
  | some s =>
    obtain ⟨h0, h⟩ := hv s (shownText_eq_some hs)
    have hdoc := isBody_docstring h0 h
    refine IsBody.append ?_ hb
    rcases hbehind with rfl | rfl
    · exact hdoc
    · have hlines : docBlock [("" : Text)] (some s) = docBlock [] (some s) ++ [("" : Text)] := by
        simp [docBlock]
      rw [hlines]
      exact hdoc.blank

theorem isBody_pass : IsBody [bodyIndent ++ "pass"] := by
  have hline :
      Ends [] (['p', 'a', 's', 's', '\n'] : List CodePoint) [.keyword .passWord, .newline] :=
    ⟨fun _ => rfl, by decide⟩
  have hbody := bodyText_line (by decide) hline
    (Grammar.isStatement_pass.mono (by decide) (by decide))
  exact isBody_of_text hbody (by simp [bodyIndent])

/-- Lines of a class body, or a line that stands for none. -/
theorem isBody_bodyBlock {ls : List Text} (h : ∀ l ∈ ls, IsBody [l]) :
    IsBody (bodyBlock ls) := by
  unfold bodyBlock
  split
  · exact isBody_pass
  · rename_i hne
    exact isBody_of_forall (by simpa using hne) h

/-- A member of an enum. -/
theorem isBody_member {v : EnumValue} (h : IsAsciiName v.name) : IsBody [memberText v] := by
  have hw := inWord_of_isIdentifier h.isName
  have hvalue :
      Ends [] (.char '"' :: (v.name.toList ++ [.char '"', .char '\n']))
        [.text false [], .newline] :=
    Ends.newline.text (Scan.isContent_of_inWord hw) (Scan.clean_of_isIdentifier h.isName)
      (by decide)
  have hassign := hvalue.fixed (b := []) ([' ', '=', ' '] : List CodePoint) [.op .assign]
    (fun _ _ => rfl) (by decide)
  have hline := hassign.word (isFreeName_memberName h) rfl
  have hbody := bodyText_named (isFreeName_memberName h) hline
    ((Grammar.isStatement_member _).mono (by decide) (by decide))
  exact isBody_of_text hbody (by simp [memberText])

/-- An argument of the settings, on a line of its own. -/
theorem Ends.setting {r : List CodePoint} {ts : List Token} {l n : Text} (hn : IsFreeName n)
    (hl : l.toList = List.replicate 8 (.char ' ') ++ (n.toList ++ ("=True," : Text).toList))
    (hr : Ends [.round] r ts) : Ends [.round] (l.toList ++ [.char '\n'] ++ r)
      (.name n :: .op .assign :: .keyword .trueWord :: .op .comma :: ts) := by
  have hvalue := hr.fixed (b := [.round]) (.char '=' :: ("True,\n" : Text).toList)
    [.op .assign, .keyword .trueWord, .op .comma] (fun _ _ => rfl) (by decide)
  have hindented :=
    (hvalue.word (c := '=') hn rfl).fixed (b := [.round]) (List.replicate 8 (.char ' ')) []
    (fun _ _ => rfl) (by decide)
  rw [hl]
  simpa using hindented

/-- The settings of a class, which take four lines, behind its other lines. -/
theorem IsBody.settings (ha : IsBody a) : IsBody (a ++ settingsLines) := by
  have hclose :
      Ends [.round] (("    )" : Text).toList ++ [.char '\n']) [.op (.closing .round), .newline] :=
    ⟨fun _ => rfl, by decide⟩
  have hsecond := Ends.setting (l := "        populate_by_name=True,")
    (n := "populate_by_name") (by decide +kernel) (by decide +kernel) hclose
  have hfirst := Ends.setting (l := "        from_attributes=True,")
    (n := "from_attributes") (by decide +kernel) (by decide +kernel) hsecond
  have hcall := hfirst.fixed (b := []) (.char ' ' :: ("= ConfigDict(\n" : Text).toList)
    [.op .assign, .name "ConfigDict", .op (.opening .round)] (fun _ _ => rfl) (by decide)
  have hname : IsFreeName "model_config" := by decide +kernel
  have hline := bodyText_named hname (hcall.word (c := ' ') hname rfl)
    ((Grammar.isStatement_settings _ _ _ _).mono (by decide) (by decide))
  have hopen : ("    model_config = ConfigDict(" : Text).toList ++ [.char '\n']
      = bodyIndent.toList
        ++ (("model_config" : Text).toList ++ .char ' ' :: ("= ConfigDict(\n" : Text).toList) := by
    decide +kernel
  have hrest : IsBody (settingsLines.drop 1) := by
    refine isBody_of_text hline ?_
    rw [settingsLines, List.drop_one, List.tail_cons, Text.toList_closed, List.flatMap_cons, hopen]
    simp only [List.flatMap_cons, List.flatMap_nil, List.append_assoc, List.cons_append,
      List.append_nil]
    rfl
  exact List.append_assoc a [""] _ ▸ ha.blank.append hrest

/-! ## Classes -/

/-- A class with the lines of its body. -/
theorem isModule_class {n : Text} (hn : IsFreeName n) {bases : List Token}
    (hbases : Grammar.IsBases bases) {line : Text} {cs : List CodePoint}
    (hline : line.toList ++ [.char '\n'] = ("class " : Text).toList
      ++ (n.toList ++ .char '(' :: cs))
    (hread : Ends [] (.char '(' :: cs) (.op (.opening .round) ::
      (bases ++ [Token.op (.closing .round), .op .colon, .newline]))) (hb : IsBody b) :
    IsModule (line :: b) := by
  obtain ⟨ss, hb⟩ := hb
  have hhead := (hread.word hn rfl).fixed (b := []) ("class " : Text).toList
    [.keyword .classWord] (fun _ _ => rfl) (by decide)
  have htext := moduleText_class hbases (by decide) hhead hb
  refine isModule_of_text htext ?_
  rw [Text.toList_closed, List.flatMap_cons, ← Text.toList_closed, hline]
  rfl

/-- **A class that stands for an enum is a statement.** -/
theorem isModule_enum {e : Enum} (hname : IsFreeName e.name)
    (hvalues : ∀ v ∈ e.values, IsAsciiName v.name) (hdoc : e.documentation.IsClassDoc) :
    IsModule (enumLines e) := by
  have hmembers : IsBody (bodyBlock (e.values.map memberText)) :=
    isBody_bodyBlock (List.forall_mem_map.mpr fun v hv => isBody_member (hvalues v hv))
  have hread :
      Ends [] (.char '(' :: ("str, Enum):\n" : Text).toList)
        [.op (.opening .round), .name "str", .op .comma, .name "Enum", .op (.closing .round),
          .op .colon, .newline] :=
    ⟨fun _ => rfl, by decide⟩
  have hbody := hmembers.documented hdoc (.inl rfl)
  exact isModule_class hname (.two "str" "Enum") (by simp) hread hbody

/-- The lines of a model's class. -/
def modelClassLines (m : Model) (rendered : RenderedFields) : List Text :=
  ("class " ++ m.name ++ "(BaseModel):") :: (docBlock [""] (shownText m.documentation)
    ++ bodyBlock (rendered.lines.map (bodyIndent ++ ·)) ++ settingsLines)

/-- **The class of a model is a statement.** -/
theorem isModule_model {m : Model} {rendered : RenderedFields} (hname : IsFreeName m.name)
    (hfields : ∀ f ∈ m.fields, f.IsExpressible) (hdoc : m.documentation.IsClassDoc)
    (h : (renderFields known .initial m.fields).result = .ok rendered) :
    IsModule (modelClassLines m rendered) := by
  have hlines : ∀ l ∈ rendered.lines, IsBody [bodyIndent ++ l] := by
    obtain ⟨ls, hls, rfl⟩ := result_renderFields h
    intro text htext
    obtain ⟨l, hl, rfl⟩ := List.mem_map.mp htext
    have hmem : Except.ok l ∈ m.fields.map fun f => (renderField known f).line := by
      rw [hls]
      exact List.mem_map_of_mem hl
    obtain ⟨f, hf, hline⟩ := List.mem_map.mp hmem
    obtain ⟨ss, hss⟩ := bodyText_field (hfields f hf) hline
    exact isBody_of_text hss (toList_closed_singleton _)
  have hbody := (isBody_bodyBlock (List.forall_mem_map.mpr hlines)).documented hdoc (.inr rfl)
  have hread :
      Ends [] (.char '(' :: ("BaseModel):\n" : Text).toList)
        [.op (.opening .round), .name "BaseModel", .op (.closing .round), .op .colon, .newline] :=
    ⟨fun _ => rfl, by decide⟩
  exact isModule_class hname (.one "BaseModel") (by simp) hread hbody.settings

end Source

end ModelBindings
