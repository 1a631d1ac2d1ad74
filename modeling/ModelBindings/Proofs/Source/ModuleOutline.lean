import ModelBindings.Proofs.Source.Outline
import ModelBindings.Proofs.Source.Token.Docstring

/-!
# Outlines of generated modules

Documentation and class bodies stand behind the margin line by line, whatever a documentation says,
so only imports, classes and the package's own lines are in an outline.

* `isInner_docBlock` : lines of a documentation open no statement.
* `enumsLines_isPlain`, `outerImports_isPlain`, `modelRest_isPlain`, `initRest_isPlain` : what
  imports nothing from the package.
-/

set_option autoImplicit false

namespace ModelBindings.Source

open Text (IsLine IsUncut closed isLine_ofList)

/-- A line behind the margin, or an empty one. -/
structure IsInner (line : Text) : Prop where
  isLine : IsLine line
  opens : opensStatement line = false

theorem IsInner.isPlain {line : Text} (h : IsInner line) : IsPlain line := by
  refine ⟨h.isLine, ?_⟩
  rw [← Bool.not_eq_true]
  intro hr
  have := opensStatement_of_isRelativeImport hr
  rw [h.opens] at this
  cases this

theorem isInner_empty : IsInner "" := ⟨isLine_ofList List.not_mem_nil, rfl⟩

theorem toList_bodyIndent : bodyIndent.toList = ([' ', ' ', ' ', ' '] : List CodePoint) := rfl

theorem isInner_indented {s : Text} (h : IsLine s) : IsInner (bodyIndent ++ s) := by
  refine ⟨(isLine_ofList (by decide) : IsLine bodyIndent).append h, ?_⟩
  unfold opensStatement
  rw [Text.toList_append, toList_bodyIndent]
  rfl

/-! ## Class bodies -/

/-- A line of a docstring is empty, or an indentation with a text behind it that is not cut. -/
theorem mem_docLines {indent text l : List CodePoint} (h : l ∈ docLines indent text) :
    l = [] ∨ ∃ r, l = indent ++ r ∧ IsUncut r := by
  have huncut : ∀ k ∈ Text.lines text, IsUncut k := fun k hk c hc => (Text.of_mem_lines hk c hc).2
  have hquotes : IsUncut tripleQuote := by decide
  unfold docLines at h
  split at h
  · rw [List.mem_singleton.mp h, List.append_assoc]
    exact .inr ⟨_, rfl, hquotes.append hquotes⟩
  · rename_i line hline
    have hguarded : IsUncut (guardEnd line) := by
      intro c hc
      rcases mem_guardEnd hc with rfl | hc
      · decide
      · exact huncut line (by rw [hline]; exact List.mem_cons_self) c hc
    rw [List.mem_singleton.mp h, List.append_assoc, List.append_assoc]
    exact .inr ⟨_, rfl, hquotes.append (hguarded.append hquotes)⟩
  · rcases List.mem_append.mp h with h | h
    · rcases List.mem_append.mp h with h | h
      · exact .inr ⟨_, List.mem_singleton.mp h, hquotes⟩
      · obtain ⟨k, hk, rfl⟩ := List.mem_map.mp h
        unfold docLine
        split
        · exact .inl rfl
        · exact .inr ⟨k, rfl, huncut k hk⟩
    · exact .inr ⟨_, List.mem_singleton.mp h, hquotes⟩

/-- **Lines of a documentation open no statement.** -/
theorem isInner_docLine {text : List CodePoint} {l : List CodePoint}
    (h : l ∈ docLines bodyIndent.toList text) : IsInner (Text.ofList l) := by
  rcases mem_docLines h with rfl | ⟨r, rfl, hr⟩
  · exact isInner_empty
  · rw [Text.ofList_append, Text.ofList_toList]
    exact isInner_indented (isLine_ofList fun hn => absurd (hr _ hn) (by decide))

theorem isInner_docBlock {behind : List Text} (hb : ∀ l ∈ behind, IsInner l)
    (d : Option Text) : ∀ l ∈ docBlock behind d, IsInner l := by
  intro l hl
  cases d with
  | none => cases hl
  | some s =>
    rcases List.mem_append.mp hl with hl | hl
    · obtain ⟨k, hk, rfl⟩ := List.mem_map.mp hl
      exact isInner_docLine hk
    · exact hb l hl

theorem isInner_bodyBlock {ls : List Text} (h : ∀ l ∈ ls, IsInner l) :
    ∀ l ∈ bodyBlock ls, IsInner l := by
  unfold bodyBlock
  split
  · intro l hl
    rw [List.mem_singleton.mp hl]
    exact isInner_indented (isLine_ofList (by decide))
  · exact h

theorem isInner_settingsLines : ∀ l ∈ settingsLines, IsInner l := by
  unfold settingsLines
  simp only [List.forall_mem_cons]
  refine ⟨isInner_empty, ?_, ?_, ?_, ?_, List.forall_mem_nil _⟩ <;>
    exact ⟨isLine_ofList (by decide), by decide⟩

/-- The line of a class. -/
theorem isPlain_classLine {name : Text} (h : IsName name) {bases : Text} (hb : IsLine bases) :
    IsPlain ("class " ++ name ++ bases) := by
  refine .of_first (((isLine_ofList (by decide) : IsLine "class ").append
    (isLine_of_isName h)).append hb) (c := 'c') ?_ (by decide)
  simp [Text.toList_append]

/-! ## Modules -/

theorem isInner_memberText {v : EnumValue} (h : IsName v.name) : IsInner (memberText v) := by
  have hname := isLine_of_isName h
  have hmember : IsLine (memberName v.name) := by
    unfold memberName
    split
    · exact hname.append (isLine_ofList (by decide))
    · exact hname
  unfold memberText
  simp only [Text.append_assoc]
  exact isInner_indented (hmember.append ((isLine_ofList (by decide) : IsLine " = \"").append
    (hname.append (isLine_ofList (by decide)))))

/-- The class of an enum holds inner lines. -/
theorem isInner_enumBody {e : Enum} (he : ∀ v ∈ e.values, IsName v.name) :
    ∀ l ∈ docBlock [] (shownText e.documentation) ++ bodyBlock (e.values.map memberText),
      IsInner l := by
  intro l hl
  rcases List.mem_append.mp hl with hl | hl
  · exact isInner_docBlock (by simp) _ l hl
  · refine isInner_bodyBlock (fun k hk => ?_) l hl
    obtain ⟨v, hv, rfl⟩ := List.mem_map.mp hk
    exact isInner_memberText (he v hv)

/-- An enum: the line of its class, and what it holds. -/
theorem mem_enumLines {e : Enum} (he : ∀ v ∈ e.values, IsName v.name) {l : Text}
    (hl : l ∈ enumLines e) : l = "class " ++ e.name ++ "(str, Enum):" ∨ IsInner l := by
  rcases List.mem_cons.mp hl with rfl | hl
  · exact .inl rfl
  · exact .inr (isInner_enumBody he l hl)

theorem mem_intercalate_blank {bs : List (List Text)} {l : Text}
    (h : l ∈ [("" : Text), ""].intercalate bs) : l = "" ∨ ∃ b ∈ bs, l ∈ b := by
  induction bs with
  | nil => cases h
  | cons b r ih =>
    cases r with
    | nil =>
      rw [List.intercalate_singleton] at h
      exact .inr ⟨b, List.mem_cons_self, h⟩
    | cons b' r =>
      rw [List.intercalate_cons_cons] at h
      rcases List.mem_append.mp h with h | h
      · rcases List.mem_append.mp h with h | h
        · exact .inr ⟨b, List.mem_cons_self, h⟩
        · exact .inl (by simpa using h)
      · exact (ih h).imp_right fun ⟨k, hk, hl⟩ => ⟨k, List.mem_cons_of_mem _ hk, hl⟩

theorem mem_intercalate_of_mem {bs : List (List Text)} {b : List Text} (hb : b ∈ bs)
    {l : Text} (hl : l ∈ b) : l ∈ [("" : Text), ""].intercalate bs := by
  induction bs with
  | nil => cases hb
  | cons a r ih =>
    cases r with
    | nil =>
      rw [List.intercalate_singleton, ← List.mem_singleton.mp hb]
      exact hl
    | cons a' r =>
      rw [List.intercalate_cons_cons]
      rcases List.mem_cons.mp hb with rfl | hb
      · exact List.mem_append_left _ (List.mem_append_left _ hl)
      · exact List.mem_append_right _ (ih hb)

/-- **The module of the enums imports nothing from the package.** -/
theorem enumsLines_isPlain {enums : List Enum}
    (he : ∀ e ∈ enums, IsName e.name ∧ ∀ v ∈ e.values, IsName v.name) :
    ∀ l ∈ enumsLines enums, IsPlain l := by
  have hhead : ∀ l ∈ [("from enum import Enum" : Text), "", ""], IsPlain l := by
    simp only [List.forall_mem_cons]
    exact ⟨isPlain_ofList (by decide) (by decide), isInner_empty.isPlain, isInner_empty.isPlain,
      List.forall_mem_nil _⟩
  intro l hl
  rcases List.mem_append.mp hl with hl | hl
  · exact hhead l hl
  · rcases mem_intercalate_blank hl with rfl | ⟨b, hb, hl⟩
    · exact isInner_empty.isPlain
    · obtain ⟨e, hmem, rfl⟩ := List.mem_map.mp hb
      obtain ⟨hname, hvalues⟩ := he e hmem
      rcases mem_enumLines hvalues hl with rfl | hinner
      · exact isPlain_classLine hname (isLine_ofList (by decide))
      · exact hinner.isPlain

/-- What a module imports from outside of the package is no relative import. -/
theorem outerImports_isPlain (datetime decimal typing withField : Bool) :
    ∀ l ∈ outerImports datetime decimal typing withField, IsPlain l := by
  have hif : ∀ (wanted : Bool) {s : Text}, IsPlain s → ∀ l ∈ lineIf wanted s, IsPlain l := by
    intro wanted s hs l hl
    cases wanted with
    | false => cases hl
    | true => rwa [List.mem_singleton.mp hl]
  have hpydantic : IsPlain (pydanticLine withField) := by
    cases withField
    · exact isPlain_ofList (by decide) (by decide)
    · exact isPlain_ofList (by decide) (by decide)
  unfold outerImports
  simp only [List.forall_mem_append, List.forall_mem_cons]
  exact ⟨⟨⟨⟨⟨isPlain_ofList (by decide) (by decide), isInner_empty.isPlain, List.forall_mem_nil _⟩,
    hif _ (isPlain_ofList (by decide) (by decide))⟩,
    hif _ (isPlain_ofList (by decide) (by decide))⟩,
    hif _ (isPlain_ofList (by decide) (by decide))⟩, hpydantic, List.forall_mem_nil _⟩

theorem isLine_enumImport {module name : Text} (hm : IsLine module) (hn : IsName name) :
    IsLine (enumImport module name) :=
  (((isLine_ofList (by decide) : IsLine "from .").append hm).append
    (isLine_ofList (by decide) : IsLine " import ")).append (isLine_of_isName hn)

/-- The lines of a model's module behind its imports. -/
def modelRest (m : Model) (lines : List Text) : List Text :=
  [("" : Text), "", "class " ++ m.name ++ "(BaseModel):"]
    ++ docBlock [""] (shownText m.documentation)
    ++ bodyBlock (lines.map (bodyIndent ++ ·)) ++ settingsLines

/-- The lines behind the imports: the line of the class, and what it holds. -/
theorem mem_modelRest {m : Model} {lines : List Text} (hlines : ∀ l ∈ lines, IsLine l)
    {l : Text} (hl : l ∈ modelRest m lines) :
    l = "class " ++ m.name ++ "(BaseModel):" ∨ IsInner l := by
  unfold modelRest at hl
  rcases List.mem_append.mp hl with hl | hl
  · rcases List.mem_append.mp hl with hl | hl
    · rcases List.mem_append.mp hl with hl | hl
      · simp only [List.mem_cons, List.not_mem_nil, or_false] at hl
        rcases hl with rfl | rfl | rfl
        · exact .inr isInner_empty
        · exact .inr isInner_empty
        · exact .inl rfl
      · exact .inr (isInner_docBlock (by simpa using isInner_empty) _ l hl)
    · refine .inr (isInner_bodyBlock (fun k hk => ?_) l hl)
      obtain ⟨line, hline, rfl⟩ := List.mem_map.mp hk
      exact isInner_indented (hlines line hline)
  · exact .inr (isInner_settingsLines l hl)

/-- Behind its imports, a model's module has one class. -/
theorem modelRest_isPlain {m : Model} {lines : List Text} (hm : IsName m.name)
    (hlines : ∀ l ∈ lines, IsLine l) : ∀ l ∈ modelRest m lines, IsPlain l := by
  intro l hl
  rcases mem_modelRest hlines hl with rfl | hinner
  · exact isPlain_classLine hm (isLine_ofList (by decide))
  · exact hinner.isPlain

/-- The lines of the package's own module behind its imports. -/
def initRest (names : List Text) (models : List ModuleEntry) : List Text :=
  [("" : Text), "__all__ = ["] ++ names.map offerText ++ ("]" : Text) :: rebuildLines models

theorem isInner_offerText {name : Text} (h : IsName name) : IsInner (offerText name) := by
  refine ⟨((isLine_ofList (by decide) : IsLine "    \"").append (isLine_of_isName h)).append
    (isLine_ofList (by decide)), ?_⟩
  unfold opensStatement offerText
  simp [Text.toList_append]

theorem not_blank_rebuildText {name : Text} (h : IsName name) :
    .char ' ' ∉ (rebuildText name).toList := by
  intro hb
  unfold rebuildText at hb
  rw [Text.toList_append] at hb
  rcases List.mem_append.mp hb with hb | hb
  · exact absurd (inWord_of_isIdentifier h _ hb) (by decide)
  · revert hb
    decide

/-- Behind its imports, the package's own module has its list and calls. -/
theorem initRest_isPlain {names : List Text} {models : List ModuleEntry}
    (hnames : ∀ n ∈ names, IsName n) (hmodels : ∀ m ∈ models, IsName m.name) :
    ∀ l ∈ initRest names models, IsPlain l := by
  have hfixed :
      ∀ l ∈ [("" : Text), "__all__ = [", "]", "# Resolve cross-module forward references"],
        IsPlain l := by
    simp only [List.forall_mem_cons]
    exact ⟨isInner_empty.isPlain, isPlain_ofList (by decide) (by decide),
      isPlain_ofList (by decide) (by decide), isPlain_ofList (by decide) (by decide),
      List.forall_mem_nil _⟩
  intro l hl
  unfold initRest at hl
  rcases List.mem_append.mp hl with hl | hl
  · rcases List.mem_append.mp hl with hl | hl
    · exact hfixed l (List.mem_of_mem_take (i := 2) hl)
    · obtain ⟨n, hn, rfl⟩ := List.mem_map.mp hl
      exact (isInner_offerText (hnames n hn)).isPlain
  · rcases List.mem_cons.mp hl with rfl | hl
    · exact hfixed _ (by simp)
    · unfold rebuildLines at hl
      split at hl
      · cases hl
      · rcases List.mem_append.mp hl with hl | hl
        · simp only [List.mem_cons, List.not_mem_nil, or_false] at hl
          rcases hl with rfl | rfl <;> exact hfixed _ (by simp)
        · obtain ⟨m, hm, rfl⟩ := List.mem_map.mp hl
          exact .of_not_blank ((isLine_of_isName (hmodels m hm)).append (isLine_ofList (by decide)))
            (not_blank_rebuildText (hmodels m hm))

end ModelBindings.Source
