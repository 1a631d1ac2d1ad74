import ModelBindings.Package
import ModelBindings.Proofs.Outcome
import ModelBindings.Proofs.Text.Lines

/-!
# The lines of generated source

Each generated text is a list of lines that is known part by part: imports, the line that opens a
class, its documentation, and the lines of its body.

* `modelFile_eq`, `enumsFile_eq`, `packageInit_eq` : the lines of each module.
* `result_renderFields` : the lines of a class body and what they need, field by field.
-/

set_option autoImplicit false

namespace ModelBindings

namespace Source

open Text (closed)

/-! ## Classes -/

/-- The text of a documentation that is shown. -/
def shownText : Value → Option Text
  | .text s => if s = "" then none else some s
  | _ => none

theorem shownText_eq_some {v : Value} {s : Text} (h : shownText v = some s) : v = .text s := by
  unfold shownText at h
  split at h
  · split at h <;> cases h
    rfl
  · cases h

/-- The lines of the documentation of a class, and lines behind it. -/
def docBlock (behind : List Text) : Option Text → List Text
  | none => []
  | some s => (docLines bodyIndent.toList (escapeTriple s.toList)).map Text.ofList ++ behind

/-- The lines of a class body, which must not be empty. -/
def bodyBlock (ls : List Text) : List Text :=
  if ls.isEmpty then [bodyIndent ++ "pass"] else ls

theorem documentationText_eq_ok {v : Value} {d : Option Text}
    (h : documentationText v = .ok d) : d = shownText v := by
  unfold documentationText at h
  split at h
  · cases h
    rfl
  · split at h
    · cases h
    · cases h
      cases v <;> simp_all [shownText]

theorem classDocstring_eq_ok {v : Value} {d : Option Text} (h : classDocstring v = .ok d) :
    d = (shownText v).map (docstring bodyIndent) := by
  unfold classDocstring at h
  split at h
  · cases h
  · rename_i hv
    cases h
    rw [← documentationText_eq_ok hv]
    rfl
  · rename_i s hv
    cases h
    rw [← documentationText_eq_ok hv]
    rfl

theorem docLines_ne_nil (indent body : List CodePoint) : docLines indent body ≠ [] := by
  unfold docLines
  split <;> simp

theorem docPart_eq (d : Option Text) {close : Text} {behind : List Text}
    (h : close = "\n" ++ closed behind) :
    docPart (d.map (docstring bodyIndent)) close = closed (docBlock behind d) := by
  cases d with
  | none => rfl
  | some s =>
    simp only [Option.map_some, docPart, docBlock, Text.closed_append, h, docstring,
      ← Text.append_assoc]
    rw [Text.join_newline (by simpa using docLines_ne_nil _ _)]

/-- Texts that are lines with their line feeds. -/
theorem join_map_eq {α : Type} (f g : α → Text) (h : ∀ a, f a = g a ++ "\n") (as : List α) :
    Text.concat (as.map f) = closed (as.map g) := by
  rw [closed, List.map_map]
  exact congrArg Text.concat (List.map_congr_left fun a _ => h a)

theorem bodyLines_eq {α : Type} (f g : α → Text) (h : ∀ a, f a = g a ++ "\n") (as : List α) :
    bodyLines (as.map f) = closed (bodyBlock (as.map g)) := by
  unfold bodyLines bodyBlock
  cases as with
  | nil =>
    have hp : ("pass\n" : Text) = "pass" ++ "\n" := rfl
    simp only [List.map_nil, List.isEmpty_nil, if_true, passLine, hp, Text.closed_cons,
      Text.closed_nil, Text.append_assoc, Text.append_empty]
  | cons a r =>
    simp only [List.map_cons, List.isEmpty_cons, Bool.false_eq_true, if_false]
    exact join_map_eq f g h (a :: r)

/-! ## Enums -/

/-- A member in a class body. -/
def memberText (v : EnumValue) : Text :=
  bodyIndent ++ memberName v.name ++ " = \"" ++ v.name ++ "\""

/-- The lines of an enum. -/
def enumLines (e : Enum) : List Text :=
  ("class " ++ e.name ++ "(str, Enum):")
    :: (docBlock [] (shownText e.documentation) ++ bodyBlock (e.values.map memberText))

/-- The lines of the module of enums. -/
def enumsLines (enums : List Enum) : List Text :=
  [("from enum import Enum" : Text), "", ""] ++ [("" : Text), ""].intercalate (enums.map enumLines)

theorem memberLine_eq (v : EnumValue) : memberLine v = memberText v ++ "\n" := by
  have h : ("\"\n" : Text) = "\"" ++ "\n" := rfl
  simp only [memberLine, memberText, h, Text.append_assoc]

theorem enumClass_eq {e : Enum} {text : Text} (h : enumClass e = .ok text) :
    text = closed (enumLines e) := by
  unfold enumClass at h
  split at h
  · cases h
  · rename_i d hd
    have hdoc : docPart _ "\n" = closed (docBlock [] (shownText e.documentation)) :=
      docPart_eq _ rfl
    have hbody := bodyLines_eq memberLine memberText memberLine_eq e.values
    have hopen : ("(str, Enum):\n" : Text) = "(str, Enum):" ++ "\n" := rfl
    cases h
    simp only [enumClassText, classDocstring_eq_ok hd, enumLines, Text.closed_cons,
      Text.closed_append, hdoc, hbody, hopen, Text.append_assoc]

theorem mapM_enumClass_eq {enums : List Enum} {classes : List Text}
    (h : enums.mapM enumClass = .ok classes) : classes = (enums.map enumLines).map closed := by
  induction enums generalizing classes with
  | nil =>
    cases h
    rfl
  | cons e r ih =>
    rw [List.mapM_cons] at h
    cases he : enumClass e with
    | error f =>
      rw [he] at h
      cases h
    | ok text =>
      cases hr : r.mapM enumClass with
      | error f =>
        rw [he, hr] at h
        cases h
      | ok texts =>
        rw [he, hr] at h
        cases h
        rw [enumClass_eq he, ih hr]
        rfl

/-- **The lines of the module of enums.** -/
theorem enumsFile_eq {enums : List Enum} {text : Text} (hne : enums ≠ [])
    (h : enumsFile enums = .ok text) : text = closed (enumsLines enums) := by
  unfold enumsFile at h
  rw [if_neg (by simpa using hne)] at h
  split at h
  · cases h
  · rename_i classes hc
    have hhead : enumsHead = "from enum import Enum" ++ "\n\n\n" :=
      Text.literal_append rfl rfl rfl
    have hblank : ("\n\n\n" : Text) = "\n" ++ ("\n" ++ "\n") := rfl
    cases h
    simp only [mapM_enumClass_eq hc, Text.join_blank, hhead, hblank, enumsLines, Text.closed_append,
      Text.closed_cons, Text.closed_nil, Text.append_assoc, Text.empty_append]

/-! ## Models -/

/-- The lines of the settings of a class. -/
def settingsLines : List Text :=
  ["", "    model_config = ConfigDict(", "        from_attributes=True,",
    "        populate_by_name=True,", "    )"]

theorem classSettings_eq : classSettings = closed settingsLines := by
  have h1 : ("\n    model_config = ConfigDict(\n" : Text)
      = "\n" ++ "    model_config = ConfigDict(\n" :=
    Text.literal_append rfl rfl rfl
  have h2 : ("    model_config = ConfigDict(\n" : Text)
      = "    model_config = ConfigDict(" ++ "\n" :=
    Text.literal_append rfl rfl rfl
  have h3 : ("        from_attributes=True,\n" : Text) = "        from_attributes=True," ++ "\n" :=
    Text.literal_append rfl rfl rfl
  have h4 : ("        populate_by_name=True,\n" : Text)
      = "        populate_by_name=True," ++ "\n" :=
    Text.literal_append rfl rfl rfl
  have h5 : ("    )\n" : Text) = "    )" ++ "\n" := Text.literal_append rfl rfl rfl
  unfold classSettings settingsLines
  rw [h1, h2, h3, h4, h5]
  simp only [Text.closed_cons, Text.closed_nil, Text.append_assoc, Text.empty_append,
    Text.append_empty]

/-- What a module with these needs imports. -/
def neededImports (enumsModule : Text) (needs : Needs) : List Text :=
  importLines (needs.imports.addPydantic "ConfigDict") needs.enums enumsModule

/-- The lines of the module of a model. -/
def modelLines (enumsModule : Text) (m : Model) (rendered : RenderedFields) : List Text :=
  neededImports enumsModule rendered.needs
    ++ [("" : Text), "", "class " ++ m.name ++ "(BaseModel):"]
    ++ docBlock [""] (shownText m.documentation)
    ++ bodyBlock (rendered.lines.map (bodyIndent ++ ·)) ++ settingsLines

theorem importBlock_eq (i : Imports) (names : List Text) (enumsModule : Text) :
    importBlock i names enumsModule
      = closed (importLines i names enumsModule ++ [("" : Text)]) := by
  have hne : importLines i names enumsModule ≠ [] := by simp [importLines]
  have h : ("\n\n" : Text) = "\n" ++ "\n" := rfl
  rw [importBlock, h, ← Text.append_assoc, Text.join_newline hne]
  simp only [Text.closed_append, Text.closed_cons, Text.closed_nil, Text.empty_append,
    Text.append_empty]

/-- **The lines of the module of a model.** -/
theorem modelFile_eq {known : List Text} {enumsModule : Value} {m : Model} {text : Text}
    (h : (modelFile known enumsModule m).result = .ok text) :
    ∃ rendered, (renderFields known .initial m.fields).result = .ok rendered ∧
      text = closed (modelLines enumsModule.display m rendered) := by
  obtain ⟨rendered, hr, h⟩ := Traced.result_bind_eq_ok.mp h
  obtain ⟨d, hd, h⟩ := Traced.result_bind_eq_ok.mp h
  refine ⟨rendered, hr, ?_⟩
  have hd : d = _ := classDocstring_eq_ok hd
  have hdoc : docPart _ "\n\n" = closed (docBlock [""] (shownText m.documentation)) :=
    docPart_eq _ rfl
  have hbody := bodyLines_eq fieldBodyLine (bodyIndent ++ ·) (fun _ => rfl) rendered.lines
  have hopen : ("(BaseModel):\n" : Text) = "(BaseModel):" ++ "\n" :=
    Text.literal_append rfl rfl rfl
  cases h
  simp only [modelClassText, modelImports, hd, modelLines, neededImports, Text.closed_cons,
    Text.closed_nil, Text.closed_append, hdoc, hbody, hopen, classSettings_eq, importBlock_eq,
    Text.append_assoc, Text.empty_append, Text.append_empty]

/-- The lines of fields come one from each field, and their needs add up. -/
theorem result_renderFields {known : List Text} {needs : Needs} {fs : List Field}
    {rendered : RenderedFields} (h : (renderFields known needs fs).result = .ok rendered) :
    ∃ ls : List FieldLine, fs.map (fun f => (renderField known f).line) = ls.map .ok ∧
      rendered = ⟨fs.foldl (fun n f => n.absorb (renderField known f).usage) needs,
        ls.map (·.text)⟩ := by
  induction fs generalizing needs rendered with
  | nil =>
    cases h
    exact ⟨[], rfl, rfl⟩
  | cons f r ih =>
    obtain ⟨l, hl, h⟩ := Traced.result_bind_eq_ok.mp h
    obtain ⟨rest, hr, h⟩ := Traced.result_bind_eq_ok.mp h
    cases h
    obtain ⟨ls, hls, rfl⟩ := ih hr
    have hl : (renderField known f).line = .ok l := hl
    exact ⟨l :: ls, by simp [hl, hls], rfl⟩

/-! ## The package's own module -/

/-- An offered name. -/
def offerText (name : Text) : Text :=
  "    \"" ++ name ++ "\","

/-- The call that resolves the references of a model. -/
def rebuildText (name : Text) : Text :=
  name ++ ".model_rebuild()"

/-- The lines that resolve references. -/
def rebuildLines (models : List ModuleEntry) : List Text :=
  if models.isEmpty then []
  else [("" : Text), "# Resolve cross-module forward references"] ++ models.map (rebuildText ·.name)

/-- The lines of the package's own module. -/
def initLines (enumNames : List Text) (enumsModule : Text) (models : List ModuleEntry) :
    List Text :=
  enumNames.map (enumImport enumsModule) ++ models.map (fun m => enumImport m.moduleName m.name)
    ++ [("" : Text), "__all__ = ["] ++ (enumNames ++ models.map (·.name)).map offerText
    ++ ("]" : Text) :: rebuildLines models

theorem exportLine_eq (name : Text) : exportLine name = offerText name ++ "\n" := by
  have h : ("\",\n" : Text) = "\"," ++ "\n" := rfl
  simp only [exportLine, offerText, h, Text.append_assoc]

theorem rebuildLine_eq (m : ModuleEntry) : rebuildLine m = rebuildText m.name ++ "\n" := by
  have h : (".model_rebuild()\n" : Text) = ".model_rebuild()" ++ "\n" :=
    Text.literal_append rfl rfl rfl
  simp only [rebuildLine, rebuildText, h, Text.append_assoc]

theorem rebuildPart_eq (models : List ModuleEntry) :
    rebuildPart models = closed (rebuildLines models) := by
  unfold rebuildPart rebuildLines
  split
  · rfl
  · have hopen : ("\n# Resolve cross-module forward references\n" : Text)
        = "\n" ++ "# Resolve cross-module forward references\n" :=
      Text.literal_append rfl rfl rfl
    have hline : ("# Resolve cross-module forward references\n" : Text)
        = "# Resolve cross-module forward references" ++ "\n" :=
      Text.literal_append rfl rfl rfl
    simp only [join_map_eq rebuildLine (rebuildText ·.name) rebuildLine_eq, hopen, hline,
      Text.closed_append, Text.closed_cons, Text.closed_nil, Text.append_assoc, Text.empty_append]

/-- **The lines of the package's own module.** -/
theorem packageInit_eq (enumNames : List Text) (enumsModule : Value)
    (models : List ModuleEntry) :
    packageInit enumNames enumsModule models
      = closed (initLines enumNames enumsModule.display models) := by
  have himports := join_map_eq (fun line : Text => line ++ "\n") id (fun _ => rfl)
    (enumNames.map (enumImport enumsModule.display)
      ++ models.map fun m => enumImport m.moduleName m.name)
  have hoffers := join_map_eq exportLine offerText exportLine_eq
    (enumNames ++ models.map (·.name))
  have hall : ("\n__all__ = [\n" : Text) = "\n" ++ ("__all__ = [" ++ "\n") :=
    rfl
  have hend : ("]\n" : Text) = "]" ++ "\n" := rfl
  simp only [packageInit, initImports, himports, hoffers, hall, hend, rebuildPart_eq, initLines,
    List.map_id, Text.closed_append, Text.closed_cons, Text.closed_nil, Text.append_assoc,
    Text.empty_append]

end Source

namespace Package

/-- The lines in front of each module. -/
def headerLines (c : Settings) : List Text :=
  if c.addHeader.isTruthy then
    ["# Generated by prisma-pydantic-generator 0.1.0. Do not edit manually.", ""]
  else []

theorem header_eq (c : Settings) : header c = Text.closed (headerLines c) := by
  unfold header headerLines
  split
  · have h : originComment =
        "# Generated by prisma-pydantic-generator 0.1.0. Do not edit manually." ++ "\n\n" :=
      Text.literal_append rfl rfl rfl
    have hblank : ("\n\n" : Text) = "\n" ++ "\n" := rfl
    simp only [h, hblank, Text.closed_cons, Text.closed_nil, Text.empty_append, Text.append_empty]
  · rfl

end Package

end ModelBindings
