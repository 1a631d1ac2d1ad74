import ModelBindings.FileTree.AtomicWrite
import ModelBindings.Proofs.Package.Taken
import ModelBindings.Proofs.Source.Declared

/-!
# Modules that can be imported by name

The module of a model has the snake case of the model's name. For an ASCII name that is an
identifier. Unlike the names of fields and members it gets no underscore where it is a reserved
word, and that is so for the models named by a reserved word with a capital.

* `isKeyword_snakeCase_iff` : the names whose snake case is a reserved word.
* `get?_generate_init` : the package's own module is in every package.
* `generate_imports_modules` : the modules that the package imports its models from, and which of
  them can be imported.
* `class_not_importable` : a package that cannot be imported.
-/

set_option autoImplicit false

namespace ModelBindings

/-- A word with a capital at its start. -/
def capitalized (word : Text) : Text :=
  match word.toList with
  | [] => ""
  | c :: r => Text.ofList (c.toUpper :: r)

/-! ## Reserved words in snake case -/

theorem lowerChar_underscore : Text.lowerChar '_' = '_' := by decide +kernel

/-- Behind a letter, a text whose snake case has no underscore is in snake case. -/
theorem map_lowerChar_eq_self {cs : List CodePoint} (h : ∀ c ∈ cs, isAsciiWordChar c = true)
    (hplain : .char '_' ∉ (markWords true cs).map Text.lowerChar) :
    (markWords true cs).map Text.lowerChar = cs := by
  induction cs with
  | nil => rfl
  | cons c r ih =>
    have hr : ∀ d ∈ r, isAsciiWordChar d = true := fun d hd => h d (List.mem_cons_of_mem c hd)
    cases hupper : c.isUpper with
    | true =>
      -- a capital behind a letter gets an underscore in front of it
      simp [markWords, hupper, lowerChar_underscore] at hplain
    | false =>
      have hmark : markWords true (c :: r) = c :: markWords c.isAlphanum r := by
        simp [markWords, hupper]
      rw [hmark, List.map_cons, List.mem_cons, not_or] at hplain
      have hne : c ≠ '_' := by
        intro hc
        rw [hc, lowerChar_underscore] at hplain
        exact hplain.1 rfl
      have halnum : c.isAlphanum = true := by
        simpa [isAsciiWordChar, hne] using h c List.mem_cons_self
      have hlower : Text.lowerChar c = c := by
        simpa [hupper] using (lowerChar_of_isAlphanum halnum).2
      rw [halnum] at hplain
      rw [hmark, halnum, List.map_cons, hlower, ih hr hplain.2]

/-- **The snake case of a name is a reserved word where the name is one with a capital.** -/
theorem isKeyword_snakeCase_iff {name : Text} (h : IsAsciiName name)
    (hfree : isKeyword name = false) :
    isKeyword (snakeCase name) = true ↔ ∃ k ∈ keywords, name = capitalized k := by
  constructor
  · intro hkeyword
    have hplain : ∀ k ∈ keywords, .char '_' ∉ k.toList := by decide +kernel
    obtain ⟨c, r, hname, hc, hr, hsnake⟩ := h.exists_snakeChars
    have hmem : snakeCase name ∈ keywords := List.contains_iff_mem.mp hkeyword
    have hlist : (snakeCase name).toList
        = Text.lowerChar c :: (markWords true r).map Text.lowerChar := by
      rw [snakeCase, Text.toList_ofList, hsnake]
    -- a reserved word has no underscore, so behind its first character nothing was changed
    have hnone := hplain _ hmem
    rw [hlist, List.mem_cons, not_or] at hnone
    rw [map_lowerChar_eq_self hr hnone.2] at hlist
    have hcase := (lowerChar_of_isAlphanum (isAlphanum_iff.mpr (.inl hc))).2
    cases hupper : c.isUpper with
    | true =>
      rw [if_pos hupper] at hcase
      refine ⟨snakeCase name, hmem, Text.toList_injective ?_⟩
      rw [capitalized, hlist, hname, Text.toList_ofList, hcase]
    | false =>
      -- the name is in snake case, and so a reserved word itself
      rw [hupper, if_neg Bool.false_ne_true] at hcase
      have hsame : snakeCase name = name := by
        apply Text.toList_injective
        rw [hlist, hcase, hname]
      rw [hsame, hfree] at hkeyword
      cases hkeyword
  · rintro ⟨k, hk, rfl⟩
    have hkeyword : isKeyword k = true := List.contains_iff_mem.mpr hk
    -- three reserved words have a capital as they are
    have hwords : ∀ k ∈ keywords, capitalized k = k ∨ snakeCase (capitalized k) = k := by
      decide +kernel
    rcases hwords k hk with hsame | hsnake
    · rw [hsame, hkeyword] at hfree
      cases hfree
    · rw [hsnake]
      exact hkeyword

namespace Package

open Source
open Text (closed)

variable {c : Settings} {d : Datamodel} {files : Files}

/-! ## The package's own module -/

/-- The package's own module is in every package, whatever its enums are put into. -/
theorem get?_generate_init (h : (generate c d).result = .ok files) :
    Association.get? (fileName initModule) files = some (initText c d) := by
  obtain ⟨enums, -, h⟩ := Traced.result_bind_eq_ok.mp h
  obtain ⟨modules, -, h⟩ := Traced.result_bind_eq_ok.mp h
  cases h
  unfold close
  dsimp only
  split
  · rw [Association.get?_put, if_neg (fileName_ne_markerName _), Association.get?_put,
      if_pos rfl]
  · rw [Association.get?_put, if_pos rfl]

/-- The import lines of the package's own module, and what stands around them. -/
theorem initText_eq (c : Settings) (d : Datamodel) :
    initText c d = closed (headerLines c ++ d.enumNames.map (enumImport c.enumsModule.display)
      ++ d.models.map (fun m => enumImport (snakeCase m.name) m.name)
      ++ initRest (offeredNames d) (d.models.map moduleEntry)) := by
  rw [initText, packageInit_eq, header_eq, ← Text.closed_append]
  unfold initLines initRest offeredNames
  simp only [List.map_append, List.map_map, List.append_assoc]
  rfl

/-- **The modules that a package imports its models from are identifiers, and reserved words for the
models that are named by a reserved word with a capital.** -/
theorem generate_imports_modules
    (hd : ∀ m ∈ d.models, IsAsciiName m.name ∧ isKeyword m.name = false)
    (h : (generate c d).result = .ok files) :
    ∃ imports : List Text,
      Association.get? ("__init__.py" : Text) files
        = some (closed (headerLines c
          ++ d.enumNames.map (fun n => "from ." ++ c.enumsModule.display ++ " import " ++ n)
          ++ imports ++ initRest (offeredNames d) (d.models.map moduleEntry))) ∧
      imports.map relativeImport? = d.models.map (fun m => some (snakeCase m.name, m.name)) ∧
      (∀ m ∈ d.models, IsName (snakeCase m.name) ∧
        (isKeyword (snakeCase m.name) = true ↔ ∃ k ∈ keywords, m.name = capitalized k)) := by
  refine ⟨d.models.map (fun m => enumImport (snakeCase m.name) m.name), ?_, ?_, ?_⟩
  · rw [← fileName_initModule, get?_generate_init h, initText_eq]
    rfl
  · rw [List.map_map]
    apply List.map_congr_left
    intro m hm
    have hblank : .char ' ' ∉ (snakeCase m.name).toList := not_blank_moduleName (hd m hm).1.isName
    rw [Function.comp_apply, relativeImport?_enumImport m.name hblank]
  · intro m hm
    obtain ⟨hname, hfree⟩ := hd m hm
    exact ⟨hname.isName_snakeCase, isKeyword_snakeCase_iff hname hfree⟩

/-- Models of the names, without fields. -/
def modelsNamed (names : List Text) : Datamodel :=
  { enums := [], models := names.map emptyModel }

/-- A package of two models: the module of one can be imported by name, that of the other cannot. -/
theorem lambda_not_importable :
    ∃ files imports, (generate .defaults (modelsNamed ["ClassRoom", "Lambda"])).result = .ok files ∧
      Association.get? ("__init__.py" : Text) files
        = some (closed (headerLines .defaults ++ imports
          ++ initRest ["ClassRoom", "Lambda"]
              [⟨"class_room", "ClassRoom"⟩, ⟨"lambda", "Lambda"⟩])) ∧
      imports.map relativeImport?
        = [some (("class_room" : Text), ("ClassRoom" : Text)), some ("lambda", "Lambda")] ∧
      isKeyword "class_room" = false ∧ isKeyword "lambda" = true := by
  have hnames : ∀ m ∈ (modelsNamed ["ClassRoom", "Lambda"]).models,
      IsAsciiName m.name ∧ isKeyword m.name = false := by
    unfold modelsNamed
    simp only [List.map_cons, List.map_nil, List.forall_mem_cons]
    exact ⟨⟨by decide, by decide⟩, ⟨by decide, by decide⟩, List.forall_mem_nil _⟩
  have hok : (generate .defaults (modelsNamed ["ClassRoom", "Lambda"])).result.isOk = true := by
    decide +kernel
  have hroom : snakeCase "ClassRoom" = "class_room" := by decide +kernel
  have hlambda : snakeCase "Lambda" = "lambda" := by decide +kernel
  cases h : (generate .defaults (modelsNamed ["ClassRoom", "Lambda"])).result with
  | error f =>
    rw [h] at hok
    cases hok
  | ok files =>
    obtain ⟨imports, hinit, himports, hmodules⟩ := generate_imports_modules hnames h
    have hlast := (hmodules (emptyModel "Lambda") (by simp [modelsNamed])).2
    have hreserved : isKeyword (snakeCase "Lambda") = true :=
      hlast.mpr ⟨"lambda", by decide, by decide⟩
    refine ⟨files, imports, rfl, ?_, ?_, by decide, ?_⟩
    · rw [hinit]
      simp [modelsNamed, Datamodel.enumNames, offeredNames, moduleEntry, moduleName, emptyModel,
        hroom, hlambda]
    · rw [himports]
      simp [modelsNamed, emptyModel, hroom, hlambda]
    · rwa [hlambda] at hreserved

/-- A model whose name is an identifier and no reserved word, in a module that is one: the line that
imports the model is no valid source text. -/
theorem class_not_importable :
    IsAsciiName "Class" ∧ isKeyword "Class" = false ∧
      ∃ files init, (generate .defaults (modelsNamed ["Class"])).result = .ok files ∧
        Association.get? ("__init__.py" : Text) files = some init ∧
        relativeImports init = [(("class" : Text), ("Class" : Text))] ∧ isKeyword "class" = true ∧
        (FileTree.checkSource "from .class import Class\n").isOk = false := by
  have hname : IsName "Class" := by decide +kernel
  have hmodule : IsName "enums" := by decide +kernel
  have hnamed : (modelsNamed ["Class"]).IsNamed := by
    refine ⟨List.forall_mem_nil _, ?_⟩
    intro m hm
    rw [List.mem_singleton.mp hm]
    exact ⟨hname, List.forall_mem_nil _⟩
  have himports := (parts_init hnamed (c := .defaults) rfl hmodule).relativeImports_eq
  have hpairs :
      initImportPairs (modelsNamed ["Class"]) "enums" = [(("class" : Text), ("Class" : Text))] := by
    decide +kernel
  have hok : (generate .defaults (modelsNamed ["Class"])).result.isOk = true := by
    decide +kernel
  cases h : (generate .defaults (modelsNamed ["Class"])).result with
  | error f =>
    rw [h] at hok
    cases hok
  | ok files =>
    refine ⟨by decide, by decide, files, initText .defaults (modelsNamed ["Class"]), rfl, ?_,
      himports.trans hpairs, by decide, by decide +kernel⟩
    rw [← fileName_initModule]
    exact get?_generate_init h

end Package

end ModelBindings
