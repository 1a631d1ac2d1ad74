import ModelBindings.Proofs.Package.Order
import ModelBindings.Proofs.Source.Layout

/-!
# What the settings change in a package

The files of a package are made from its enums, its models and the name of the module of the enums.
The other settings decide what stands around them: a comment at the top of each source file, and the
marker behind all files.

* `plain` : the settings that add nothing to the sources of a package.
* `dress` : sources with what the settings add to them.
* `generate_eq_dress` : a package is its sources, with what the settings add.
* `source_head?` : no source starts with a comment, so the comment tells whether it was asked for.
* `IsDressed` : files that are sources with what the settings add, spelled out.
* `generate_settings` : two packages of one data model.
-/

set_option autoImplicit false

namespace ModelBindings

namespace Package

open Text (closed)

variable {c c' : Settings} {d : Datamodel} {names : List Text} {files files' sources : Files}

/-- The settings that add nothing to the sources of a package. -/
def plain (enumsModule : Value) : Settings :=
  { Settings.defaults with enumsModule, addHeader := .bool false, writeMarker := .bool false }

/-- Sources with the comment on their origin, if it is asked for. -/
def addHeader (c : Settings) (sources : Files) : Files :=
  sources.map fun f => (f.1, header c ++ f.2)

/-- The marker, if it is asked for. -/
def markerFiles (c : Settings) : Files :=
  if c.writeMarker.isTruthy then [(markerName, "")] else []

/-- Sources with what the settings add to them. -/
def dress (c : Settings) (sources : Files) : Files :=
  addHeader c sources ++ markerFiles c

/-! ## Headers -/

theorem header_plain (enumsModule : Value) : header (plain enumsModule) = "" := rfl

theorem keys_addHeader (c : Settings) (sources : Files) :
    Association.keys (addHeader c sources) = Association.keys sources := by
  simp [Association.keys, addHeader]

theorem put_addHeader (c : Settings) (name text : Text) (sources : Files) :
    Association.put name (header c ++ text) (addHeader c sources)
      = addHeader c (Association.put name text sources) := by
  induction sources with
  | nil => rfl
  | cons f r ih =>
    unfold addHeader at ih ⊢
    rw [List.map_cons, Association.put, Association.put]
    split
    · rfl
    · rw [List.map_cons, ih]

/-! ## Files with and without header -/

theorem enumFiles_eq_map (c : Settings) (enums : List Enum) :
    enumFiles c enums = (enumFiles (plain c.enumsModule) enums).map (addHeader c) := by
  unfold enumFiles
  split
  · rfl
  · cases Source.enumsFile enums with
    | error f => rfl
    | ok text =>
      show Except.ok _ = Except.ok _
      rw [header_plain, Text.empty_append]
      rfl

theorem addModel_addHeader (c : Settings) (names : List Text) (sources : Files) (m : Model) :
    addModel c names (addHeader c sources) m
      = (addModel (plain c.enumsModule) names sources m).bind fun fs => .ok (addHeader c fs) := by
  unfold addModel
  dsimp only
  rw [keys_addHeader]
  split
  · rfl
  · rw [Traced.bind_assoc]
    refine Traced.bind_congr fun text _ => ?_
    rw [put_addHeader, header_plain, Text.empty_append]
    rfl

theorem addModels_addHeader (c : Settings) (names : List Text) (sources : Files)
    (ms : List Model) :
    addModels c names (addHeader c sources) ms
      = (addModels (plain c.enumsModule) names sources ms).bind fun fs => .ok (addHeader c fs) := by
  induction ms generalizing sources with
  | nil => rfl
  | cons m r ih =>
    rw [addModels, addModels, addModel_addHeader, Traced.bind_assoc, Traced.bind_assoc]
    exact Traced.bind_congr fun fs _ => ih fs

theorem markerFiles_plain (enumsModule : Value) : markerFiles (plain enumsModule) = [] := rfl

theorem close_eq (c : Settings) (d : Datamodel) (h : markerName ∉ Association.keys files) :
    close c d files
      = Association.put (fileName initModule) (initText c d) files ++ markerFiles c := by
  have hm : markerName ∉
      Association.keys (Association.put (fileName initModule) (initText c d) files) := by
    rw [Association.mem_keys_put, not_or]
    exact ⟨(fileName_ne_markerName _).symm, h⟩
  unfold close markerFiles
  dsimp only
  split
  · exact Association.put_of_not_mem hm ""
  · exact (List.append_nil _).symm

theorem close_addHeader (c : Settings) (d : Datamodel) (h : markerName ∉ Association.keys sources) :
    close c d (addHeader c sources) = dress c (close (plain c.enumsModule) d sources) := by
  have hinit : initText c d = header c ++ initText (plain c.enumsModule) d := by
    unfold initText
    rw [header_plain, Text.empty_append]
    rfl
  rw [close_eq c d (by rwa [keys_addHeader]), close_eq _ d h, hinit, put_addHeader,
    markerFiles_plain, List.append_nil, dress]

/-- **A package is its sources, with what the settings add to them.** -/
theorem generate_eq_dress (c : Settings) (d : Datamodel) :
    generate c d = (generate (plain c.enumsModule) d).bind fun fs => .ok (dress c fs) := by
  unfold generate
  rw [enumFiles_eq_map]
  cases he : enumFiles (plain c.enumsModule) d.enums with
  | error f => rfl
  | ok enums =>
    show Traced.bind (.ok (addHeader c enums)) _ = (Traced.bind (.ok enums) _).bind _
    simp only [Traced.ok_bind, Traced.bind_assoc, addModels_addHeader]
    refine Traced.bind_congr fun modules hm => ?_
    rw [close_addHeader c d (markerName_not_mem_addModels he hm)]

/-! ## Sources -/

theorem source_name {m : Value} (h : (generate (plain m) d).result = .ok sources) :
    ∀ f ∈ sources, ∃ stem, f.1 = fileName stem := by
  intro f hf
  have hkey : IsKey (plain m) d f.1 := (mem_keys_generate h f.1).mp (List.mem_map_of_mem hf)
  rcases hkey with hname | (⟨-, hname⟩ | ⟨k, -, hname⟩) | ⟨hmarker, -⟩
  · exact ⟨_, hname⟩
  · exact ⟨_, hname⟩
  · exact ⟨_, hname⟩
  · cases hmarker

/-- Lines of which the first is no comment. -/
def StartsWithCode (ls : List Text) : Prop :=
  ∃ l r, ls = l :: r ∧ l.toList.head? ≠ some (.char '#')

theorem StartsWithCode.head?_closed {ls : List Text} (h : StartsWithCode ls) :
    (closed ls).toList.head? ≠ some (.char '#') := by
  obtain ⟨l, r, rfl, hl⟩ := h
  rw [Text.closed_cons, Text.toList_append, Text.toList_append, Text.toList_newline]
  cases hcs : l.toList with
  | nil => simp
  | cons x cs =>
    rw [hcs] at hl
    exact hl

theorem startsWithCode_enumsLines (enums : List Enum) :
    StartsWithCode (Source.enumsLines enums) := by
  have h : ("from enum import Enum" : Text).toList.head? ≠ some (.char '#') := by decide
  exact ⟨_, _, rfl, h⟩

theorem startsWithCode_modelLines (m : Text) (k : Model) (rendered : Source.RenderedFields) :
    StartsWithCode (Source.modelLines m k rendered) := by
  have h : ("from __future__ import annotations" : Text).toList.head? ≠ some (.char '#') := by
    decide
  unfold Source.modelLines Source.neededImports Source.importLines
  simp only [List.cons_append]
  exact ⟨_, _, rfl, h⟩

theorem head?_enumImport (m name : Text) :
    (Source.enumImport m name).toList.head? = some (.char 'f') := by
  simp [Source.enumImport]

theorem startsWithCode_initLines (names : List Text) (m : Text)
    (models : List Source.ModuleEntry) : StartsWithCode (Source.initLines names m models) := by
  have hblank : ("" : Text).toList.head? ≠ some (.char '#') := by simp
  unfold Source.initLines
  cases names with
  | cons name r => exact ⟨_, _, rfl, by simp [head?_enumImport]⟩
  | nil =>
    cases models with
    | cons k r => exact ⟨_, _, rfl, by simp [head?_enumImport]⟩
    | nil => exact ⟨_, _, rfl, hblank⟩

/-- No source starts with a comment. -/
theorem source_head? {m : Value} (h : (generate (plain m) d).result = .ok sources) :
    ∀ f ∈ sources, f.2.toList.head? ≠ some (.char '#') := by
  intro f hf
  obtain ⟨stem, hname⟩ := source_name h f hf
  cases isFile_of_mem_generate h f hf with
  | enums hne ht =>
    rw [header_plain, Text.empty_append, Source.enumsFile_eq hne ht]
    exact (startsWithCode_enumsLines d.enums).head?_closed
  | model hm ht =>
    obtain ⟨rendered, -, htext⟩ := Source.modelFile_eq ht
    dsimp only
    rw [header_plain, Text.empty_append, htext]
    exact (startsWithCode_modelLines _ _ rendered).head?_closed
  | init =>
    rw [initText, header_plain, Text.empty_append, Source.packageInit_eq]
    exact (startsWithCode_initLines _ _ _).head?_closed
  | marker => exact absurd hname.symm (fileName_ne_markerName stem)

/-! ## Two packages of one data model -/

/-- The files are those sources, the comment on their origin in front of each if it is asked for,
and the empty marker behind them if that is asked for. The comment starts a source file only if it
was asked for. -/
structure IsDressed (c : Settings) (sources files : Files) : Prop where
  files_eq : files
    = (sources.map fun f => (f.1, (if c.addHeader.isTruthy then originComment else "") ++ f.2))
      ++ if c.writeMarker.isTruthy then [(("py.typed" : Text), ("" : Text))] else []
  names : ∀ f ∈ sources, ∃ stem, f.1 = stem ++ ".py"
  header_iff : ∀ f ∈ files, f.1 ≠ "py.typed" →
    (originComment.toList <+: f.2.toList ↔ c.addHeader.isTruthy = true)

theorem head?_originComment : originComment.toList.head? = some (.char '#') := by decide

theorem header_iff_of_head? {text : Text} (h : text.toList.head? ≠ some (.char '#'))
    (c : Settings) :
    originComment.toList <+: (header c ++ text).toList ↔ c.addHeader.isTruthy = true := by
  unfold header
  split
  · rename_i hasked
    rw [Text.toList_append]
    exact iff_of_true (List.prefix_append _ _) hasked
  · rename_i hasked
    rw [Text.empty_append]
    refine iff_of_false (fun hp => h ?_) hasked
    obtain ⟨r, hr⟩ := hp
    rw [← hr, List.head?_append, head?_originComment, Option.some_or]

theorem isDressed {m : Value} (h : (generate (plain m) d).result = .ok sources) (c : Settings) :
    IsDressed c sources (dress c sources) := by
  refine ⟨rfl, source_name h, fun f hf hne => ?_⟩
  rcases List.mem_append.mp hf with hf | hf
  · obtain ⟨g, hg, rfl⟩ := List.mem_map.mp hf
    exact header_iff_of_head? (source_head? h g hg) c
  · unfold markerFiles at hf
    split at hf
    · exact absurd (congrArg Prod.fst (List.mem_singleton.mp hf)) hne
    · cases hf

/-- **Two packages of one data model have the same sources, if the enums have the same module.**
The other settings add the comment and the marker, or have no influence at all. -/
theorem generate_settings {c c' : Settings} (hmodule : c.enumsModule = c'.enumsModule)
    (d : Datamodel) :
    (match (generate c d).result, (generate c' d).result with
      | .error f, .error f' => f = f'
      | .ok files, .ok files' => ∃ sources, IsDressed c sources files ∧ IsDressed c' sources files'
      | _, _ => False) ∧
    (generate c d).log = (generate c' d).log ∧
    ∀ enabled outputDir validate,
      generate { c with enabled, outputDir, validate } d = generate c d := by
  refine ⟨?_, ?_, fun enabled outputDir validate => ?_⟩
  · rw [generate_eq_dress c, generate_eq_dress c', ← hmodule, Traced.result_bind,
      Traced.result_bind]
    cases h : (generate (plain c.enumsModule) d).result with
    | error f => rfl
    | ok sources => exact ⟨sources, isDressed h c, isDressed h c'⟩
  · rw [generate_eq_dress c, generate_eq_dress c', ← hmodule]
    unfold Traced.bind
    cases (generate (plain c.enumsModule) d).result with
    | error f => rfl
    | ok sources => rfl
  · rw [generate_eq_dress, generate_eq_dress c]
    rfl

theorem accounts_settings :
    Settings.defaults.enumsModule = (plain (.text "enums")).enumsModule ∧
      ∃ sources files files', (generate .defaults accounts).result = .ok files ∧
        (generate (plain (.text "enums")) accounts).result = .ok files' ∧
        IsDressed .defaults sources files ∧ IsDressed (plain (.text "enums")) sources files' := by
  refine ⟨rfl, ?_⟩
  have hsettings := (@generate_settings .defaults (plain (.text "enums")) rfl accounts).1
  have hok : (generate .defaults accounts).result.isOk = true := by decide +kernel
  cases h : (generate .defaults accounts).result with
  | error f =>
    rw [h] at hok
    cases hok
  | ok files =>
    rw [h] at hsettings
    cases h' : (generate (plain (.text "enums")) accounts).result with
    | error f' =>
      rw [h'] at hsettings
      cases hsettings
    | ok files' =>
      rw [h'] at hsettings
      obtain ⟨sources, hfiles, hfiles'⟩ := hsettings
      exact ⟨sources, files, files', rfl, rfl, hfiles, hfiles'⟩

end Package

end ModelBindings
