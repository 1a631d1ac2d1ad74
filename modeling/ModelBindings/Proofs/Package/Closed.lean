import ModelBindings.Proofs.Package.Files
import ModelBindings.Proofs.Source.ModuleOutline

/-!
# Packages are closed

What the modules of a package import from each other is there, and no two modules import from each
other.

* `IsFile.imports` : what a file of a package imports from the package, and that nothing else in it
  looks like such an import.
* `generate_closed` : the names of the files, where each import leads, and what the package offers.
-/

set_option autoImplicit false

namespace ModelBindings.Package

open Text (IsLine closed cut isLine_ofList)
open Source

variable {c : Settings} {d : Datamodel} {files : Files} {e : Text}

/-! ## The parts of files -/

theorem mem_headerLines {l : Text} (h : l ∈ headerLines c) :
    l = "# Generated by prisma-pydantic-generator 0.1.0. Do not edit manually." ∨ l = "" := by
  unfold headerLines at h
  split at h
  · simpa using h
  · cases h

theorem headerLines_isPlain (c : Settings) : ∀ l ∈ headerLines c, IsPlain l := by
  intro l hl
  rcases mem_headerLines hl with rfl | rfl
  · exact isPlain_ofList (by decide) (by decide)
  · exact isInner_empty.isPlain

theorem not_blank_of_isName {s : Text} (h : IsName s) : .char ' ' ∉ s.toList := fun hb =>
  absurd (inWord_of_isIdentifier h _ hb) (by decide)

theorem not_blank_moduleName {m : Model} (h : IsName m.name) :
    .char ' ' ∉ (moduleName m).toList := by
  intro hb
  unfold moduleName snakeCase at hb
  rw [Text.toList_ofList] at hb
  exact absurd (inWord_snakeChars (inWord_of_isIdentifier h) _ hb) (by decide)

/-- The module of the enums imports nothing from the package. -/
theorem parts_enums (hd : d.IsNamed) (hne : d.enums ≠ []) {text : Text}
    (h : enumsFile d.enums = .ok text) :
    HasParts (header c ++ text) (headerLines c) [] (enumsLines d.enums) := by
  refine ⟨?_, headerLines_isPlain c, enumsLines_isPlain hd.enums, by simp⟩
  rw [enumsFile_eq hne h, header_eq, ← Text.closed_append, List.map_nil, List.append_nil]

/-- The module of a model imports known enums, from their module. -/
theorem parts_model (hd : d.IsNamed) (he : c.enumsModule = .text e) (hname : IsName e) {m : Model}
    (hm : m ∈ d.models) {text : Text}
    (h : (modelFile d.enumNames c.enumsModule m).result = .ok text) :
    ∃ (front : List Text) (names : List Text) (lines : List Text),
      (∀ n ∈ names, n ∈ d.enumNames) ∧
      HasParts (header c ++ text) front (names.map fun n => (e, n)) (modelRest m lines) := by
  obtain ⟨hmname, hfields⟩ := hd.models m hm
  obtain ⟨rendered, hr, rfl⟩ := modelFile_eq h
  have hwithin := within_of_renderFields (Needs.within_initial _) hr
  obtain ⟨typing, withField, himports⟩ := neededImports_eq hwithin e
  obtain ⟨ls, hls, hrendered⟩ := result_renderFields hr
  have hlines : ∀ l ∈ rendered.lines, IsLine l := by
    intro l hl
    rw [hrendered] at hl
    obtain ⟨line, hline, rfl⟩ := List.mem_map.mp hl
    have hok : (.ok line : Except Fault FieldLine) ∈ ls.map .ok := List.mem_map_of_mem hline
    rw [← hls] at hok
    obtain ⟨f, hf, hfl⟩ := List.mem_map.mp hok
    exact isLine_renderField (hfields f hf) hfl
  refine ⟨headerLines c ++ outerImports rendered.needs.imports.datetime
    rendered.needs.imports.decimal typing withField, rendered.needs.enums, rendered.lines,
    hwithin.enums, ?_, fun l hl => ?_, modelRest_isPlain hmname hlines, fun i hi => ?_⟩
  · rw [header_eq, ← Text.closed_append, he, List.map_map]
    unfold modelLines modelRest
    rw [show (Value.text e).display = e from rfl, himports]
    simp only [List.append_assoc]
    rfl
  · rcases List.mem_append.mp hl with hl | hl
    · exact headerLines_isPlain c l hl
    · exact outerImports_isPlain _ _ _ _ l hl
  · obtain ⟨n, hn, rfl⟩ := List.mem_map.mp hi
    exact ⟨isLine_enumImport (isLine_of_isName hname)
      (hd.of_mem_enumNames (hwithin.enums n hn)), not_blank_of_isName hname⟩

/-- What the package's own module imports. -/
def initImportPairs (d : Datamodel) (e : Text) : List (Text × Text) :=
  d.enumNames.map (fun n => (e, n)) ++ d.models.map fun m => (moduleName m, m.name)

/-- The names that the package offers. -/
def offeredNames (d : Datamodel) : List Text :=
  d.enumNames ++ d.models.map (·.name)

theorem isName_of_mem_offeredNames (hd : d.IsNamed) : ∀ n ∈ offeredNames d, IsName n := by
  intro n hn
  rcases List.mem_append.mp hn with hn | hn
  · exact hd.of_mem_enumNames hn
  · obtain ⟨m, hm, rfl⟩ := List.mem_map.mp hn
    exact (hd.models m hm).1

theorem isName_of_mem_entries (hd : d.IsNamed) : ∀ m ∈ d.models.map moduleEntry, IsName m.name := by
  intro m hm
  obtain ⟨m', hm', rfl⟩ := List.mem_map.mp hm
  exact (hd.models m' hm').1

/-- The package's own module imports each enum and each model. -/
theorem parts_init (hd : d.IsNamed) (he : c.enumsModule = .text e) (hname : IsName e) :
    HasParts (initText c d) (headerLines c) (initImportPairs d e)
      (initRest (offeredNames d) (d.models.map moduleEntry)) := by
  refine ⟨?_, headerLines_isPlain c, initRest_isPlain (isName_of_mem_offeredNames hd)
    (isName_of_mem_entries hd), fun i hi => ?_⟩
  · unfold initText
    rw [packageInit_eq, header_eq, ← Text.closed_append, he]
    unfold initLines initRest initImportPairs offeredNames
    simp only [List.map_append, List.map_map, List.append_assoc]
    rfl
  · rcases List.mem_append.mp hi with hi | hi
    · obtain ⟨n, hn, rfl⟩ := List.mem_map.mp hi
      exact ⟨isLine_enumImport (isLine_of_isName hname) (hd.of_mem_enumNames hn),
        not_blank_of_isName hname⟩
    · obtain ⟨m, hm, rfl⟩ := List.mem_map.mp hi
      obtain ⟨hmname, -⟩ := hd.models m hm
      exact ⟨isLine_enumImport (isLine_snakeCase hmname) hmname, not_blank_moduleName hmname⟩

/-! ## The package's own module -/

theorem toList_enumImport (module name : Text) :
    ∃ r, (enumImport module name).toList = .char 'f' :: r := by
  unfold enumImport
  rw [Text.toList_append, Text.toList_append, Text.toList_append]
  exact ⟨_, rfl⟩

theorem toList_offerText (name : Text) : ∃ r, (offerText name).toList = .char ' ' :: r := by
  exact ⟨_, rfl⟩

/-- **The package offers the names of its enums and models.** -/
theorem offered_init (hd : d.IsNamed) (he : c.enumsModule = .text e) (hname : IsName e) :
    offered (initText c d) = (offeredNames d).map offerText := by
  have hparts := parts_init hd he hname
  have hlist : headerLines c ++ (initImportPairs d e).map (fun i => enumImport i.1 i.2)
        ++ initRest (offeredNames d) (d.models.map moduleEntry)
      = (headerLines c ++ (initImportPairs d e).map (fun i => enumImport i.1 i.2) ++ [("" : Text)])
        ++ ("__all__ = [" : Text) :: ((offeredNames d).map offerText
          ++ ("]" : Text) :: rebuildLines (d.models.map moduleEntry)) := by
    simp [initRest]
  have hlines := hparts.isLine
  rw [hparts.text_eq, hlist]
  rw [hlist] at hlines
  refine offered_closed hlines (fun l hl => ?_) fun l hl => ?_
  · have hopen : ("__all__ = [" : Text).toList = .char '_' :: ("_all__ = [" : Text).toList := rfl
    have hempty : ("" : Text) ≠ "__all__ = [" := by decide
    rcases List.mem_append.mp hl with hl | hl
    · rcases List.mem_append.mp hl with hl | hl
      · rcases mem_headerLines hl with rfl | rfl
        · exact ne_of_head rfl hopen (by decide)
        · exact hempty
      · obtain ⟨i, -, rfl⟩ := List.mem_map.mp hl
        obtain ⟨r, hr⟩ := toList_enumImport i.1 i.2
        exact ne_of_head hr hopen (by decide)
    · rwa [List.mem_singleton.mp hl]
  · obtain ⟨n, -, rfl⟩ := List.mem_map.mp hl
    obtain ⟨r, hr⟩ := toList_offerText n
    exact ne_of_head (b := .char ']') hr rfl (by decide)

/-- A line that ends in a name is no call. -/
theorem isRebuild_of_isName {s n : Text} (h : IsName n) : isRebuild (s ++ n) = false := by
  obtain ⟨front, c, hn, hc⟩ := exists_last_of_isName h
  have hs : s ++ n = Text.ofList ((s.toList ++ front) ++ [c]) := by
    rw [List.append_assoc, ← hn, Text.ofList_append, Text.ofList_toList, Text.ofList_toList]
  rw [hs]
  refine isRebuild_ofList ?_
  rw [List.getLast?_concat]
  rintro h
  cases h
  revert hc
  decide

theorem opensStatement_of_isName {n : Text} (h : IsName n) (s : Text) :
    opensStatement (n ++ s) = true := by
  unfold opensStatement
  rw [Text.toList_append]
  cases hn : n.toList with
  | nil =>
    unfold IsName at h
    rw [hn] at h
    cases h
  | cons c r =>
    have hb := not_blank_of_isName h
    rw [hn] at hb
    rw [List.cons_append, bne_iff_ne]
    rintro rfl
    exact hb List.mem_cons_self

/-- Lines among which no call is that resolves references. -/
def HasNoRebuild (ls : List Text) : Prop :=
  ∀ l ∈ ls, opensStatement l = true → isRebuild l = false

theorem HasNoRebuild.filter_eq_nil {ls : List Text} (h : HasNoRebuild ls) :
    (ls.filter opensStatement).filter isRebuild = [] := by
  rw [List.filter_eq_nil_iff]
  intro l hl
  rw [h l (List.mem_of_mem_filter hl) (List.mem_filter.mp hl).2]
  decide

theorem headerLines_hasNoRebuild (c : Settings) : HasNoRebuild (headerLines c) := by
  intro l hl ho
  rcases mem_headerLines hl with rfl | rfl
  · exact isRebuild_ofList (by decide)
  · cases ho

/-- The calls that resolve references, one for each model. -/
theorem filter_rebuildLines {models : List ModuleEntry} (h : ∀ m ∈ models, IsName m.name) :
    ((rebuildLines models).filter opensStatement).filter isRebuild
      = models.map fun m => rebuildText m.name := by
  have hfixed : HasNoRebuild ["", "# Resolve cross-module forward references"] := by
    unfold HasNoRebuild
    simp only [List.forall_mem_cons]
    exact ⟨fun _ => isRebuild_ofList (by decide), fun _ => isRebuild_ofList (by decide),
      List.forall_mem_nil _⟩
  unfold rebuildLines
  split
  · rename_i hm
    rw [List.isEmpty_iff.mp hm]
    rfl
  · have hcalls : ∀ l ∈ models.map (rebuildText ·.name),
        (opensStatement l = true) ∧ isRebuild l = true := by
      intro l hl
      obtain ⟨m, hm, rfl⟩ := List.mem_map.mp hl
      refine ⟨opensStatement_of_isName (h m hm) _, ?_⟩
      unfold isRebuild rebuildText
      rw [List.isSuffixOf_iff_suffix, Text.toList_append]
      exact List.suffix_append _ _
    rw [List.filter_append, List.filter_append, hfixed.filter_eq_nil, List.nil_append,
      List.filter_eq_self.mpr fun l hl => (hcalls l hl).1,
      List.filter_eq_self.mpr fun l hl => (hcalls l hl).2]

/-- **The references of the models are resolved, model by model.** -/
theorem rebuilt_init (hd : d.IsNamed) (he : c.enumsModule = .text e) (hname : IsName e) :
    rebuilt (initText c d) = d.models.map fun m => rebuildText m.name := by
  have himports : HasNoRebuild ((initImportPairs d e).map (fun i => enumImport i.1 i.2)) := by
    intro l hl _
    obtain ⟨i, hi, rfl⟩ := List.mem_map.mp hl
    refine isRebuild_of_isName (isName_of_mem_offeredNames hd i.2 ?_)
    rcases List.mem_append.mp hi with hi | hi
    · obtain ⟨n, hn, rfl⟩ := List.mem_map.mp hi
      exact List.mem_append_left _ hn
    · obtain ⟨m, hm, rfl⟩ := List.mem_map.mp hi
      exact List.mem_append_right _ (List.mem_map_of_mem hm)
  have hoffers : HasNoRebuild ((offeredNames d).map offerText) := by
    intro l hl ho
    obtain ⟨n, hn, rfl⟩ := List.mem_map.mp hl
    rw [(isInner_offerText (isName_of_mem_offeredNames hd n hn)).opens] at ho
    cases ho
  have hopen : HasNoRebuild ["", "__all__ = ["] := by
    unfold HasNoRebuild
    simp only [List.forall_mem_cons]
    exact ⟨fun _ => isRebuild_ofList (by decide), fun _ => isRebuild_ofList (by decide),
      List.forall_mem_nil _⟩
  have hclose : HasNoRebuild ["]"] := by
    unfold HasNoRebuild
    simp only [List.forall_mem_cons]
    exact ⟨fun _ => isRebuild_ofList (by decide), List.forall_mem_nil _⟩
  have hrest : initRest (offeredNames d) (d.models.map moduleEntry)
      = [("" : Text), "__all__ = ["] ++ (offeredNames d).map offerText
        ++ ([("]" : Text)] ++ rebuildLines (d.models.map moduleEntry)) := rfl
  unfold rebuilt
  rw [(parts_init hd he hname).outline_eq, hrest]
  simp only [List.filter_append, (headerLines_hasNoRebuild c).filter_eq_nil,
    himports.filter_eq_nil, hoffers.filter_eq_nil, hopen.filter_eq_nil, hclose.filter_eq_nil,
    filter_rebuildLines (isName_of_mem_entries hd), List.nil_append, List.map_map]
  rfl

/-! ## Whole packages -/

/-- The module of the enums defines each of them. -/
theorem definesClass_enums (hd : d.IsNamed) {text : Text} (h : enumsFile d.enums = .ok text)
    {n : Text} (hn : n ∈ d.enumNames) : definesClass (header c ++ text) n := by
  obtain ⟨en, hen, rfl⟩ := List.mem_map.mp hn
  have hne : d.enums ≠ [] := List.ne_nil_of_mem hen
  have hbases : ("(str, Enum):" : Text) = "(" ++ "str, Enum):" := rfl
  refine (parts_enums hd hne h).definesClass_of_mem en.name "str, Enum):" ?_
  rw [← hbases]
  refine List.mem_append_right _ (mem_intercalate_of_mem (List.mem_map_of_mem hen) ?_)
  exact List.mem_cons_self

/-- The module of a model defines it. -/
theorem definesClass_model (hd : d.IsNamed) (he : c.enumsModule = .text e) (hname : IsName e)
    {m : Model} (hm : m ∈ d.models) {text : Text}
    (h : (modelFile d.enumNames c.enumsModule m).result = .ok text) :
    definesClass (header c ++ text) m.name := by
  obtain ⟨front, names, lines, -, hparts⟩ := parts_model hd he hname hm h
  have hbases : ("(BaseModel):" : Text) = "(" ++ "BaseModel):" := rfl
  refine hparts.definesClass_of_mem m.name "BaseModel):" ?_
  rw [← hbases]
  unfold modelRest
  simp

/-- **Packages are closed and free of import cycles.** -/
theorem generate_closed (hd : d.IsNamed) (he : c.enumsModule = .text e) (hname : IsName e)
    (hinit : e ≠ "__init__") (h : (generate c d).result = .ok files) :
    Association.keys files
        = (if d.enums.isEmpty then [] else [e ++ ".py"])
          ++ d.models.map (fun m => snakeCase m.name ++ ".py") ++ [("__init__.py" : Text)]
          ++ (if c.writeMarker.isTruthy then [("py.typed" : Text)] else []) ∧
      (∀ f ∈ files,
        (∀ line ∈ outline f.2, isRelativeImport line = true →
          (relativeImport? line).isSome = true) ∧
        ∀ i ∈ relativeImports f.2, ∃ text, Association.get? (i.1 ++ ".py") files = some text ∧
          definesClass text i.2) ∧
      (∀ m ∈ d.models, ∀ text, Association.get? (snakeCase m.name ++ ".py") files = some text →
        ∀ i ∈ relativeImports text, i.1 = e ∧ ∀ n ∈ d.models, snakeCase n.name ≠ e) ∧
      (d.enums ≠ [] → ∃ text, Association.get? (e ++ ".py") files = some text ∧
        relativeImports text = []) ∧
      ∃ init, Association.get? ("__init__.py" : Text) files = some init ∧
        offered init = (relativeImports init).map (fun i => ("    \"" ++ i.2 ++ "\"," : Text)) ∧
        rebuilt init = d.models.map fun m => (m.name ++ ".model_rebuild()" : Text) := by
  have hdisplay : c.enumsModule.display = e := by rw [he]; rfl
  have hholds := generate_holds (by rw [hdisplay]; exact hinit) h
  have hinitName : fileName initModule = "__init__.py" :=
    rfl
  have henum : ∀ n ∈ d.enumNames, d.enums ≠ [] ∧
      ∃ text, Association.get? (e ++ ".py") files = some text ∧ definesClass text n := by
    intro n hn
    have hne : d.enums ≠ [] := by
      rintro hnil
      rw [Datamodel.enumNames, hnil] at hn
      cases hn
    obtain ⟨text, ht, hget⟩ := hholds.enums hne
    rw [hdisplay] at hget
    exact ⟨hne, _, hget, definesClass_enums hd ht hn⟩
  refine ⟨?_, fun f hf => ?_, fun m hm text hget i hi => ?_, fun hne => ?_, initText c d, ?_, ?_,
    ?_⟩
  · rw [hholds.keys_eq, allKeys, enumKeys, hdisplay, hinitName]
    rfl
  · cases isFile_of_mem_generate h f hf with
    | enums hne ht =>
      have hparts := parts_enums (c := c) hd hne ht
      refine ⟨fun _ => hparts.complete, fun i hi => ?_⟩
      rw [hparts.relativeImports_eq] at hi
      cases hi
    | model hm ht =>
      obtain ⟨front, names, lines, hnames, hparts⟩ := parts_model hd he hname hm ht
      refine ⟨fun _ => hparts.complete, fun i hi => ?_⟩
      rw [hparts.relativeImports_eq] at hi
      obtain ⟨n, hn, rfl⟩ := List.mem_map.mp hi
      exact (henum n (hnames n hn)).2
    | init =>
      have hparts := parts_init (c := c) hd he hname
      refine ⟨fun _ => hparts.complete, fun i hi => ?_⟩
      rw [hparts.relativeImports_eq] at hi
      rcases List.mem_append.mp hi with hi | hi
      · obtain ⟨n, hn, rfl⟩ := List.mem_map.mp hi
        exact (henum n hn).2
      · obtain ⟨m, hm, rfl⟩ := List.mem_map.mp hi
        obtain ⟨-, text, ht, hget⟩ := hholds.models m hm
        exact ⟨_, hget, definesClass_model hd he hname hm ht⟩
    | marker =>
      have hnone : relativeImports "" = [] := by decide
      refine ⟨by decide, fun i hi => ?_⟩
      rw [hnone] at hi
      cases hi
  · obtain ⟨-, text', ht, hget'⟩ := hholds.models m hm
    obtain rfl : text = header c ++ text' := Option.some.inj (hget.symm.trans hget')
    obtain ⟨front, names, lines, hnames, hparts⟩ := parts_model hd he hname hm ht
    rw [hparts.relativeImports_eq] at hi
    obtain ⟨n, hn, rfl⟩ := List.mem_map.mp hi
    refine ⟨rfl, fun k hk => ?_⟩
    rw [← hdisplay]
    exact hholds.apart (henum n (hnames n hn)).1 k hk
  · obtain ⟨text, ht, hget⟩ := hholds.enums hne
    rw [hdisplay] at hget
    exact ⟨_, hget, (parts_enums (c := c) hd hne ht).relativeImports_eq⟩
  · rw [← hinitName]
    exact hholds.init
  · rw [offered_init hd he hname, (parts_init hd he hname).relativeImports_eq]
    unfold offeredNames initImportPairs
    simp only [List.map_append, List.map_map]
    rfl
  · exact rebuilt_init hd he hname

/-- An enum, and a model with a field of it. -/
def accounts : Datamodel :=
  { enums := [{ name := "Role", values := [{ name := "ADMIN", storageName := .null }]
                documentation := .null, storageName := .null }]
    models := [{ name := "User"
                 fields := [{ name := "role", kind := .enum, type := .text "Role", isList := false
                              isRequired := true, isId := false, isUnique := false
                              isUpdatedAt := false, hasDefault := false, default := .value .null
                              documentation := .null, storageName := .null, relationName := .null
                              relationFrom := [], relationTo := [] }]
                 documentation := .null, storageName := .null }] }

theorem accounts_isNamed : accounts.IsNamed := by
  have hname : ∀ s ∈ ["Role", "ADMIN", "User", "role"], IsName s := by
    unfold IsName
    decide +kernel
  refine ⟨fun e he => ?_, fun m hm => ?_⟩
  · obtain rfl := List.mem_singleton.mp he
    refine ⟨hname _ (by decide), fun v hv => ?_⟩
    obtain rfl := List.mem_singleton.mp hv
    exact hname _ (by decide)
  · obtain rfl := List.mem_singleton.mp hm
    refine ⟨hname _ (by decide), fun f hf => ?_⟩
    obtain rfl := List.mem_singleton.mp hf
    exact ⟨hname _ (by decide), "Role", rfl, fun _ => hname _ (by decide)⟩

theorem accounts_closed :
    ∃ files, (generate .defaults accounts).result = .ok files ∧
      Association.keys files = [("enums.py" : Text), "user.py", "__init__.py", "py.typed"] ∧
      ∀ f ∈ files, ∀ i ∈ relativeImports f.2, ∃ text,
        Association.get? (i.1 ++ ".py") files = some text ∧ definesClass text i.2 := by
  have hok : (generate .defaults accounts).result.isOk = true := by decide +kernel
  cases h : (generate .defaults accounts).result with
  | error f =>
    rw [h] at hok
    cases hok
  | ok files =>
    have hname : IsName "enums" := by decide +kernel
    obtain ⟨hkeys, hfiles, -⟩ := generate_closed accounts_isNamed rfl hname (by decide) h
    refine ⟨files, rfl, ?_, fun f hf => (hfiles f hf).2⟩
    rw [hkeys]
    decide +kernel

end ModelBindings.Package
