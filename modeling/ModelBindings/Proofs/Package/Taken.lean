import ModelBindings.Proofs.Package.Order

/-!
# Names that are taken

Models are added one after another, and the first one whose module has a name that is taken by then
stops the package. A name is taken by the package itself, by the module of the enums or by a model
further up, and by nothing else.

* `IsTaken` : the name of a model is taken behind the models in front of it.
* `addModel_eq_error_iff` : when one more model is refused, and with which fault.
* `addModels_eq_error_iff` : the models in front of the one that is refused are added.
* `generate_refuses_taken` : a package is refused for the first name that is taken.
-/

set_option autoImplicit false

namespace ModelBindings.Package

variable {c : Settings} {d : Datamodel} {names : List Text} {files files' : Files}
  {earlier front back : List Model} {m : Model} {f : Fault}

/-- The module of a model has the name of the package's own module, of the module of the enums or of
the module of an earlier model. -/
inductive IsTaken (c : Settings) (enums : List Enum) (earlier : List Model) (m : Model) : Prop where
  | init (h : moduleName m = initModule)
  | enums (hne : enums ≠ []) (h : c.enumsModule = .text (moduleName m))
  | model {k : Model} (hk : k ∈ earlier) (h : moduleName k = moduleName m)

/-- The first model whose name is taken, between those in front of it and those behind it. -/
structure IsFirstTaken (c : Settings) (d : Datamodel) (front : List Model) (m : Model)
    (back : List Model) : Prop where
  models : d.models = front ++ m :: back
  taken : IsTaken c d.enums front m
  free : ∀ (pre : List Model) (k : Model) (post : List Model), front = pre ++ k :: post →
    ¬ IsTaken c d.enums pre k

/-- Where modules are apart, no name is taken. -/
theorem ModulesApart.not_isTaken (h : ModulesApart c d) (hms : d.models = front ++ m :: back) :
    ¬ IsTaken c d.enums front m := by
  have hm : m ∈ d.models := by simp [hms]
  rintro (hinit | ⟨hne, htext⟩ | ⟨hk, hname⟩)
  · exact h.notInit m hm hinit
  · refine h.notEnums hne m hm ?_
    rw [htext]
    rfl
  · have hdistinct := h.distinct
    rw [hms, List.map_append, List.map_cons, List.nodup_append] at hdistinct
    exact hdistinct.2.2 _ (List.mem_map_of_mem hk) _ List.mem_cons_self hname

/-! ## One model -/

/-- A model is refused where there is a file of its name, and where it has that of the package. -/
theorem addModel_eq_error_iff
    (hmade : ∃ text, (Source.modelFile names c.enumsModule m).result = .ok text) :
    (addModel c names files m).result = .error f ↔
      (fileName (moduleName m) ∈ Association.keys files ∨ moduleName m = initModule) ∧
        f = .package (.nameTaken m.name (fileName (moduleName m))) := by
  obtain ⟨text, htext⟩ := hmade
  unfold addModel
  dsimp only
  split
  · rename_i htaken
    rw [Bool.or_eq_true, List.contains_iff_mem, beq_iff_eq] at htaken
    constructor
    · intro h
      cases h
      exact ⟨htaken, rfl⟩
    · rintro ⟨-, rfl⟩
      rfl
  · rename_i hfree
    rw [Bool.or_eq_true, List.contains_iff_mem, beq_iff_eq] at hfree
    refine ⟨fun h => ?_, fun h => absurd h.1 hfree⟩
    rcases Traced.result_bind_eq_error.mp h with h | ⟨_, -, h⟩
    · rw [htext] at h
      cases h
    · cases h

/-! ## The models one after another -/

/-- **The models stop at the one that is refused behind those that are added.** -/
theorem addModels_eq_error_iff {ms : List Model} :
    (addModels c names files ms).result = .error f ↔
      ∃ (front : List Model) (m : Model) (back : List Model) (made : Files),
        ms = front ++ m :: back ∧ (addModels c names files front).result = .ok made ∧
        (addModel c names made m).result = .error f := by
  induction ms generalizing files with
  | nil =>
    refine ⟨nofun, ?_⟩
    rintro ⟨front, m, back, made, hms, -⟩
    exact absurd hms.symm (by simp)
  | cons k r ih =>
    constructor
    · intro h
      rcases Traced.result_bind_eq_error.mp h with hk | ⟨mid, hmid, hr⟩
      · exact ⟨[], k, r, files, rfl, rfl, hk⟩
      · obtain ⟨front, m, back, made, rfl, hfront, hm⟩ := ih.mp hr
        exact ⟨k :: front, m, back, made, rfl,
          Traced.result_bind_eq_ok.mpr ⟨mid, hmid, hfront⟩, hm⟩
    · rintro ⟨front, m, back, made, hms, hfront, hm⟩
      refine Traced.result_bind_eq_error.mpr ?_
      cases front with
      | nil =>
        obtain ⟨rfl, rfl⟩ := List.cons.inj hms
        cases hfront
        exact .inl hm
      | cons p front =>
        obtain ⟨rfl, rfl⟩ := List.cons.inj hms
        obtain ⟨mid, hmid, hrest⟩ := Traced.result_bind_eq_ok.mp hfront
        exact .inr ⟨mid, hmid, ih.mpr ⟨front, m, back, made, rfl, hrest, hm⟩⟩

/-- The names that are taken behind models that are added are those of the files. -/
theorem isTaken_iff (hc : ∃ s, c.enumsModule = .text s) (he : enumFiles c d.enums = .ok files)
    (hfront : (addModels c names files front).result = .ok files') :
    IsTaken c d.enums front m ↔
      fileName (moduleName m) ∈ Association.keys files' ∨ moduleName m = initModule := by
  obtain ⟨s, hs⟩ := hc
  have hmodule : moduleName m = c.enumsModule.display ↔ c.enumsModule = .text (moduleName m) := by
    rw [hs, Value.text.injEq]
    exact eq_comm
  rw [(addModels_spec hfront).1, List.mem_append, mem_keys_enumFiles he, fileName_inj, hmodule,
    List.mem_map]
  constructor
  · rintro (hinit | ⟨hne, htext⟩ | ⟨hk, hname⟩)
    · exact .inr hinit
    · exact .inl (.inl ⟨hne, htext⟩)
    · exact .inl (.inr ⟨_, hk, congrArg fileName hname⟩)
  · rintro ((⟨hne, htext⟩ | ⟨k, hk, hname⟩) | hinit)
    · exact .enums hne htext
    · exact .model hk (fileName_inj.mp hname)
    · exact .init hinit

/-! ## The package -/

/-- A package that is refused is refused for the first name that is taken. -/
theorem exists_isFirstTaken (hc : ∃ s, c.enumsModule = .text s) (hd : d.IsTyped)
    (hshort : HasShortIntegers d) (h : (generate c d).result = .error f) :
    ∃ front m back, IsFirstTaken c d front m back ∧
      f = .package (.nameTaken m.name (fileName (moduleName m))) := by
  obtain ⟨enums, he, h⟩ := addModels_of_generate_error hd h
  obtain ⟨front, m, back, made, hms, hfront, hm⟩ := addModels_eq_error_iff.mp h
  have hmem : m ∈ d.models := by simp [hms]
  obtain ⟨htaken, hf⟩ := (addModel_eq_error_iff
    (Source.modelFile_ok (hd.models m hmem) (hshort m hmem))).mp hm
  -- the models in front are those of a package that is made
  let before : Datamodel := { d with models := front }
  have hapart : ModulesApart c before := modulesApart_of_addModels he hfront
  exact ⟨front, m, back, ⟨hms, (isTaken_iff hc he hfront).mpr htaken,
    fun pre k post hpre => hapart.not_isTaken hpre⟩, hf⟩

/-- **A package is refused exactly where a name is taken, and for the first one.** -/
theorem generate_refuses_taken (hc : ∃ s, c.enumsModule = .text s) (hd : d.IsTyped)
    (hshort : HasShortIntegers d) :
    ((∃ f, (generate c d).result = .error f ∧ f.kind = "GenerationError") ↔
      ∃ front m back, d.models = front ++ m :: back ∧ IsTaken c d.enums front m) ∧
    ∀ f, (generate c d).result = .error f → f.kind = "GenerationError" ∧
      ∃ front m back, IsFirstTaken c d front m back ∧
        f.message = "Model " ++ m.name ++ " would overwrite the generated file "
          ++ (snakeCase m.name ++ ".py") := by
  have hstop : ∀ f, (generate c d).result = .error f → f.kind = "GenerationError" :=
    fun f h => kind_of_generate_stops hd hshort h
  refine ⟨⟨?_, ?_⟩, fun f h => ⟨hstop f h, ?_⟩⟩
  · rintro ⟨f, h, -⟩
    obtain ⟨front, m, back, hfirst, -⟩ := exists_isFirstTaken hc hd hshort h
    exact ⟨front, m, back, hfirst.models, hfirst.taken⟩
  · rintro ⟨front, m, back, hms, htaken⟩
    cases h : (generate c d).result with
    | ok files => exact absurd htaken ((modulesApart_of_generate h).not_isTaken hms)
    | error f => exact ⟨f, rfl, hstop f h⟩
  · obtain ⟨front, m, back, hfirst, rfl⟩ := exists_isFirstTaken hc hd hshort h
    exact ⟨front, m, back, hfirst, rfl⟩

/-- A model without fields. -/
def emptyModel (name : Text) : Model :=
  { name, fields := [], documentation := .null, storageName := .null }

/-- Two models of one module, and one between them with the module of the enums. -/
def clinic : Datamodel :=
  { enums := [{ name := "Ward", values := [], documentation := .null, storageName := .null }]
    models := [emptyModel "WardNurse", emptyModel "Enums", emptyModel "wardNurse"] }

theorem clinic_refuses_enums :
    ∃ f, (generate .defaults clinic).result = .error f ∧ f.kind = "GenerationError" ∧
      f.message = "Model Enums would overwrite the generated file enums.py" ∧
      ∃ front m back, IsFirstTaken .defaults clinic front m back ∧
        f.message = "Model " ++ m.name ++ " would overwrite the generated file "
          ++ (snakeCase m.name ++ ".py") := by
  have hempty : ∀ m ∈ clinic.models, ∃ name, m = emptyModel name := by
    simp only [clinic, List.forall_mem_cons]
    exact ⟨⟨_, rfl⟩, ⟨_, rfl⟩, ⟨_, rfl⟩, List.forall_mem_nil _⟩
  have htyped : clinic.IsTyped := by
    refine ⟨fun e he => ?_, fun m hm => ?_⟩
    · rw [List.mem_singleton.mp he]
      exact .inl rfl
    · obtain ⟨name, rfl⟩ := hempty m hm
      exact ⟨List.forall_mem_nil _, .inl rfl⟩
  have hshort : HasShortIntegers clinic := by
    intro m hm f hf
    obtain ⟨name, rfl⟩ := hempty m hm
    cases hf
  obtain ⟨hrefused, hfirst⟩ := generate_refuses_taken (c := .defaults) ⟨"enums", rfl⟩ htyped hshort
  have htaken : IsTaken .defaults clinic.enums [emptyModel "WardNurse"] (emptyModel "Enums") :=
    .enums (List.cons_ne_nil _ _)
      (congrArg Value.text
        (show ("enums" : Text) = moduleName (emptyModel "Enums") by decide +kernel))
  obtain ⟨f, hf, hkind⟩ := hrefused.mpr ⟨_, _, [emptyModel "wardNurse"], rfl, htaken⟩
  have hmessage : (generate .defaults clinic).result.mapError Fault.message
      = .error "Model Enums would overwrite the generated file enums.py" := by
    decide +kernel
  rw [hf] at hmessage
  exact ⟨f, hf, hkind, Except.error.inj hmessage, (hfirst f hf).2⟩

end ModelBindings.Package
