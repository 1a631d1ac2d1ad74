import ModelBindings.Proofs.Package.Kept
import ModelBindings.Proofs.Source.ImportBlock
import ModelBindings.Proofs.Source.Known

/-!
# The order of declaration

The files of a package are made one after another, and each name is checked against the files that
are there by then. Whether a package is made, which files it has and what the module of a model
says depends on what is declared and not on its order.

* `ModulesApart` : the modules of models have names of their own; `exists_generate_iff` says that
  nothing else decides whether a package is made.
* `mem_keys_generate` : the names of the files.
* `get?_generate_model` : the module of a model, from the model and the enums that are known.
* `generate_order_free` : two orders of one declaration.
-/

set_option autoImplicit false

namespace ModelBindings.Package

variable {c : Settings} {d d' : Datamodel} {names : List Text} {files files' : Files}

/-! ## Whether a package is made -/

/-- The modules of models have names of their own. -/
structure ModulesApart (c : Settings) (d : Datamodel) : Prop where
  notInit : ∀ m ∈ d.models, moduleName m ≠ initModule
  notEnums : d.enums ≠ [] → ∀ m ∈ d.models, moduleName m ≠ c.enumsModule.display
  distinct : (d.models.map moduleName).Nodup

/-- No field shows an overlong integer. -/
def HasShortIntegers (d : Datamodel) : Prop :=
  ∀ m ∈ d.models, ∀ f ∈ m.fields, ¬ f.IsOverlong

/-- Models that are added have their modules apart. -/
theorem modulesApart_of_addModels {enums modules : Files} (he : enumFiles c d.enums = .ok enums)
    (hm : (addModels c names enums d.models).result = .ok modules) : ModulesApart c d := by
  obtain ⟨hkeys, -, hnew⟩ := addModels_spec hm
  refine ⟨fun m hmm => (hnew m hmm).2.1, fun hne m hmm hname => ?_, ?_⟩
  · exact (hnew m hmm).1 ((mem_keys_enumFiles he).mpr ⟨hne, congrArg fileName hname⟩)
  · have hnodup : (Association.keys modules).Nodup := by
      refine nodup_keys_addModels ?_ hm
      rw [keys_enumFiles he, enumKeys]
      split <;> simp
    rw [hkeys] at hnodup
    refine List.Nodup.of_map fileName ?_
    rw [List.map_map]
    exact hnodup.of_append_right

/-- A package that is made has its modules apart. -/
theorem modulesApart_of_generate (h : (generate c d).result = .ok files) : ModulesApart c d := by
  obtain ⟨enums, he, h⟩ := Traced.result_bind_eq_ok.mp h
  obtain ⟨modules, hm, -⟩ := Traced.result_bind_eq_ok.mp h
  exact modulesApart_of_addModels he hm

/-- Modules of models are added where their names are free. -/
theorem addModels_ok {ms : List Model}
    (hmade : ∀ m ∈ ms, ∃ text, (Source.modelFile names c.enumsModule m).result = .ok text)
    (hinit : ∀ m ∈ ms, moduleName m ≠ initModule)
    (hfree : ∀ m ∈ ms, fileName (moduleName m) ∉ Association.keys files)
    (hdistinct : (ms.map moduleName).Nodup) :
    ∃ files', (addModels c names files ms).result = .ok files' := by
  induction ms generalizing files with
  | nil => exact ⟨files, rfl⟩
  | cons m r ih =>
    obtain ⟨text, ht⟩ := hmade m List.mem_cons_self
    have hnew : (addModel c names files m).result
        = .ok (Association.put (fileName (moduleName m)) (header c ++ text) files) := by
      have hf := hfree m List.mem_cons_self
      have hi := hinit m List.mem_cons_self
      unfold addModel
      dsimp only
      rw [if_neg (by simp [hf, hi])]
      exact Traced.result_bind_eq_ok.mpr ⟨text, ht, rfl⟩
    rw [List.map_cons, List.nodup_cons] at hdistinct
    have hfree' : ∀ k ∈ r, fileName (moduleName k) ∉ Association.keys
        (Association.put (fileName (moduleName m)) (header c ++ text) files) := by
      intro k hk
      rw [Association.mem_keys_put, not_or, fileName_inj]
      refine ⟨fun he => hdistinct.1 (he ▸ List.mem_map_of_mem hk), ?_⟩
      exact hfree k (List.mem_cons_of_mem m hk)
    obtain ⟨files', h⟩ := ih (fun k hk => hmade k (List.mem_cons_of_mem m hk))
      (fun k hk => hinit k (List.mem_cons_of_mem m hk)) hfree' hdistinct.2
    exact ⟨files', Traced.result_bind_eq_ok.mpr ⟨_, hnew, h⟩⟩

/-- **A package is made when the modules of its models are apart.** -/
theorem exists_generate_iff (hd : d.IsTyped) (hshort : HasShortIntegers d) :
    (∃ files, (generate c d).result = .ok files) ↔ ModulesApart c d := by
  refine ⟨fun ⟨files, h⟩ => modulesApart_of_generate h, fun hapart => ?_⟩
  obtain ⟨enums, he⟩ : ∃ enums, enumFiles c d.enums = .ok enums := enumFiles_ok hd
  have hfree : ∀ m ∈ d.models, fileName (moduleName m) ∉ Association.keys enums := by
    intro m hm hin
    obtain ⟨hne, hname⟩ := (mem_keys_enumFiles he).mp hin
    exact hapart.notEnums hne m hm (fileName_inj.mp hname)
  have hmade : ∀ m ∈ d.models,
      ∃ text, (Source.modelFile d.enumNames c.enumsModule m).result = .ok text :=
    fun m hm => Source.modelFile_ok (hd.models m hm) (hshort m hm)
  obtain ⟨modules, hm⟩ := addModels_ok hmade hapart.notInit hfree hapart.distinct
  exact ⟨close c d modules,
    Traced.result_bind_eq_ok.mpr ⟨enums, he, Traced.result_bind_eq_ok.mpr ⟨modules, hm, rfl⟩⟩⟩

/-! ## What a package has -/

theorem mem_keys_close {k : Text} : k ∈ Association.keys (close c d files) ↔
    k = fileName initModule ∨ k ∈ Association.keys files ∨
      c.writeMarker.isTruthy = true ∧ k = markerName := by
  unfold close
  dsimp only
  split
  · rename_i hmarker
    rw [Association.mem_keys_put, Association.mem_keys_put, hmarker]
    tauto
  · rename_i hmarker
    rw [Association.mem_keys_put]
    simp [hmarker]

/-- The names of the files of a package. -/
def IsKey (c : Settings) (d : Datamodel) (k : Text) : Prop :=
  k = fileName initModule ∨ (d.enums ≠ [] ∧ k = fileName c.enumsModule.display ∨
    ∃ m ∈ d.models, k = fileName (moduleName m)) ∨ c.writeMarker.isTruthy = true ∧ k = markerName

theorem mem_keys_generate (h : (generate c d).result = .ok files) (k : Text) :
    k ∈ Association.keys files ↔ IsKey c d k := by
  obtain ⟨enums, he, h⟩ := Traced.result_bind_eq_ok.mp h
  obtain ⟨modules, hm, h⟩ := Traced.result_bind_eq_ok.mp h
  cases h
  rw [mem_keys_close, (addModels_spec hm).1, List.mem_append, mem_keys_enumFiles he, IsKey]
  simp only [List.mem_map, eq_comm]

/-- The module of a model stays what it was when the package is closed. -/
theorem get?_close {k : Text} (hi : k ≠ fileName initModule) (hm : k ≠ markerName) :
    Association.get? k (close c d files) = Association.get? k files := by
  unfold close
  dsimp only
  split
  · rw [Association.get?_put, if_neg hm, Association.get?_put, if_neg hi]
  · rw [Association.get?_put, if_neg hi]

/-- **The file of a model, from the model and the enums that are known.** -/
theorem get?_generate_model (h : (generate c d).result = .ok files) {m : Model}
    (hm : m ∈ d.models) :
    ∃ text, (Source.modelFile d.enumNames c.enumsModule m).result = .ok text ∧
      Association.get? (fileName (moduleName m)) files = some (header c ++ text) := by
  obtain ⟨enums, he, h⟩ := Traced.result_bind_eq_ok.mp h
  obtain ⟨modules, hmodules, h⟩ := Traced.result_bind_eq_ok.mp h
  obtain ⟨-, hi, text, ht, hget⟩ := (addModels_spec hmodules).2.2 m hm
  cases h
  refine ⟨text, ht, ?_⟩
  rw [get?_close (fun hk => hi (fileName_inj.mp hk)) (fileName_ne_markerName _), hget]

/-- One model among other models, where the same enums are known. -/
theorem model_independent (hknown : ∀ n, n ∈ d.enumNames ↔ n ∈ d'.enumNames) {m : Model}
    (hm : m ∈ d.models) (hm' : m ∈ d'.models) (h : (generate c d).result = .ok files)
    (h' : (generate c d').result = .ok files') :
    ∃ text, Association.get? (fileName (moduleName m)) files = some text ∧
      Association.get? (fileName (moduleName m)) files' = some text := by
  obtain ⟨text, ht, hget⟩ := get?_generate_model h hm
  obtain ⟨text', ht', hget'⟩ := get?_generate_model h' hm'
  rw [Source.modelFile_congr hknown, ht'] at ht
  cases ht
  exact ⟨header c ++ text, hget, hget'⟩

/-! ## Two orders -/

section Orders

variable (henums : d.enums.Perm d'.enums) (hmodels : d.models.Perm d'.models)

include henums hmodels

theorem isTyped_of_perm (h : d.IsTyped) : d'.IsTyped :=
  ⟨fun e he => h.enums e (henums.mem_iff.mpr he), fun m hm => h.models m (hmodels.mem_iff.mpr hm)⟩

theorem modulesApart_of_perm (h : ModulesApart c d) : ModulesApart c d' := by
  refine ⟨fun m hm => h.notInit m (hmodels.mem_iff.mpr hm), fun hne m hm => ?_, ?_⟩
  · refine h.notEnums (fun hnil => hne ?_) m (hmodels.mem_iff.mpr hm)
    rw [hnil] at henums
    exact henums.nil_eq.symm
  · exact ((hmodels.map moduleName).nodup_iff).mp h.distinct

theorem isKey_of_perm {k : Text} (h : IsKey c d k) : IsKey c d' k := by
  rcases h with h | (⟨hne, h⟩ | ⟨m, hm, h⟩) | h
  · exact .inl h
  · refine .inr (.inl (.inl ⟨fun hnil => hne ?_, h⟩))
    rw [hnil] at henums
    exact henums.eq_nil
  · exact .inr (.inl (.inr ⟨m, hmodels.mem_iff.mp hm, h⟩))
  · exact .inr (.inr h)

end Orders

theorem hasShortIntegers_of_perm (hmodels : d.models.Perm d'.models) (h : HasShortIntegers d) :
    HasShortIntegers d' :=
  fun m hm => h m (hmodels.mem_iff.mpr hm)

/-- Where no integer is overlong, only a name that is taken stops a package. -/
theorem kind_of_generate_stops {f : Fault} (hd : d.IsTyped) (hshort : HasShortIntegers d)
    (h : (generate c d).result = .error f) : f.kind = "GenerationError" := by
  obtain ⟨m, hm, hf | ⟨-, k, hk, hlong⟩⟩ := generate_stops hd h
  · rw [hf]
    rfl
  · exact absurd hlong (hshort m hm k hk)

/-- **The order of declaration makes no difference to what is made, nor do other models.** -/
theorem generate_order_free (c : Settings) :
    (∀ d d' : Datamodel, d.IsTyped → HasShortIntegers d →
      d.enums.Perm d'.enums → d.models.Perm d'.models →
      match (generate c d).result, (generate c d').result with
      | .ok files, .ok files' =>
        (∀ k, k ∈ Association.keys files ↔ k ∈ Association.keys files') ∧
          ∀ m ∈ d.models, ∃ text, Association.get? (snakeCase m.name ++ ".py") files = some text ∧
            Association.get? (snakeCase m.name ++ ".py") files' = some text
      | .error f, .error f' => f.kind = "GenerationError" ∧ f'.kind = "GenerationError"
      | _, _ => False) ∧
    ∀ (d d' : Datamodel) (m : Model) (files files' : Files),
      (∀ n, n ∈ d.enumNames ↔ n ∈ d'.enumNames) → m ∈ d.models → m ∈ d'.models →
      (generate c d).result = .ok files → (generate c d').result = .ok files' →
      ∃ text, Association.get? (snakeCase m.name ++ ".py") files = some text ∧
        Association.get? (snakeCase m.name ++ ".py") files' = some text := by
  refine ⟨fun d d' hd hshort henums hmodels => ?_, fun d d' m files files' hknown hm hm' h h' =>
    model_independent hknown hm hm' h h'⟩
  have hd' : d'.IsTyped := isTyped_of_perm henums hmodels hd
  have hshort' : HasShortIntegers d' := hasShortIntegers_of_perm hmodels hshort
  cases h : (generate c d).result with
  | ok files =>
    have hmade : ∃ files', (generate c d').result = .ok files' :=
      (exists_generate_iff hd' hshort').mpr
        (modulesApart_of_perm henums hmodels (modulesApart_of_generate h))
    obtain ⟨files', h'⟩ := hmade
    rw [h']
    refine ⟨fun k => ?_, fun m hm => ?_⟩
    · rw [mem_keys_generate h, mem_keys_generate h']
      exact ⟨isKey_of_perm henums hmodels, isKey_of_perm henums.symm hmodels.symm⟩
    · have hknown : ∀ n, n ∈ d.enumNames ↔ n ∈ d'.enumNames :=
        fun n => (henums.map (·.name)).mem_iff
      exact model_independent hknown hm (hmodels.mem_iff.mp hm) h h'
  | error f =>
    cases h' : (generate c d').result with
    | ok files' =>
      -- the other order would be made as well
      have hapart := modulesApart_of_perm henums.symm hmodels.symm (modulesApart_of_generate h')
      obtain ⟨files, hmade⟩ := (exists_generate_iff hd hshort).mpr hapart
      rw [hmade] at h
      cases h
    | error f' =>
      exact ⟨kind_of_generate_stops hd hshort h, kind_of_generate_stops hd' hshort' h'⟩

/-- Two enums and two models. -/
def hotel : Datamodel :=
  { enums := [("State" : Text), "Mode"].map fun name =>
      { name, values := [], documentation := .null, storageName := .null }
    models := [Source.booking,
      { name := "User", fields := [Source.requiredField "mode" .enum "Mode"]
        documentation := .null, storageName := .null }] }

theorem hotel_order_free :
    ∃ files files', (generate .defaults hotel).result = .ok files ∧
      (generate .defaults ⟨hotel.enums.reverse, hotel.models.reverse⟩).result = .ok files' ∧
      (∀ k, k ∈ Association.keys files ↔ k ∈ Association.keys files') ∧
      (∃ text, Association.get? ("booking.py" : Text) files = some text ∧
        Association.get? ("booking.py" : Text) files' = some text) := by
  have hfield : ∀ m ∈ hotel.models, ∀ f ∈ m.fields,
      ∃ name kind type, f = Source.requiredField name kind type := by
    simp only [hotel, Source.booking, List.forall_mem_cons]
    exact ⟨⟨⟨_, _, _, rfl⟩, ⟨_, _, _, rfl⟩, ⟨_, _, _, rfl⟩, ⟨_, _, _, rfl⟩, List.forall_mem_nil _⟩,
      ⟨⟨_, _, _, rfl⟩, List.forall_mem_nil _⟩, List.forall_mem_nil _⟩
  have htyped : hotel.IsTyped := by
    refine ⟨fun e he => ?_, fun m hm => ⟨fun f hf => ?_, ?_⟩⟩
    · obtain ⟨name, -, rfl⟩ := List.mem_map.mp he
      exact .inl rfl
    · obtain ⟨name, kind, type, rfl⟩ := hfield m hm f hf
      exact ⟨⟨type, rfl⟩, .inl rfl⟩
    · simp only [hotel, List.mem_cons, List.not_mem_nil, or_false] at hm
      rcases hm with rfl | rfl <;> exact .inl rfl
  have hshort : HasShortIntegers hotel := by
    rintro m hm f hf ⟨-, n, hn, -⟩
    obtain ⟨name, kind, type, rfl⟩ := hfield m hm f hf
    cases hn
  let back : Datamodel := ⟨hotel.enums.reverse, hotel.models.reverse⟩
  have henums : hotel.enums.Perm back.enums := (List.reverse_perm _).symm
  have hmodels : hotel.models.Perm back.models := (List.reverse_perm _).symm
  have horder := (generate_order_free .defaults).1 hotel back htyped hshort henums hmodels
  have hok : (generate .defaults hotel).result.isOk = true := by decide +kernel
  have hok' : (generate .defaults back).result.isOk = true := by decide +kernel
  cases h : (generate .defaults hotel).result with
  | error f =>
    rw [h] at hok
    cases hok
  | ok files =>
    cases h' : (generate .defaults back).result with
    | error f =>
      rw [h'] at hok'
      cases hok'
    | ok files' =>
      rw [h, h'] at horder
      refine ⟨files, files', rfl, rfl, horder.1, ?_⟩
      have hknown : ∀ n, n ∈ hotel.enumNames ↔ n ∈ back.enumNames :=
        fun n => (henums.map (·.name)).mem_iff
      have hbooking := (generate_order_free .defaults).2 hotel back Source.booking files files'
        hknown (by simp [hotel]) (by simp [back, hotel]) h h'
      rwa [show snakeCase Source.booking.name ++ ".py" = "booking.py" by decide +kernel]
        at hbooking

end ModelBindings.Package
