import ModelBindings.Proofs.Package.Order
import ModelBindings.Proofs.Source.Degradation

/-!
# The records of a package

Only fields leave records, each those of what it gives up. They stand in the order of the models
and, within a model, of its fields.

* `log_renderFields` : the records of the lines of fields.
* `log_modelFile`, `log_addModels` : the records of one module, and of one module after another.
* `generate_log` : the records of a package, and what its files say of them.
-/

set_option autoImplicit false

namespace ModelBindings

/-- The records of what the fields of a model give up. -/
def Model.degradations (known : List Text) (m : Model) : List Record :=
  m.fields.flatMap (Source.degradations known)

namespace Source

variable {known : List Text}

/-- **The records of the lines of fields.** -/
theorem log_renderFields {fs : List Field} (hfs : ∀ f ∈ fs, ∃ s, f.type = .text s) {needs : Needs}
    {rendered : RenderedFields} (h : (renderFields known needs fs).result = .ok rendered) :
    (renderFields known needs fs).log = fs.flatMap (degradations known) := by
  induction fs generalizing needs rendered with
  | nil => rfl
  | cons f r ih =>
    obtain ⟨l, hl, h⟩ := Traced.result_bind_eq_ok.mp h
    obtain ⟨rest, hr, -⟩ := Traced.result_bind_eq_ok.mp h
    have hfirst : (renderField known f).log = degradations known f :=
      log_renderField (hfs f List.mem_cons_self) hl
    -- the other fields start from other needs, which leave no records
    have hrest := ih (fun k hk => hfs k (List.mem_cons_of_mem f hk)) hr
    unfold renderFields
    dsimp only
    rw [Traced.log_bind_of_ok hl, Traced.log_bind_of_ok hr, hrest, hfirst, List.flatMap_cons]
    exact congrArg _ (List.append_nil _)

/-- The module of a model leaves the records of its fields. -/
theorem log_modelFile {enumsModule : Value} {m : Model}
    (hfs : ∀ f ∈ m.fields, ∃ s, f.type = .text s) {text : Text}
    (h : (modelFile known enumsModule m).result = .ok text) :
    (modelFile known enumsModule m).log = m.degradations known := by
  obtain ⟨rendered, hr, h⟩ := Traced.result_bind_eq_ok.mp h
  obtain ⟨doc, hd, -⟩ := Traced.result_bind_eq_ok.mp h
  unfold modelFile
  rw [Traced.log_bind_of_ok hr, Traced.log_bind_of_ok hd, log_renderFields hfs hr]
  exact List.append_nil _

end Source

namespace Package

variable {c : Settings} {d : Datamodel} {names : List Text} {files files' : Files}

theorem log_addModel {m : Model} (hfs : ∀ f ∈ m.fields, ∃ s, f.type = .text s)
    (h : (addModel c names files m).result = .ok files') :
    (addModel c names files m).log = m.degradations names := by
  unfold addModel at h ⊢
  dsimp only at h ⊢
  split at h
  · cases h
  · rename_i hfree
    obtain ⟨text, ht, -⟩ := Traced.result_bind_eq_ok.mp h
    rw [if_neg hfree, Traced.log_bind_of_ok ht, Source.log_modelFile hfs ht]
    exact List.append_nil _

/-- **The records of one module after another.** -/
theorem log_addModels {ms : List Model} (hms : ∀ m ∈ ms, ∀ f ∈ m.fields, ∃ s, f.type = .text s)
    (h : (addModels c names files ms).result = .ok files') :
    (addModels c names files ms).log = ms.flatMap (·.degradations names) := by
  induction ms generalizing files with
  | nil => rfl
  | cons m r ih =>
    obtain ⟨mid, hm, hr⟩ := Traced.result_bind_eq_ok.mp h
    unfold addModels
    rw [Traced.log_bind_of_ok hm, log_addModel (hms m List.mem_cons_self) hm,
      ih (fun k hk => hms k (List.mem_cons_of_mem m hk)) hr, List.flatMap_cons]

/-- **The records of a package**: those of what its fields give up, in the order of models and
fields, and no others; and each of them can be seen in the file of its model. -/
theorem generate_log (hd : d.IsTyped) (h : (generate c d).result = .ok files) :
    (generate c d).log = d.models.flatMap (·.degradations d.enumNames) ∧
      ∀ m ∈ d.models, ∃ lines : List Source.FieldLine,
        let imports := Source.moduleImports d.enumNames c.enumsModule.display m.fields
          (lines.any (·.hasCall))
        Association.get? (snakeCase m.name ++ ".py") files
          = some (header c ++ Text.closed (imports ++ Source.modelRest m (lines.map (·.text)))) ∧
        List.Forall₂ (Source.IsAccounted d.enumNames c.enumsModule.display imports) m.fields
          lines := by
  have htexts : ∀ m ∈ d.models, ∀ f ∈ m.fields, ∃ s, f.type = .text s :=
    fun m hm f hf => ((hd.models m hm).fields f hf).type
  refine ⟨?_, fun m hm => ?_⟩
  · obtain ⟨enums, he, h⟩ := Traced.result_bind_eq_ok.mp h
    obtain ⟨modules, hmodules, -⟩ := Traced.result_bind_eq_ok.mp h
    unfold generate
    rw [Traced.log_bind_of_ok he, Traced.log_bind_of_ok hmodules, log_addModels htexts hmodules]
    exact List.append_nil _
  · obtain ⟨text, ht, hget⟩ := get?_generate_model h hm
    obtain ⟨lines, hlines, rfl⟩ := Source.modelFile_lines (htexts m hm) ht
    refine ⟨lines, hget, ?_⟩
    -- each line is that of a field of the model
    have hmade : List.Forall₂ (fun f l => f ∈ m.fields ∧
        (Source.renderField d.enumNames f).line = .ok l) m.fields lines := by
      rw [List.forall₂_and_left]
      refine ⟨fun f hf => hf, ?_⟩
      rwa [← List.forall₂_eq_eq_eq, List.forall₂_map_left_iff, List.forall₂_map_right_iff] at hlines
    exact hmade.imp fun f l ⟨hf, hl⟩ =>
      Source.isAccounted_of_line (htexts m hm f hf) hl hf c.enumsModule.display _

/-- A model of an invoice: a scalar and an enum that nobody knows, and a default by a function. -/
def invoice : Datamodel :=
  { enums := [{ name := "State", values := [], documentation := .null, storageName := .null }]
    models := [{
      name := "Invoice"
      fields := [Source.requiredField "amount" .scalar "Money",
        { Source.requiredField "mode" .enum "Mode" with
          hasDefault := true, default := .value (.list []) },
        Source.requiredField "state" .enum "State",
        { Source.requiredField "createdAt" .scalar "DateTime" with
          hasDefault := true, default := .function (.text "now") [] }]
      documentation := .null, storageName := .null }] }

theorem invoice_log :
    ∃ files, (generate .defaults invoice).result = .ok files ∧
      (generate .defaults invoice).log = [
        ⟨.debug, .renderer, "Field amount has unknown scalar type 'Money', using Any"⟩,
        ⟨.debug, .renderer, "Field mode references unknown enum 'Mode', using the bare name"⟩,
        ⟨.debug, .renderer,
          "Field mode has a default that is not a Python literal, dropping it"⟩,
        ⟨.debug, .renderer,
          "Field createdAt has a default that is not a Python literal, dropping it"⟩] := by
  have htyped : invoice.IsTyped := by
    refine ⟨fun e he => ?_, fun m hm => ?_⟩
    · obtain rfl := List.mem_singleton.mp he
      exact .inl rfl
    · obtain rfl := List.mem_singleton.mp hm
      refine ⟨?_, .inl rfl⟩
      simp only [List.forall_mem_cons]
      exact ⟨⟨⟨_, rfl⟩, .inl rfl⟩, ⟨⟨_, rfl⟩, .inl rfl⟩, ⟨⟨_, rfl⟩, .inl rfl⟩,
        ⟨⟨_, rfl⟩, .inl rfl⟩, List.forall_mem_nil _⟩
  have hok : (generate .defaults invoice).result.isOk = true := by decide +kernel
  cases h : (generate .defaults invoice).result with
  | error f =>
    rw [h] at hok
    cases hok
  | ok files =>
    refine ⟨files, rfl, ?_⟩
    rw [(generate_log htyped h).1]
    decide +kernel

end Package

end ModelBindings
