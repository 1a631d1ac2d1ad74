import ModelBindings.Proofs.Package.Closed
import ModelBindings.Proofs.Source.Stop

/-!
# Whether a package keeps what was made for it

The modules of models are refused where their name is taken. The module of the enums is not: where
it has the name of the package's own module, its text is replaced.

* `generate_stops` : a package is refused for a name that is taken or for an overlong integer.
* `KeepsAll` : all that was made for a package is in it, under names of its own.
* `generate_keepsAll_iff` : a package keeps all, unless its enums have the package's own module.
* `enums_replaced` : there the text of the enums is lost.
-/

set_option autoImplicit false

namespace ModelBindings.Package

variable {c : Settings} {d : Datamodel} {names : List Text} {files : Files} {f : Fault}

/-! ## Refusals -/

/-- Why the module of a model is refused: its name is taken, or it shows an overlong integer. -/
def RefusedFor (m : Model) (f : Fault) : Prop :=
  f = .package (.nameTaken m.name (snakeCase m.name ++ ".py")) ∨
    f = .value .tooManyDigits ∧ ∃ k ∈ m.fields, k.IsOverlong

theorem addModel_stops {m : Model} (hm : m.IsTyped)
    (h : (addModel c names files m).result = .error f) : RefusedFor m f := by
  unfold addModel at h
  dsimp only at h
  split at h
  · cases h
    exact .inl rfl
  · rcases Traced.result_bind_eq_error.mp h with h | ⟨text, -, h⟩
    · exact .inr (Source.modelFile_stops hm h)
    · cases h

theorem addModels_stops {ms : List Model} (hms : ∀ m ∈ ms, m.IsTyped)
    (h : (addModels c names files ms).result = .error f) : ∃ m ∈ ms, RefusedFor m f := by
  induction ms generalizing files with
  | nil => cases h
  | cons m r ih =>
    rcases Traced.result_bind_eq_error.mp h with h | ⟨files', -, h⟩
    · exact ⟨m, List.mem_cons_self, addModel_stops (hms m List.mem_cons_self) h⟩
    · obtain ⟨n, hn, hf⟩ := ih (fun n hn => hms n (List.mem_cons_of_mem m hn)) h
      exact ⟨n, List.mem_cons_of_mem m hn, hf⟩

/-- Nothing stops the module of the enums. -/
theorem enumFiles_ok (hd : d.IsTyped) : ∃ files, enumFiles c d.enums = .ok files := by
  obtain ⟨text, ht⟩ := Source.enumsFile_ok hd.enums
  unfold enumFiles
  rw [ht]
  split
  · exact ⟨_, rfl⟩
  · exact ⟨_, rfl⟩

/-- A package is refused while its models are added: the module of the enums is made by then, and
nothing is refused behind them. -/
theorem addModels_of_generate_error (hd : d.IsTyped) (h : (generate c d).result = .error f) :
    ∃ enums, enumFiles c d.enums = .ok enums ∧
      (addModels c d.enumNames enums d.models).result = .error f := by
  obtain ⟨enums, he⟩ : ∃ enums, enumFiles c d.enums = .ok enums := enumFiles_ok hd
  rcases Traced.result_bind_eq_error.mp h with hstop | ⟨enums', he', h⟩
  · have hstop : enumFiles c d.enums = .error f := hstop
    rw [he] at hstop
    cases hstop
  · rcases Traced.result_bind_eq_error.mp h with h | ⟨modules, -, h⟩
    · exact ⟨enums', he', h⟩
    · cases h

/-- **A package is refused for one of its models only.** -/
theorem generate_stops (hd : d.IsTyped) (h : (generate c d).result = .error f) :
    ∃ m ∈ d.models, RefusedFor m f := by
  obtain ⟨enums, -, h⟩ := addModels_of_generate_error hd h
  exact addModels_stops hd.models h

/-! ## What is kept -/

/-- All that was made for a package is in it, under names that are pairwise different. -/
structure KeepsAll (c : Settings) (d : Datamodel) (files : Files) : Prop where
  distinct : ((if d.enums.isEmpty then [] else [c.enumsModule.display ++ ".py"])
    ++ d.models.map (fun m => snakeCase m.name ++ ".py") ++ [("__init__.py" : Text)]).Nodup
  enums : d.enums ≠ [] → ∃ text, Source.enumsFile d.enums = .ok text ∧
    Association.get? (c.enumsModule.display ++ ".py") files = some (header c ++ text)
  models : ∀ m ∈ d.models, ∃ text,
    (Source.modelFile d.enumNames c.enumsModule m).result = .ok text ∧
      Association.get? (snakeCase m.name ++ ".py") files = some (header c ++ text)
  init : Association.get? ("__init__.py" : Text) files
    = some (header c ++ Source.packageInit d.enumNames c.enumsModule (d.models.map moduleEntry))

theorem fileName_initModule : fileName initModule = "__init__.py" :=
  rfl

theorem keepsAll_of_holds (hnodup : (Association.keys files).Nodup) (h : Holds c d files) :
    KeepsAll c d files := by
  refine ⟨?_, h.enums, fun m hm => (h.models m hm).2, ?_⟩
  · rw [h.keys_eq, allKeys, fileName_initModule] at hnodup
    exact hnodup.of_append_left
  · rw [← fileName_initModule]
    exact h.init

/-- **A package keeps all that was made for it, unless its enums have the package's own module.** -/
theorem generate_keepsAll_iff (hd : d.IsTyped) :
    match (generate c d).result with
    | .error f => ∃ m ∈ d.models, f = .package (.nameTaken m.name (snakeCase m.name ++ ".py")) ∨
        f = .value .tooManyDigits ∧ ∃ k ∈ m.fields, k.IsOverlong
    | .ok files => KeepsAll c d files ↔ ¬ (d.enums ≠ [] ∧ c.enumsModule.display = "__init__") := by
  cases h : (generate c d).result with
  | error f => exact generate_stops hd h
  | ok files =>
    refine ⟨fun hkeeps ⟨hne, hinit⟩ => ?_, fun hapart => ?_⟩
    · -- the names of the two modules are the same
      have hnodup := hkeeps.distinct
      rw [if_neg (by simpa using hne), hinit, show ("__init__" : Text) ++ ".py" = "__init__.py" from
        fileName_initModule] at hnodup
      simp at hnodup
    · exact keepsAll_of_holds (nodup_keys_generate h)
        (holds_of_apart (fun hne hinit => hapart ⟨hne, hinit⟩) h)

theorem accounts_keepsAll :
    ∃ files, (generate .defaults accounts).result = .ok files ∧
      KeepsAll .defaults accounts files := by
  have htyped : accounts.IsTyped := by
    refine ⟨fun e he => ?_, fun m hm => ?_⟩
    · obtain rfl := List.mem_singleton.mp he
      exact .inl rfl
    · obtain rfl := List.mem_singleton.mp hm
      refine ⟨fun k hk => ?_, .inl rfl⟩
      obtain rfl := List.mem_singleton.mp hk
      exact ⟨⟨_, rfl⟩, .inl rfl⟩
  have hkeeps := generate_keepsAll_iff (c := .defaults) htyped
  have hok : (generate .defaults accounts).result.isOk = true := by decide +kernel
  cases h : (generate .defaults accounts).result with
  | error f =>
    rw [h] at hok
    cases hok
  | ok files =>
    rw [h] at hkeeps
    exact ⟨files, rfl, hkeeps.mpr fun hinit => absurd hinit.2 (by decide)⟩

/-- Where the enums have the package's own module, no file holds their text. -/
theorem enums_replaced :
    let c := { Settings.defaults with enumsModule := .text "__init__" }
    let d := { accounts with models := [] }
    ∃ text, Source.enumsFile d.enums = .ok text ∧
      (generate c d).result = .ok [("__init__.py", initText c d), ("py.typed", "")] ∧
      initText c d ≠ header c ++ text := by
  exact ⟨_, rfl, rfl, by decide +kernel⟩

end ModelBindings.Package
