import ModelBindings.Package
import ModelBindings.Proofs.Association
import ModelBindings.Proofs.Outcome

/-!
# The files of a package

* `IsFile` : what a file of a package can be; `isFile_of_mem_generate` says that it is.
* `generate_keeps` : an invariant of packages, from what each file that is put keeps.
* `generate_keys` : the names of the files in order.
* `holds_of_apart`, `generate_holds` : each file can be asked for by its name.
* `nodup_keys_generate` : the names of the files are pairwise different.
-/

set_option autoImplicit false

namespace ModelBindings

namespace Package

variable {c : Settings} {d : Datamodel} {names : List Text} {files files' : Files}

/-- What a file of a package can be. -/
inductive IsFile (c : Settings) (d : Datamodel) : Text × Text → Prop where
  | enums {text : Text} (hne : d.enums ≠ []) (h : Source.enumsFile d.enums = .ok text) :
    IsFile c d (fileName c.enumsModule.display, header c ++ text)
  | model {m : Model} {text : Text} (hm : m ∈ d.models)
    (h : (Source.modelFile d.enumNames c.enumsModule m).result = .ok text) :
    IsFile c d (fileName (moduleName m), header c ++ text)
  | init : IsFile c d (fileName initModule, initText c d)
  | marker : IsFile c d (markerName, "")

theorem enumFiles_eq {enums : List Enum} (h : enumFiles c enums = .ok files) :
    enums = [] ∧ files = [] ∨
      enums ≠ [] ∧ ∃ text, Source.enumsFile enums = .ok text ∧
        files = [(fileName c.enumsModule.display, header c ++ text)] := by
  unfold enumFiles at h
  split at h
  · rename_i he
    cases h
    exact .inl ⟨by simpa using he, rfl⟩
  · rename_i he
    split at h
    · cases h
    · rename_i text ht
      cases h
      exact .inr ⟨by simpa using he, text, ht, rfl⟩

/-- The module of one more model takes a name that is free. -/
theorem addModel_eq {m : Model} (h : (addModel c names files m).result = .ok files') :
    fileName (moduleName m) ∉ Association.keys files ∧ moduleName m ≠ initModule ∧
      ∃ text, (Source.modelFile names c.enumsModule m).result = .ok text ∧
        files' = Association.put (fileName (moduleName m)) (header c ++ text) files := by
  unfold addModel at h
  dsimp only at h
  split at h
  · cases h
  · rename_i hfree
    simp only [Bool.or_eq_true, List.contains_iff_mem, beq_iff_eq, not_or] at hfree
    obtain ⟨text, ht, he⟩ := Traced.result_bind_eq_ok.mp h
    cases he
    exact ⟨hfree.1, hfree.2, text, ht, rfl⟩

/-- The modules of models come behind the files that are there, one for each model. -/
theorem addModels_spec {ms : List Model} (h : (addModels c names files ms).result = .ok files') :
    Association.keys files' = Association.keys files ++ ms.map (fileName <| moduleName ·) ∧
      (∀ k v, Association.get? k files = some v → Association.get? k files' = some v) ∧
      ∀ m ∈ ms, fileName (moduleName m) ∉ Association.keys files ∧ moduleName m ≠ initModule ∧
        ∃ text, (Source.modelFile names c.enumsModule m).result = .ok text ∧
          Association.get? (fileName (moduleName m)) files' = some (header c ++ text) := by
  induction ms generalizing files with
  | nil =>
    cases h
    simp
  | cons m r ih =>
    obtain ⟨mid, hm, hr⟩ := Traced.result_bind_eq_ok.mp h
    obtain ⟨hfree, hinit, text, ht, rfl⟩ := addModel_eq hm
    obtain ⟨hkeys, hkept, hnew⟩ := ih hr
    have hput := Association.keys_put_of_not_mem hfree (header c ++ text)
    refine ⟨by rw [hkeys, hput]; simp, fun k v hk => hkept k v ?_, fun n hn => ?_⟩
    · exact Association.get?_put_of_not_mem hfree _ hk
    · rcases List.mem_cons.mp hn with rfl | hn
      · refine ⟨hfree, hinit, text, ht, hkept _ _ ?_⟩
        rw [Association.get?_put, if_pos rfl]
      · obtain ⟨hf, hi, t⟩ := hnew n hn
        rw [hput, List.mem_append, not_or] at hf
        exact ⟨hf.1, hi, t⟩

/-- What every module that is added keeps, all of them keep. -/
theorem addModels_keeps {P : Files → Prop} {ms : List Model}
    (hput : ∀ m ∈ ms, ∀ text, (Source.modelFile names c.enumsModule m).result = .ok text →
      ∀ files, P files → P (Association.put (fileName (moduleName m)) (header c ++ text) files))
    (hf : P files) (h : (addModels c names files ms).result = .ok files') : P files' := by
  induction ms generalizing files with
  | nil =>
    cases h
    exact hf
  | cons m r ih =>
    obtain ⟨mid, hm, hr⟩ := Traced.result_bind_eq_ok.mp h
    obtain ⟨-, -, text, ht, rfl⟩ := addModel_eq hm
    exact ih (fun n hn => hput n (List.mem_cons_of_mem m hn))
      (hput m List.mem_cons_self text ht files hf) hr

/-- **A package is made by putting files of the four kinds one after another.** -/
theorem generate_keeps {P : Files → Prop} (hnil : P [])
    (hput : ∀ k v, IsFile c d (k, v) → ∀ files, P files → P (Association.put k v files))
    (h : (generate c d).result = .ok files) : P files := by
  obtain ⟨enums, he, h⟩ := Traced.result_bind_eq_ok.mp h
  obtain ⟨modules, hm, h⟩ := Traced.result_bind_eq_ok.mp h
  have henums : P enums := by
    rcases enumFiles_eq he with ⟨-, rfl⟩ | ⟨hne, text, ht, rfl⟩
    · exact hnil
    · exact hput _ _ (.enums hne ht) [] hnil
  have hmodules : P modules :=
    addModels_keeps (fun m hmm text ht => hput _ _ (.model hmm ht)) henums hm
  have hinit := hput _ _ .init modules hmodules
  cases h
  unfold close
  dsimp only
  split
  · exact hput _ _ .marker _ hinit
  · exact hinit

/-- **A file of a package is one of the four kinds.** -/
theorem isFile_of_mem_generate (h : (generate c d).result = .ok files) :
    ∀ f ∈ files, IsFile c d f := by
  refine generate_keeps (P := fun files => ∀ f ∈ files, IsFile c d f) (fun f hf => nomatch hf)
    (fun k v hkv files hfiles f hf => ?_) h
  rcases Association.mem_put hf with rfl | hf
  · exact hkv
  · exact hfiles f hf

/-! ## Names -/

theorem fileName_inj {a b : Text} : fileName a = fileName b ↔ a = b := by
  constructor
  · intro h
    have h := congrArg Text.toList h
    simp only [fileName, Text.toList_append] at h
    exact Text.toList_inj.mp (List.append_cancel_right h)
  · rintro rfl
    rfl

theorem fileName_ne_markerName (a : Text) : fileName a ≠ markerName := by
  intro h
  have hl := congrArg (fun s => s.toList.getLast?) h
  have hmarker : markerName.toList = ("py.typed" : Text).toList := rfl
  simp [fileName, hmarker] at hl

/-- The names of the module of the enums, where there are any. -/
def enumKeys (c : Settings) (d : Datamodel) : List Text :=
  if d.enums.isEmpty then [] else [fileName c.enumsModule.display]

theorem keys_enumFiles (h : enumFiles c d.enums = .ok files) :
    Association.keys files = enumKeys c d := by
  unfold enumKeys
  rcases enumFiles_eq h with ⟨hn, rfl⟩ | ⟨hne, text, -, rfl⟩
  · rw [hn]
    rfl
  · rw [if_neg (by simpa using hne)]
    rfl

theorem mem_keys_enumFiles (h : enumFiles c d.enums = .ok files) {k : Text} :
    k ∈ Association.keys files ↔ d.enums ≠ [] ∧ k = fileName c.enumsModule.display := by
  rw [keys_enumFiles h, enumKeys]
  split
  · rename_i hnone
    simp [show d.enums = [] by simpa using hnone]
  · rename_i hne
    simp [show d.enums ≠ [] by simpa using hne]

/-- No module of an enum or a model has the name of the marker. -/
theorem markerName_not_mem_addModels {ms : List Model} (he : enumFiles c d.enums = .ok files)
    (hm : (addModels c names files ms).result = .ok files') :
    markerName ∉ Association.keys files' := by
  rw [(addModels_spec hm).1, List.mem_append, mem_keys_enumFiles he]
  rintro (⟨-, h⟩ | h)
  · exact fileName_ne_markerName _ h.symm
  · obtain ⟨m, -, e⟩ := List.mem_map.mp h
    exact fileName_ne_markerName _ e

/-- The names of the files in order. -/
def allKeys (c : Settings) (d : Datamodel) : List Text :=
  enumKeys c d ++ d.models.map (fileName <| moduleName ·) ++ [fileName initModule]
    ++ if c.writeMarker.isTruthy then [markerName] else []

/-- What a package holds, name by name. -/
structure Holds (c : Settings) (d : Datamodel) (files : Files) : Prop where
  keys_eq : Association.keys files = allKeys c d
  enums : d.enums ≠ [] → ∃ text, Source.enumsFile d.enums = .ok text ∧
    Association.get? (fileName c.enumsModule.display) files = some (header c ++ text)
  /-- No model has the module of the enums. -/
  apart : d.enums ≠ [] → ∀ m ∈ d.models, moduleName m ≠ c.enumsModule.display
  models : ∀ m ∈ d.models, moduleName m ≠ initModule ∧
    ∃ text, (Source.modelFile d.enumNames c.enumsModule m).result = .ok text ∧
      Association.get? (fileName (moduleName m)) files = some (header c ++ text)
  init : Association.get? (fileName initModule) files = some (initText c d)

/-- The package's own module and the marker come last, and nothing else changes. -/
theorem close_spec (hi : fileName initModule ∉ Association.keys files)
    (hm : markerName ∉ Association.keys files) :
    Association.keys (close c d files) = Association.keys files ++ [fileName initModule]
        ++ (if c.writeMarker.isTruthy then [markerName] else []) ∧
      (∀ k v, Association.get? k files = some v → Association.get? k (close c d files) = some v) ∧
      Association.get? (fileName initModule) (close c d files) = some (initText c d) := by
  have hput := Association.keys_put_of_not_mem hi (initText c d)
  have hkept : ∀ k v, Association.get? k files = some v →
      Association.get? k (Association.put (fileName initModule) (initText c d) files) = some v :=
    fun k v hk => Association.get?_put_of_not_mem hi _ hk
  unfold close
  dsimp only
  split
  · have hm' : markerName ∉
        Association.keys (Association.put (fileName initModule) (initText c d) files) := by
      rw [hput, List.mem_append, List.mem_singleton, not_or]
      exact ⟨hm, (fileName_ne_markerName _).symm⟩
    refine ⟨by rw [Association.keys_put_of_not_mem hm', hput], fun k v hk => ?_, ?_⟩
    · exact Association.get?_put_of_not_mem hm' _ (hkept k v hk)
    · rw [Association.get?_put, if_neg (fileName_ne_markerName _), Association.get?_put, if_pos rfl]
  · refine ⟨by rw [hput, List.append_nil], hkept, ?_⟩
    rw [Association.get?_put, if_pos rfl]

/-- **What a package holds, unless its enums share the package's own module.** -/
theorem holds_of_apart (hne : d.enums ≠ [] → c.enumsModule.display ≠ initModule)
    (h : (generate c d).result = .ok files) : Holds c d files := by
  obtain ⟨enums, he, h⟩ := Traced.result_bind_eq_ok.mp h
  obtain ⟨modules, hm, h⟩ := Traced.result_bind_eq_ok.mp h
  obtain ⟨hkeys, hkept, hnew⟩ := addModels_spec hm
  have hek : Association.keys enums = enumKeys c d := keys_enumFiles he
  have hinit : fileName initModule ∉ Association.keys modules := by
    rw [hkeys, hek, List.mem_append, not_or]
    constructor
    · unfold enumKeys
      split
      · simp
      · rename_i hd
        rw [List.mem_singleton, fileName_inj]
        exact Ne.symm (hne (by simpa using hd))
    · intro hin
      obtain ⟨m, hmm, e⟩ := List.mem_map.mp hin
      exact (hnew m hmm).2.1 (fileName_inj.mp e)
  have hmarker : markerName ∉ Association.keys modules := markerName_not_mem_addModels he hm
  obtain ⟨hck, hcg, hci⟩ := close_spec (c := c) (d := d) hinit hmarker
  cases h
  refine ⟨by rw [hck, hkeys, hek]; rfl, fun hd => ?_, fun hd m hmm => ?_, fun m hmm => ?_, hci⟩
  · rcases enumFiles_eq he with ⟨hn, -⟩ | ⟨-, text, ht, rfl⟩
    · exact absurd hn hd
    · exact ⟨text, ht, hcg _ _ (hkept _ _ (by simp [Association.get?]))⟩
  · have hfree := (hnew m hmm).1
    rw [hek, enumKeys, if_neg (by simpa using hd), List.mem_singleton, fileName_inj] at hfree
    exact hfree
  · obtain ⟨-, hi, text, ht, hg⟩ := hnew m hmm
    exact ⟨hi, text, ht, hcg _ _ hg⟩

theorem generate_holds (hne : c.enumsModule.display ≠ initModule)
    (h : (generate c d).result = .ok files) : Holds c d files :=
  holds_of_apart (fun _ => hne) h

theorem nodup_keys_addModels {ms : List Model} (hf : (Association.keys files).Nodup)
    (h : (addModels c names files ms).result = .ok files') : (Association.keys files').Nodup :=
  addModels_keeps (P := fun files => (Association.keys files).Nodup)
    (fun _ _ _ _ _ hfiles => Association.nodup_keys_put hfiles _ _) hf h

/-- **The files of a package have different names.** -/
theorem nodup_keys_generate (h : (generate c d).result = .ok files) :
    (Association.keys files).Nodup :=
  generate_keeps (P := fun files => (Association.keys files).Nodup) List.nodup_nil
    (fun _ _ _ _ hfiles => Association.nodup_keys_put hfiles _ _) h

end Package

end ModelBindings
