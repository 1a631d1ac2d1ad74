import ModelBindings.Proofs.CommandLine.EntryPoints
import ModelBindings.Proofs.CommandLine.Flags
import ModelBindings.Proofs.Package.Commit
import ModelBindings.Proofs.Service.Run

/-!
# Nothing is written unasked

A package is written only where the settings enable it. The service takes this from its
surroundings alone and the command from its flags and its surroundings, whatever a request or a
configuration file says.

* `Package.write_disabled`, `Package.write_ne_nil` : what writing returns where it is not enabled,
  and where it is.
* `Service.tree_handle`, `CommandLine.tree_run` : one request, and one run of the command.
* `disabled_writes_nothing` : all of these, for whole runs.
-/

set_option autoImplicit false

namespace ModelBindings

/-! ## Packages -/

namespace Package

variable {c : Settings} {d : Datamodel} {output : Value} {t : FileTree} {paths : List Path}

theorem write_disabled (h : c.enabled.isTruthy = false) (d : Datamodel) (output : Value)
    (t : FileTree) : write c d output t = Outcome.after [disabledRecord] (.ok t []) := by
  rw [write, if_neg (by simp [h])]

theorem writeFiles_ne_nil {validate : Bool} {out : Path} {files : Files} (hfiles : files ≠ [])
    (h : (writeFiles validate out t files).result = .ok paths) : paths ≠ [] := by
  cases files with
  | nil => exact absurd rfl hfiles
  | cons f r =>
    obtain ⟨name, text⟩ := f
    unfold writeFiles behindFile at h
    dsimp only at h
    split at h
    · cases h
    · obtain ⟨rest, -, hpaths⟩ := Outcome.result_bind_eq_ok.mp h
      cases hpaths
      exact List.cons_ne_nil _ _

theorem write_ne_nil (henabled : c.enabled.isTruthy = true)
    (h : (write c d output t).result = .ok paths) : paths ≠ [] := by
  rw [write, if_pos henabled] at h
  split at h
  · cases h
  · rw [writeInto] at h
    split at h
    · cases h
    · obtain ⟨files, hgenerate, h⟩ := Outcome.result_bind_eq_ok.mp h
      obtain ⟨written, hwritten, h⟩ := Outcome.result_bind_eq_ok.mp h
      cases h
      exact writeFiles_ne_nil (ne_nil_of_generate hgenerate) hwritten

end Package

/-! ## The service -/

namespace Service

variable {env : Environment} {t : FileTree} {params : Value} {order : Order}

/-- The surroundings alone say whether a request has anything written. -/
theorem enabled_readOrder {enabled : Bool} (henv : isEnabled env = .ok enabled)
    (h : readOrder env params = .ok order) : order.settings.enabled = .bool enabled := by
  obtain ⟨generator, -, h⟩ := bind_eq_ok.mp h
  obtain ⟨settings, hsettings, h⟩ := bind_eq_ok.mp h
  obtain ⟨document, -, h⟩ := bind_eq_ok.mp h
  cases h
  obtain ⟨options, -, hsettings⟩ := bind_eq_ok.mp hsettings
  obtain ⟨read, -, hsettings⟩ := bind_eq_ok.mp hsettings
  obtain ⟨enabled', henabled, hsettings⟩ := bind_eq_ok.mp hsettings
  obtain ⟨output, -, hsettings⟩ := bind_eq_ok.mp hsettings
  obtain ⟨directory, -, hsettings⟩ := bind_eq_ok.mp hsettings
  cases hsettings
  cases henabled.symm.trans henv
  rfl

theorem tree_generate (henv : isEnabled env = .ok false) (t : FileTree) (params : Value) :
    (generate env t params).tree = t := by
  unfold generate
  split
  · rfl
  · rename_i order horder
    have henabled : order.settings.enabled.isTruthy = false := by
      rw [enabled_readOrder henv horder]
      rfl
    refine Outcome.tree_bind_of_tree_eq fun t d => ?_
    rw [Package.write_disabled henabled]
    rfl

theorem tree_handle (henv : isEnabled env = .ok false) (t : FileTree) (request : Value) :
    (handle env t request).tree = t := by
  unfold handle
  split
  · unfold answerMethod
    dsimp only
    split
    · rfl
    · split
      · rw [tree_answerRun, tree_generate henv]
      · rfl
  · rfl

theorem treeAfter_disabled (henv : isEnabled env = .ok false) (t : FileTree)
    (requests : List Value) : treeAfter env t requests = t := by
  induction requests with
  | nil => rfl
  | cons v r ih =>
    show treeAfter env (handle env t v).tree r = t
    rw [tree_handle henv, ih]

end Service

/-! ## The command -/

namespace CommandLine

theorem tree_failed (t : FileTree) (log : List Record) (output : Text) (f : Fault) :
    (failed t log output f).tree = t := by
  unfold failed
  split <;> rfl

theorem tree_stopped (t : FileTree) (s : Stop) : (stopped t s).tree = t := by
  cases s with
  | usage f => rfl
  | fault f => exact tree_failed t [] "" f

theorem tree_invocation {i : Invocation} (hi : i.enabled = false) (t : FileTree) :
    (i.run t).tree = t := by
  unfold Invocation.run
  split
  · exact tree_failed t [] "" _
  · rename_i c hc
    have henabled : c.enabled.isTruthy = false := by
      obtain ⟨c', -, rfl⟩ := map_eq_ok.mp hc
      exact hi
    rw [(finished_tree _ _).1]
    refine Outcome.tree_bind_of_tree_eq fun t d => ?_
    rw [Package.write_disabled henabled]
    rfl

theorem tree_run {setting : Option Text} {args : List Text} (hargs : ("--enable" : Text) ∉ args)
    (hdisable : ("--disable" : Text) ∈ standing args ∨ setting = none) (t : FileTree) :
    (run setting t args).tree = t := by
  rw [(run_eq setting t args).1]
  unfold answer
  split
  · exact tree_stopped t _
  · rename_i a ha
    split
    · rfl
    · split
      · exact tree_stopped t _
      · rename_i i hi
        exact tree_invocation (enabled_invocation (disabled_of_args ha hargs hdisable) hi) t

end CommandLine

/-! ## Both -/

/-- **Nothing is written unasked**: a package that is not enabled is not written, the service writes
nothing where its surroundings do not ask for it, and the command writes nothing without a flag that
asks for it where another flag or the surroundings do not. A package that is enabled has files. -/
theorem disabled_writes_nothing (t : FileTree) :
    (∀ c d output, c.enabled.isTruthy = false →
      (Package.write c d output t).result = .ok [] ∧ (Package.write c d output t).tree = t) ∧
    (∀ env input, Service.isEnabled env = .ok false → (Service.serve env t input).tree = t) ∧
    (∀ setting args, ("--enable" : Text) ∉ args →
      (("--disable" : Text) ∈ CommandLine.standing args ∨ setting = none) →
      (CommandLine.run setting t args).tree = t) ∧
    (∀ c d output paths, c.enabled.isTruthy = true →
      (Package.write c d output t).result = .ok paths → paths ≠ []) := by
  refine ⟨?_, ?_, ?_, ?_⟩
  · intro c d output h
    rw [Package.write_disabled h]
    exact ⟨rfl, rfl⟩
  · intro env input h
    rw [Service.serve_tree, Service.treeAfter_disabled h]
  · intro setting args hargs hdisable
    exact CommandLine.tree_run hargs hdisable t
  · intro c d output paths henabled h
    exact Package.write_ne_nil henabled h

/-- A configuration file that enables packages, beside a document. -/
def enablingTree : FileTree :=
  rolesTree.put ((Location.root.child "work").child "s.json")
    (.file (.text "\x7b\"enabled\": true\x7d"))

/-- A request for the package of this document whose options enable it. -/
def enablingRequest : Value :=
  .object [("id", .int 1), ("method", .text "generate"), ("params", .object [
    ("dmmf", rolesDocument), ("generator", .object [
      ("output", .object [("value", .text "out")]),
      ("config", .object [("enabled", .text "true")])])])]

/-- Arguments that take the configuration file and the document. -/
def enablingArguments : List Text := ["-c", "s.json", "d.json", "out"]

/-- The surroundings count for more than the options of a request, and the flag that disables for
more than a configuration file and the surroundings. Where these agree, the same request and the
same arguments make the directory of the package. -/
theorem accounts_not_written :
    let t := enablingTree
    let out := (Location.root.child "work").child "out"
    (Package.write Settings.defaults roles (.text "out") t).tree = t ∧
    (Service.serve (Service.environmentOf none) t (Json.write enablingRequest ++ "\n")).tree = t ∧
    (Service.handle (Service.environmentOf (some "true")) t enablingRequest).tree.isDirectory out
      = true ∧
    (CommandLine.run (some "true") t (enablingArguments ++ [("--disable" : Text)])).tree = t ∧
    (CommandLine.run (some "true") t enablingArguments).tree.isDirectory out = true ∧
    ∃ paths, (Package.write Package.writing roles (.text "out") t).result = .ok paths ∧
      paths ≠ [] := by
  intro t out
  obtain ⟨hpackage, hservice, hcommand, hfiles⟩ := disabled_writes_nothing t
  have hok : (Package.write Package.writing roles (.text "out") t).result.isOk = true := by
    decide +kernel
  refine ⟨(hpackage _ _ _ rfl).2, hservice _ _ rfl, by decide +kernel, ?_, by decide +kernel, ?_⟩
  · exact hcommand _ _ (by decide) (.inl (by decide))
  · cases hresult : (Package.write Package.writing roles (.text "out") t).result with
    | error f =>
      rw [hresult] at hok
      cases hok
    | ok paths => exact ⟨paths, rfl, hfiles _ _ _ paths rfl hresult⟩

end ModelBindings
