import ModelBindings.Proofs.FileTree.Overwrite
import ModelBindings.Proofs.Package.Closed
import ModelBindings.Proofs.Package.FileName
import ModelBindings.Proofs.Package.Write
import ModelBindings.Proofs.Path

/-!
# Writing commits a prefix of the files

The files of a package are written one after another, each to a place of its own. Where the run
stops, the files before are written and those behind are not.

* `targets` : files by the places that they are written to.
* `writeFiles_commits` : a run over files commits all of them, or a prefix.
* `write_commits` : writing a package does so, and makes directories on the way only.
-/

set_option autoImplicit false

namespace ModelBindings

theorem IsPlainName.placeOf_join {s : Text} (h : IsPlainName s) (out : Path) (t : FileTree) :
    t.placeOf (out.join (.ofString s)) = (t.placeOf out).child s := by
  rw [h.join_eq, FileTree.placeOf, Location.walk_append]
  show Location.step _ s = _
  rw [Location.step, if_neg h.ne_self, if_neg h.ne_above]
  rfl

namespace Package

open FileTree (Overwritten)

variable {c : Settings} {d : Datamodel} {out : Path} {files : Files} {t : FileTree}

/-! ## Files one after another -/

/-- Files by the places that they are written to. -/
def targets (t : FileTree) (out : Path) (files : Files) : List (Location × Text) :=
  files.map fun f => (t.placeOf (out.join (.ofString f.1)), f.2)

theorem targets_of_current {t' : FileTree} (h : t'.current = t.current) (out : Path)
    (files : Files) : targets t' out files = targets t out files := by
  unfold targets
  simp only [FileTree.placeOf, FileTree.startOf, h]

/-- Files with different names have different places. -/
theorem targets_apart {f : Text × Text} {fs : Files} (hf : IsPlainName f.1)
    (hfs : ∀ g ∈ fs, IsPlainName g.1) (hne : f.1 ∉ Association.keys fs) (t : FileTree)
    (out : Path) : ∀ w ∈ targets t out [f], ∀ v ∈ targets t out fs, v.1 ≠ w.1 := by
  intro w hw v hv he
  obtain rfl := List.mem_singleton.mp hw
  obtain ⟨g, hg, rfl⟩ := List.mem_map.mp hv
  dsimp only at he
  rw [hf.placeOf_join, (hfs g hg).placeOf_join, Location.child_inj] at he
  exact hne (he ▸ List.mem_map_of_mem hg)

/-- A run over files comes to its end with all of them written, or stops with a prefix written; it
makes no other changes but directories on the way. -/
def Commits (out : Path) (files : Files) (t : FileTree) (x : Outcome (List Path)) : Prop :=
  match x.result with
  | .ok paths => paths = files.map (fun f => out.join (.ofString f.1)) ∧
      Overwritten (t.IsOnWay out) (targets t out files) t x.tree
  | .error _ => ∃ k < files.length,
      Overwritten (t.IsOnWay out) (targets t out (files.take k)) t x.tree

theorem isOnWay_of_current {t' : FileTree} (h : t'.current = t.current) (out : Path) :
    t'.IsOnWay out = t.IsOnWay out := by
  unfold FileTree.IsOnWay FileTree.startOf
  rw [h]

/-- One file, and the run behind it. -/
theorem commits_behindFile {f : Text × Text} {r : Files} {t' : FileTree}
    (hf : IsPlainName f.1) (hr : ∀ g ∈ r, IsPlainName g.1) (hne : f.1 ∉ Association.keys r)
    (hfile : Overwritten (t.IsOnWay out) (targets t out [f]) t t')
    {rest : FileTree → Outcome (List Path)} (hrest : Commits out r t' (rest t')) :
    Commits out (f :: r) t (behindFile (out.join (.ofString f.1)) (t', .ok ()) rest) := by
  have happly := targets_apart hf hr hne t out
  unfold Commits at hrest
  rw [isOnWay_of_current hfile.current_eq] at hrest
  simp only [targets_of_current hfile.current_eq] at hrest
  unfold Commits behindFile Outcome.after Outcome.bind
  dsimp only
  cases hresult : (rest t').result with
  | ok paths =>
    rw [hresult] at hrest
    obtain ⟨rfl, htail⟩ := hrest
    exact ⟨rfl, hfile.trans htail happly⟩
  | error e =>
    rw [hresult] at hrest
    obtain ⟨k, hk, htail⟩ := hrest
    refine ⟨k + 1, Nat.succ_lt_succ hk, hfile.trans htail fun w hw v hv => happly w hw v ?_⟩
    exact List.map_subset _ (List.take_subset k r) hv

/-- **Files are written one after another, and a run that stops has written a prefix.** -/
theorem writeFiles_commits (validate : Bool) (out : Path) (t : FileTree)
    (hnames : ∀ f ∈ files, IsPlainName f.1) (hkeys : (Association.keys files).Nodup) :
    Commits out files t (writeFiles validate out t files) := by
  induction files generalizing t with
  | nil => exact ⟨rfl, (FileTree.GrownBy.refl _ t).overwritten⟩
  | cons f r ih =>
    have hname : IsPlainName f.1 := hnames f List.mem_cons_self
    have hrest : ∀ g ∈ r, IsPlainName g.1 := fun g hg => hnames g (List.mem_cons_of_mem f hg)
    have hfresh : f.1 ∉ Association.keys r := (List.nodup_cons.mp hkeys).1
    have hkeys : (Association.keys r).Nodup := (List.nodup_cons.mp hkeys).2
    have hfile := FileTree.overwritten_writeAtomically t (out.join (.ofString f.1)) f.2 validate
    rw [hname.parent_join] at hfile
    rw [writeFiles_cons]
    generalize t.writeAtomically (out.join (.ofString f.1)) f.2 validate = written at hfile
    obtain ⟨t', _ | _⟩ := written
    · exact ⟨0, Nat.succ_pos _, hfile⟩
    · exact commits_behindFile hname hrest hfresh hfile (ih t' hrest hkeys)

/-! ## Whole packages -/

/-- The name of a source file or of the marker names something in a directory, unless it has a
slash. -/
theorem isPlainName_of_isFileName {s : Text} (h : IsFileName s) (hs : .char '/' ∉ s.toList) :
    IsPlainName s := by
  have hlong : 2 < s.toList.length := by
    rcases h with h | rfl
    · exact Nat.lt_of_lt_of_le (by decide) h.length_le
    · decide
  have hne : ∀ x : Text, x.toList.length ≤ 2 → s ≠ x := by
    rintro x hx rfl
    omega
  exact ⟨hs, hne "" (by decide), hne "." (by decide), hne ".." (by decide)⟩

theorem close_ne_nil (c : Settings) (d : Datamodel) (files : Files) : close c d files ≠ [] := by
  unfold close
  dsimp only
  split
  · exact Association.put_ne_nil _ _ _
  · exact Association.put_ne_nil _ _ _

theorem ne_nil_of_generate (h : (generate c d).result = .ok files) : files ≠ [] := by
  obtain ⟨enums, -, h⟩ := Traced.result_bind_eq_ok.mp h
  obtain ⟨modules, -, h⟩ := Traced.result_bind_eq_ok.mp h
  cases h
  exact close_ne_nil c d modules

/-- More directories on the way are none of the changes that count. -/
theorem Commits.of_grownBy {t' : FileTree} {x : Outcome (List Path)}
    (hg : FileTree.GrownBy (t.IsOnWay out) t t') (h : Commits out files t' x) :
    Commits out files t x := by
  unfold Commits at h ⊢
  rw [isOnWay_of_current hg.current_eq] at h
  simp only [targets_of_current hg.current_eq] at h
  have hnone : ∀ w ∈ ([] : List (Location × Text)), ∀ v ∈ targets t out files, v.1 ≠ w.1 :=
    fun w hw => nomatch hw
  cases hresult : x.result with
  | ok paths =>
    rw [hresult] at h
    exact ⟨h.1, hg.overwritten.trans h.2 hnone⟩
  | error e =>
    rw [hresult] at h
    obtain ⟨k, hk, hprefix⟩ := h
    exact ⟨k, hk, hg.overwritten.trans hprefix fun w hw => nomatch hw⟩

/-- What stands behind the writing of files does not count. -/
theorem Commits.bind_after {x : Outcome (List Path)} (h : Commits out files t x)
    (log : List Record) :
    Commits out files t (x.bind fun t paths => Outcome.after log (.ok t paths)) := by
  unfold Commits Outcome.bind Outcome.after Outcome.ok
  unfold Commits at h
  cases hresult : x.result with
  | ok paths =>
    rw [hresult] at h
    exact h
  | error e =>
    rw [hresult] at h
    exact h

/-- A package whose files can be made is written, or a prefix of it. -/
theorem writeInto_commits (h : (generate c d).result = .ok files) (out : Path) (t : FileTree)
    (hslash : ∀ f ∈ files, .char '/' ∉ f.1.toList) :
    Commits out files t (writeInto c d out t) := by
  have hg := FileTree.makeDirectories_grownBy t out
  have hnames : ∀ f ∈ files, IsPlainName f.1 := fun f hf =>
    isPlainName_of_isFileName (generate_fileName h f hf) (hslash f hf)
  unfold writeInto
  generalize t.makeDirectories out = made at hg
  obtain ⟨t', _ | _⟩ := made
  · exact ⟨0, List.length_pos_iff.mpr (ne_nil_of_generate h), hg.overwritten⟩
  · have hwritten := writeFiles_commits c.validate.isTruthy out t' hnames (nodup_keys_generate h)
    have hall := (hwritten.of_grownBy hg).bind_after [generatedRecord d out]
    dsimp only
    rw [Outcome.bind_of_ok (x := .ofTraced t' (generate c d)) h]
    exact hall

/-- A package whose files cannot be made leaves directories only. -/
theorem writeInto_stops {f : Fault} (h : (generate c d).result = .error f) (out : Path)
    (t : FileTree) : (writeInto c d out t).result.isOk = false ∧
      Overwritten (t.IsOnWay out) [] t (writeInto c d out t).tree := by
  have hg := FileTree.makeDirectories_grownBy t out
  unfold writeInto
  generalize t.makeDirectories out = made at hg
  obtain ⟨t', _ | _⟩ := made
  · exact ⟨rfl, hg.overwritten⟩
  · dsimp only [Outcome.bind, Outcome.ofTraced]
    rw [h]
    exact ⟨rfl, hg.overwritten⟩

/-- **Writing a package commits a prefix of its files and nothing else.** -/
theorem write_commits {c : Settings} (d : Datamodel) {output : Value} (t : FileTree)
    {s : Text} (henabled : c.enabled.isTruthy = true) (hs : s ≠ "")
    (htarget : (if output.isTruthy then output else c.outputDir) = .text s)
    (hslash : ∀ files, (generate c d).result = .ok files → ∀ f ∈ files, .char '/' ∉ f.1.toList) :
    let out := Path.ofString s
    let place (f : Text × Text) := (t.placeOf (out.join (.ofString f.1)), f.2)
    let x := write c d output t
    match x.result with
    | .ok paths => ∃ files, (generate c d).result = .ok files ∧
        paths = files.map (fun f => out.join (.ofString f.1)) ∧
        Overwritten (t.IsOnWay out) (files.map place) t x.tree
    | .error _ =>
      match (generate c d).result with
      | .error _ => Overwritten (t.IsOnWay out) [] t x.tree
      | .ok files => ∃ k < files.length,
          Overwritten (t.IsOnWay out) ((files.take k).map place) t x.tree := by
  intro out place x
  have hx : x = writeInto c d out t := by
    show write c d output t = _
    unfold write
    rw [if_pos henabled, outputDirectory_of_text hs htarget]
  rw [hx]
  clear_value out
  cases hgen : (generate c d).result with
  | ok files =>
    have hcommits := writeInto_commits hgen out t (hslash files hgen)
    unfold Commits at hcommits
    cases hresult : (writeInto c d out t).result with
    | ok paths =>
      rw [hresult] at hcommits
      exact ⟨files, rfl, hcommits⟩
    | error e =>
      rw [hresult] at hcommits
      exact hcommits
  | error f =>
    have hstops := writeInto_stops hgen out t
    cases hresult : (writeInto c d out t).result with
    | ok paths =>
      rw [hresult] at hstops
      cases hstops.1
    | error e => exact hstops.2

/-- The settings that have packages written without a look at their texts. -/
def writing : Settings := { Settings.defaults with enabled := .bool true, validate := .bool false }

theorem accounts_committed :
    ∃ files, (generate writing accounts).result = .ok files ∧
      Overwritten ((FileTree.empty "work").IsOnWay (.ofString "out"))
        (files.map fun f =>
          ((FileTree.empty "work").placeOf (.join (.ofString "out") (.ofString f.1)), f.2))
        (FileTree.empty "work") (write writing accounts (.text "out") (.empty "work")).tree := by
  have hslash : ∀ files, (generate writing accounts).result = .ok files →
      ∀ f ∈ files, .char '/' ∉ f.1.toList := by
    have hplain : (generate writing accounts).result.toOption.map
        (fun files => files.all fun f => !f.1.toList.contains '/') = some true := by decide +kernel
    intro files hfiles f hf
    rw [hfiles] at hplain
    simpa using List.all_eq_true.mp (Option.some.inj hplain) f hf
  have hok : (write writing accounts (.text "out") (.empty "work")).result.isOk = true := by
    decide +kernel
  have h := @write_commits writing accounts (.text "out") (.empty "work") "out" rfl
    (by decide) rfl hslash
  dsimp only at h
  generalize write writing accounts (.text "out") (.empty "work") = x at h hok ⊢
  cases hx : x.result with
  | error e =>
    rw [hx] at hok
    cases hok
  | ok paths =>
    rw [hx] at h
    obtain ⟨files, hfiles, -, hall⟩ := h
    exact ⟨files, hfiles, hall⟩

end Package

end ModelBindings
