import ModelBindings.Proofs.FileTree.Repeat
import ModelBindings.Proofs.Package.Commit

/-!
# Writing a package again

A package that was written can be written again with the same result, and the tree stays as it is.
Each file is settled when it is written, and stays settled while the others are written: they are in
the same directory, have other names, and none of these is the name of a temporary file.

* `writeFiles_settles` : all files are settled when a run over them has come to its end.
* `writeFiles_of_settled` : a run over settled files changes nothing.
* `writeInto_settles`, `writeInto_of_settled` : the same for whole packages.
* `write_repeat` : writing a package again.
-/

set_option autoImplicit false

namespace ModelBindings

theorem IsPlainName.name_join {s : Text} (h : IsPlainName s) (out : Path) :
    (out.join (.ofString s)).name = s := by
  rw [h.join_eq, Path.name]
  simp

namespace Package

open FileTree (IsSettled temporaryName)

variable {c : Settings} {d : Datamodel} {out : Path} {f : Text × Text} {files : Files}
  {t t' : FileTree} {validate : Bool} {paths : List Path} {s : Text}

/-! ## Names of temporary files -/

theorem getLast?_temporaryName (name : Text) (n : Nat) :
    (temporaryName name n).toList.getLast? = some (.char 'p') := by
  rw [temporaryName, Text.toList_append, List.getLast?_append]
  rfl

/-- No file of a package has the name of a temporary file. -/
theorem IsFileName.ne_temporaryName (h : IsFileName s) (name : Text) (n : Nat) :
    s ≠ temporaryName name n := by
  rintro rfl
  have hlast := getLast?_temporaryName name n
  rcases h with ⟨front, hpy⟩ | hmarker
  · rw [← hpy] at hlast
    simp at hlast
  · rw [hmarker] at hlast
    revert hlast
    decide

/-! ## Files that are settled -/

/-- The file has been written into the directory, and can be written there again. -/
def Settled (validate : Bool) (out : Path) (t : FileTree) (f : Text × Text) : Prop :=
  IsSettled t (out.join (.ofString f.1)) f.2 validate

/-- A run that comes to its end has written the first file, and then the others. -/
theorem writeFiles_cons_eq_ok
    (h : (writeFiles validate out t (f :: files)).result = .ok paths) :
    ∃ t' rest, t.writeAtomically (out.join (.ofString f.1)) f.2 validate = (t', .ok ()) ∧
      (writeFiles validate out t' files).result = .ok rest ∧
      (writeFiles validate out t (f :: files)).tree = (writeFiles validate out t' files).tree := by
  rw [writeFiles_cons] at h ⊢
  cases hwritten : t.writeAtomically (out.join (.ofString f.1)) f.2 validate with
  | mk t' result =>
    rw [hwritten] at h
    cases result with
    | error e => cases h
    | ok _ =>
      obtain ⟨rest, hrest, -⟩ := Outcome.result_bind_eq_ok.mp h
      refine ⟨t', rest, rfl, hrest, ?_⟩
      rw [behindFile, Outcome.tree_after, Outcome.tree_bind_of_ok hrest]
      rfl

/-- A file stays settled while others are written. -/
theorem Settled.of_writeFiles (hf : IsPlainName f.1) (hnames : ∀ g ∈ files, IsPlainName g.1)
    (hfiles : ∀ g ∈ files, IsFileName g.1) (hnew : f.1 ∉ Association.keys files)
    (hsettled : Settled validate out t f)
    (h : (writeFiles validate out t files).result = .ok paths) :
    Settled validate out (writeFiles validate out t files).tree f := by
  induction files generalizing t paths with
  | nil => exact hsettled
  | cons g r ih =>
    have hg : IsPlainName g.1 := hnames g List.mem_cons_self
    have hgfile : IsFileName g.1 := hfiles g List.mem_cons_self
    have hne : g.1 ≠ f.1 := fun e => hnew (e ▸ List.mem_cons_self)
    obtain ⟨t', rest, hwritten, hrest, htree⟩ := writeFiles_cons_eq_ok h
    rw [htree]
    refine ih (fun k hk => hnames k (List.mem_cons_of_mem g hk))
      (fun k hk => hfiles k (List.mem_cons_of_mem g hk))
      (fun hin => hnew (List.mem_cons_of_mem _ hin)) ?_ hrest
    -- the file beside is another one, and no temporary file of this one
    refine FileTree.IsSettled.of_write_beside hsettled hwritten ?_ ?_ fun n => ?_
    · rw [hg.parent_join, hf.parent_join]
    · rwa [hg.name_join, hf.name_join]
    · rw [hg.name_join]
      exact hgfile.ne_temporaryName _ n

/-- **Files that were written are settled.** -/
theorem writeFiles_settles (hnames : ∀ f ∈ files, IsPlainName f.1)
    (hfiles : ∀ f ∈ files, IsFileName f.1) (hkeys : (Association.keys files).Nodup)
    (h : (writeFiles validate out t files).result = .ok paths) :
    ∀ f ∈ files, Settled validate out (writeFiles validate out t files).tree f := by
  induction files generalizing t paths with
  | nil => exact fun f hf => nomatch hf
  | cons g r ih =>
    have hrnames : ∀ f ∈ r, IsPlainName f.1 := fun f hf => hnames f (List.mem_cons_of_mem g hf)
    have hrfiles : ∀ f ∈ r, IsFileName f.1 := fun f hf => hfiles f (List.mem_cons_of_mem g hf)
    obtain ⟨hnew, hrkeys⟩ := List.nodup_cons.mp hkeys
    obtain ⟨t', rest, hwritten, hrest, htree⟩ := writeFiles_cons_eq_ok h
    rw [htree]
    intro f hf
    rcases List.mem_cons.mp hf with rfl | hf
    · have hfirst : Settled validate out t' f := FileTree.isSettled_of_write hwritten
      exact hfirst.of_writeFiles (hnames f List.mem_cons_self) hrnames hrfiles hnew hrest
    · exact ih hrnames hrfiles hrkeys hrest f hf

/-! ## Runs that come to their end -/

/-- What a run over files leaves when it has come to its end with a tree. -/
def allWritten (out : Path) (files : Files) (t : FileTree) : Outcome (List Path) :=
  { tree := t
    log := files.map fun f => wroteRecord (out.join (.ofString f.1))
    result := .ok (files.map fun f => out.join (.ofString f.1)) }

theorem behindFile_allWritten (f : Text × Text) (files : Files) (t : FileTree)
    {rest : FileTree → Outcome (List Path)} (h : rest t' = allWritten out files t) :
    behindFile (out.join (.ofString f.1)) (t', .ok ()) rest = allWritten out (f :: files) t := by
  rw [behindFile, h]
  simp [allWritten, Outcome.after, Outcome.bind, Outcome.ok]

theorem writeFiles_eq_allWritten (h : (writeFiles validate out t files).result = .ok paths) :
    writeFiles validate out t files
      = allWritten out files (writeFiles validate out t files).tree := by
  induction files generalizing t paths with
  | nil => rfl
  | cons f r ih =>
    obtain ⟨t', rest, hwritten, hrest, htree⟩ := writeFiles_cons_eq_ok h
    rw [htree, writeFiles_cons, hwritten]
    exact behindFile_allWritten f r _ (ih hrest)

/-- **A run over settled files changes nothing.** -/
theorem writeFiles_of_settled (h : ∀ f ∈ files, Settled validate out t f) :
    writeFiles validate out t files = allWritten out files t := by
  induction files with
  | nil => rfl
  | cons f r ih =>
    have hfirst : Settled validate out t f := h f List.mem_cons_self
    rw [writeFiles_cons, FileTree.IsSettled.writeAtomically_eq hfirst]
    exact behindFile_allWritten f r t (ih fun g hg => h g (List.mem_cons_of_mem f hg))

/-! ## Whole packages -/

/-- A package that is written: its directory is made, then its files, and these are written. -/
theorem writeInto_eq_ok (h : (writeInto c d out t).result = .ok paths) :
    ∃ g files ps, t.makeDirectories out = (g, .ok ()) ∧ (generate c d).result = .ok files ∧
      (writeFiles c.validate.isTruthy out g files).result = .ok ps := by
  unfold writeInto at h
  split at h
  · cases h
  · rename_i g hg
    obtain ⟨files, hfiles, h⟩ := Outcome.result_bind_eq_ok.mp h
    obtain ⟨ps, hps, -⟩ := Outcome.result_bind_eq_ok.mp h
    exact ⟨g, files, ps, hg, hfiles, hps⟩

/-- What writing a package leaves when it has come to its end with a tree. -/
def packageWritten (c : Settings) (d : Datamodel) (out : Path) (files : Files) (t : FileTree) :
    Outcome (List Path) :=
  Outcome.after (generate c d).log ((allWritten out files t).bind fun t paths =>
    Outcome.after [generatedRecord d out] (.ok t paths))

theorem writeInto_of_allWritten {g : FileTree} (hmade : t.makeDirectories out = (g, .ok ()))
    (hfiles : (generate c d).result = .ok files)
    (hwritten : writeFiles c.validate.isTruthy out g files = allWritten out files t') :
    writeInto c d out t = packageWritten c d out files t' := by
  unfold writeInto
  rw [hmade]
  dsimp only
  rw [Outcome.bind_of_ok (x := .ofTraced g (generate c d)) hfiles]
  show Outcome.after _ ((writeFiles c.validate.isTruthy out g files).bind _) = _
  rw [hwritten]
  rfl

section

variable (hfiles : (generate c d).result = .ok files) (hslash : ∀ f ∈ files, .char '/' ∉ f.1.toList)

include hfiles hslash

theorem isPlainName_of_generate : ∀ f ∈ files, IsPlainName f.1 := fun f hf =>
  isPlainName_of_isFileName (generate_fileName hfiles f hf) (hslash f hf)

/-- A package that was written has all its files settled. -/
theorem writeInto_settles (h : (writeInto c d out t).result = .ok paths) :
    ∃ last, writeInto c d out t = packageWritten c d out files last ∧
      ∀ f ∈ files, Settled c.validate.isTruthy out last f := by
  obtain ⟨g, files', ps, hmade, hfiles', hwritten⟩ := writeInto_eq_ok h
  obtain rfl : files = files' := Except.ok.inj (hfiles.symm.trans hfiles')
  refine ⟨_, writeInto_of_allWritten hmade hfiles (writeFiles_eq_allWritten hwritten), ?_⟩
  exact writeFiles_settles (isPlainName_of_generate hfiles hslash) (generate_fileName hfiles)
    (nodup_keys_generate hfiles) hwritten

/-- A package whose files are settled is written with nothing changed. -/
theorem writeInto_of_settled (h : ∀ f ∈ files, Settled c.validate.isTruthy out t f) :
    writeInto c d out t = packageWritten c d out files t := by
  -- the directory is there, since it holds a file that is settled
  have hthere : t.makeDirectories out = (t, .ok ()) := by
    obtain ⟨f, hf⟩ := List.exists_mem_of_ne_nil files (ne_nil_of_generate hfiles)
    have hparent := FileTree.IsSettled.makeDirectories_parent (h f hf)
    rwa [(isPlainName_of_generate hfiles hslash f hf).parent_join] at hparent
  exact writeInto_of_allWritten hthere hfiles (writeFiles_of_settled h)

end

/-- **Writing a package again ends as writing it did, with the tree as it was left.** That tree
holds the files of the package, and their paths are the result. -/
theorem write_repeat {c : Settings} {d : Datamodel} {output : Value} {t : FileTree}
    (hslash : ∀ files, (generate c d).result = .ok files → ∀ f ∈ files, .char '/' ∉ f.1.toList)
    (hok : (write c d output t).result.isOk = true) :
    let x := write c d output t
    write c d output x.tree = x ∧
      (c.enabled.isTruthy = true → ∃ out files, outputDirectory c output = .ok out ∧
        (generate c d).result = .ok files ∧
        x.result = .ok (files.map fun f => out.join (.ofString f.1)) ∧
        ∀ f ∈ files, x.tree.lookup? (x.tree.placeOf (out.join (.ofString f.1)))
          = some (.file (.text f.2))) := by
  intro x
  cases henabled : c.enabled.isTruthy with
  | false =>
    refine ⟨?_, fun h => nomatch h⟩
    show write c d output (write c d output t).tree = write c d output t
    unfold write
    rw [henabled]
    rfl
  | true =>
    cases hout : outputDirectory c output with
    | error e =>
      rw [write, if_pos henabled, hout] at hok
      cases hok
    | ok out =>
      have hwrite : ∀ t, write c d output t = writeInto c d out t := by
        intro t
        rw [write, if_pos henabled, hout]
      rw [hwrite] at hok
      cases hresult : (writeInto c d out t).result with
      | error e =>
        rw [hresult] at hok
        cases hok
      | ok paths =>
        obtain ⟨-, files, -, -, hfiles, -⟩ := writeInto_eq_ok hresult
        obtain ⟨last, hrun, hsettled⟩ := writeInto_settles hfiles (hslash files hfiles) hresult
        have hx : x = packageWritten c d out files last := (hwrite t).trans hrun
        have hagain := writeInto_of_settled hfiles (hslash files hfiles) hsettled
        rw [hx]
        refine ⟨(hwrite last).trans hagain, fun _ => ⟨out, files, rfl, hfiles, rfl, ?_⟩⟩
        exact fun f hf => (hsettled f hf).1

theorem accounts_repeated :
    let x := write writing accounts (.text "out") (.empty "work")
    x.result.isOk = true ∧ write writing accounts (.text "out") x.tree = x ∧
      ∃ files, (generate writing accounts).result = .ok files ∧
        x.result = .ok (files.map fun f => .join (.ofString "out") (.ofString f.1)) := by
  have hok : (write writing accounts (.text "out") (.empty "work")).result.isOk = true := by
    decide +kernel
  have hplain : (generate writing accounts).result.toOption.map
      (fun files => files.all fun f => !f.1.toList.contains '/') = some true := by decide +kernel
  have hslash : ∀ files, (generate writing accounts).result = .ok files →
      ∀ f ∈ files, .char '/' ∉ f.1.toList := by
    intro files hfiles f hf
    rw [hfiles] at hplain
    simpa using List.all_eq_true.mp (Option.some.inj hplain) f hf
  obtain ⟨hagain, hleft⟩ := write_repeat hslash hok
  obtain ⟨out, files, hout, hfiles, hresult, -⟩ := hleft rfl
  cases hout
  exact ⟨hok, hagain, files, hfiles, hresult⟩

end Package

end ModelBindings
