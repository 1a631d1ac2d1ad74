import ModelBindings.Package.Write
import ModelBindings.Proofs.FileTree.Update
import ModelBindings.Proofs.Outcome

/-!
# Where a package is written

* `Package.Belongs` : a text of the package at the place of its file name in the directory of the
  package.
* `updatedBy_write` : writing a package replaces files by such texts only, at whatever point it
  stops.
-/

set_option autoImplicit false

namespace ModelBindings.Package

open FileTree (UpdatedBy)

theorem outputDirectory_of_text {c : Settings} {output : Value} {s : Text} (hs : s ≠ "")
    (h : (if output.isTruthy then output else c.outputDir) = .text s) :
    outputDirectory c output = .ok (.ofString s) := by
  have htruthy : (Value.text s).isTruthy = true := by simpa [Value.isTruthy] using hs
  unfold outputDirectory
  dsimp only
  rw [h, if_pos htruthy]

/-- The place is that of a file of the package, and the text is that file's. -/
def Belongs (c : Settings) (d : Datamodel) (output : Value) (t : FileTree) (k : Location)
    (text : Text) : Prop :=
  ∃ out files name, outputDirectory c output = .ok out ∧ (generate c d).result = .ok files ∧
    (name, text) ∈ files ∧ k = t.placeOf (out.join (.ofString name))

/-! ## Writing -/

/-- A text of some files is at the place of its name in a directory. -/
def BelongsIn (files : Files) (out : Path) (t : FileTree) (k : Location) (text : Text) : Prop :=
  ∃ name, (name, text) ∈ files ∧ k = t.placeOf (out.join (.ofString name))

theorem writeFiles_cons (validate : Bool) (out : Path) (t : FileTree) (f : Text × Text)
    (files : Files) :
    writeFiles validate out t (f :: files) = behindFile (out.join (.ofString f.1))
      (t.writeAtomically (out.join (.ofString f.1)) f.2 validate)
      fun t => writeFiles validate out t files := by
  rw [writeFiles]

theorem updatedBy_writeFiles (validate : Bool) (out : Path) (t : FileTree) (files : Files) :
    UpdatedBy (BelongsIn files out t) t (writeFiles validate out t files).tree := by
  induction files generalizing t with
  | nil => exact .refl _ t
  | cons f r ih =>
    obtain ⟨name, text⟩ := f
    have hw : UpdatedBy (BelongsIn ((name, text) :: r) out t) t
        (t.writeAtomically (out.join (.ofString name)) text validate).1 := by
      refine (FileTree.updatedBy_writeAtomically t _ text validate).mono ?_
      rintro k s ⟨hk, rfl⟩
      exact ⟨name, List.mem_cons_self, hk⟩
    unfold writeFiles behindFile
    dsimp only
    split
    · rename_i t' e h
      rw [h] at hw
      exact hw
    · rename_i t' h
      rw [h] at hw
      refine hw.trans ?_
      rw [Outcome.tree_after, Outcome.tree_bind_of_tree_eq (fun _ _ => rfl)]
      refine (ih t').mono ?_
      rintro k s ⟨n, hn, hk⟩
      exact ⟨n, List.mem_cons_of_mem _ hn,
        hk.trans (FileTree.placeOf_of_current hw.current_eq _)⟩

theorem updatedBy_writeInto {c : Settings} {d : Datamodel} {output : Value} {out : Path}
    (ho : outputDirectory c output = .ok out) (t : FileTree) :
    UpdatedBy (Belongs c d output t) t (writeInto c d out t).tree := by
  have hg := (FileTree.makeDirectories_grownBy t out).updatedBy (Belongs c d output t)
  unfold writeInto
  split
  · rename_i t' e h
    rw [h] at hg
    exact hg
  · rename_i t' h
    rw [h] at hg
    refine hg.trans ?_
    cases hgen : (generate c d).result with
    | error e =>
      rw [Outcome.tree_bind_of_error (x := .ofTraced t' (generate c d)) hgen]
      exact .refl _ t'
    | ok files =>
      rw [Outcome.tree_bind_of_ok (x := .ofTraced t' (generate c d)) hgen]
      have hf : UpdatedBy (Belongs c d output t) t'
          (writeFiles c.validate.isTruthy out t' files).tree := by
        refine (updatedBy_writeFiles c.validate.isTruthy out t' files).mono ?_
        rintro k s ⟨name, hn, hk⟩
        exact ⟨out, files, name, ho, hgen, hn,
          hk.trans (FileTree.placeOf_of_current hg.current_eq _)⟩
      rw [Outcome.tree_bind_of_tree_eq (fun _ _ => rfl)]
      exact hf

/-- **Writing a package replaces files by files of the package only.** -/
theorem updatedBy_write (c : Settings) (d : Datamodel) (output : Value) (t : FileTree) :
    UpdatedBy (Belongs c d output t) t (write c d output t).tree := by
  unfold write
  split
  · split
    · exact .refl _ t
    · rename_i out ho
      exact updatedBy_writeInto ho t
  · exact .refl _ t

end ModelBindings.Package
