import ModelBindings.Package.Write
import ModelBindings.Proofs.FileTree.Twins
import ModelBindings.Proofs.Package.FileName
import ModelBindings.Proofs.Package.Settings

/-!
# Packages in one directory by two paths

A package can be written to a directory by its path, or by the same path from the root. The files
are the same, so the two runs end alike as long as the paths that they use do.

* `Outcome.SameEnd` : two runs that leave the same tree, with results both or faults both.
* `writeFiles_sameEnd` : files written by two paths that cannot be told apart.
* `writeInto_sameEnd` : packages written by a path, and by the same path from the root.
-/

set_option autoImplicit false

namespace ModelBindings

namespace Outcome

variable {α β : Type}

/-- Two runs end alike: the same tree, and results both or faults both. -/
structure SameEnd (x y : Outcome α) : Prop where
  tree_eq : x.tree = y.tree
  isOk_eq : x.result.isOk = y.result.isOk

namespace SameEnd

variable {x y : Outcome α}

theorem refl (x : Outcome α) : SameEnd x x :=
  ⟨rfl, rfl⟩

theorem after (h : SameEnd x y) (log log' : List Record) :
    SameEnd (Outcome.after log x) (Outcome.after log' y) :=
  ⟨h.tree_eq, h.isOk_eq⟩

/-- Runs that end alike and go on alike. -/
theorem bind (h : SameEnd x y) {f g : FileTree → α → Outcome β}
    (hfg : ∀ a b, x.result = .ok a → y.result = .ok b → SameEnd (f x.tree a) (g x.tree b)) :
    SameEnd (x.bind f) (y.bind g) := by
  obtain ⟨htree, hok⟩ := h
  unfold Outcome.bind
  rcases FileTree.isOk_cases hok with ⟨e, e', hx, hy⟩ | ⟨a, b, hx, hy⟩
  · rw [hx, hy]
    exact ⟨htree, rfl⟩
  · have hend := hfg a b hx hy
    rw [hx, hy]
    dsimp only
    rw [← htree]
    exact ⟨hend.tree_eq, hend.isOk_eq⟩

end SameEnd

end Outcome

namespace Package

open FileTree (Rooted Alike KeepsDirectories LastingTwins FileTwins)

variable {t : FileTree} {out out' : Path} {c : Settings} {d : Datamodel}

theorem behindFile_sameEnd {p q : Path} {x y : FileTree × Except Fault Unit}
    (h : FileTree.SameEnd x y) {f g : FileTree → Outcome (List Path)}
    (hfg : Outcome.SameEnd (f x.1) (g x.1)) :
    Outcome.SameEnd (behindFile p x f) (behindFile q y g) := by
  rcases h.cases with ⟨t, e, e', rfl, rfl⟩ | ⟨t, u, u', rfl, rfl⟩
  · exact ⟨rfl, rfl⟩
  · exact (hfg.bind fun a b _ _ => ⟨rfl, rfl⟩).after _ _

/-- **Files written by paths that cannot be told apart.** -/
theorem writeFiles_sameEnd (validate : Bool) {files : Files}
    (h : ∀ f ∈ files, FileTwins t (out.join (.ofString f.1)) (out'.join (.ofString f.1))) :
    Outcome.SameEnd (writeFiles validate out t files) (writeFiles validate out' t files) := by
  induction files generalizing t with
  | nil => exact ⟨rfl, rfl⟩
  | cons f r ih =>
    have hfile := FileTree.writeAtomically_sameEnd (h f List.mem_cons_self) f.2 validate
    have hkeeps := FileTree.writeAtomically_keeps t (out.join (.ofString f.1)) f.2 validate
    unfold writeFiles
    exact behindFile_sameEnd hfile
      (ih fun g hg => (h g (List.mem_cons_of_mem f hg)).of_keeps hkeeps)

/-! ## Directories stay -/

theorem behindFile_keeps {p : Path} {x : FileTree × Except Fault Unit}
    {f : FileTree → Outcome (List Path)} (h : ∀ t, KeepsDirectories t (f t).tree) :
    KeepsDirectories x.1 (behindFile p x f).tree := by
  obtain ⟨t', _ | _⟩ := x
  · exact .refl t'
  · unfold behindFile
    rw [Outcome.tree_after, Outcome.tree_bind_of_tree_eq fun _ _ => rfl]
    exact h t'

theorem writeFiles_keeps (validate : Bool) (out : Path) (t : FileTree) (files : Files) :
    KeepsDirectories t (writeFiles validate out t files).tree := by
  induction files generalizing t with
  | nil => exact .refl t
  | cons f r ih =>
    unfold writeFiles
    exact (FileTree.writeAtomically_keeps t _ _ _).trans (behindFile_keeps ih)

/-- The directories that were made for the first file stay. -/
theorem writeFiles_made (validate : Bool) (out : Path) (t : FileTree) (f : Text × Text)
    (files : Files) :
    KeepsDirectories (t.makeDirectories (out.join (.ofString f.1)).parent).1
      (writeFiles validate out t (f :: files)).tree := by
  unfold writeFiles
  exact (FileTree.writeAtomically_made t _ _ _).trans
    (behindFile_keeps fun t => writeFiles_keeps validate out t files)

/-- A run stops where the directory of the first file cannot be made. -/
theorem writeFiles_stops {validate : Bool} {t' : FileTree} {e : FileFault} {f : Text × Text}
    (h : t.makeDirectories (out.join (.ofString f.1)).parent = (t', .error e)) (files : Files) :
    (writeFiles validate out t (f :: files)).tree = t' := by
  unfold writeFiles FileTree.writeAtomically
  dsimp only
  rw [h]
  rfl

/-! ## Files do not know their directory -/

/-- The directory of a package has no say in what its files are. -/
theorem generate_outputDir (v : Value) (d : Datamodel) :
    generate { c with outputDir := v } d = generate c d := by
  rw [generate_eq_dress, generate_eq_dress c]
  rfl

/-- The names of a package's files are not empty as paths. -/
theorem names_ne_nil_of_isFileName {s : Text} (h : IsFileName s) :
    (Path.ofString s).names ≠ [] := by
  rcases h with h | rfl
  · obtain ⟨front, n, hn, -⟩ := Path.names_ofString h (by decide) (by decide)
    rw [hn]
    simp
  · decide

/-- **A package is written by a path as by the same path from the root**, if both or neither of the
paths that they use for one thing are too long. -/
theorem writeInto_sameEnd (hroot : Rooted t) (v : Value) (hout : Alike out (t.fromRoot out))
    (hfiles : ∀ files, (generate c d).result = .ok files → ∀ f ∈ files,
      let p := out.join (.ofString f.1)
      let q := (t.fromRoot out).join (.ofString f.1)
      Alike p q ∧ Alike p.parent q.parent) :
    Outcome.SameEnd (writeInto c d out t)
      (writeInto { c with outputDir := v } d (t.fromRoot out) t) := by
  have hkeeps := (FileTree.makeDirectories_grownBy t out).keeps
  have hgenerate := generate_outputDir (c := c) v d
  unfold writeInto
  rw [hgenerate]
  rcases (FileTree.makeDirectories_sameEnd (hroot.twins hout)).cases with
    ⟨t₁, e, e', hp, hq⟩ | ⟨t₁, _, _, hp, hq⟩
  · rw [hp, hq]
    exact ⟨rfl, rfl⟩
  · rw [hp] at hkeeps
    rw [hp, hq]
    refine (Outcome.SameEnd.refl (.ofTraced t₁ (generate c d))).bind fun files files' h h' => ?_
    obtain rfl : files = files' := Except.ok.inj (h.symm.trans h')
    have htwins : ∀ f ∈ files, FileTwins t₁ (out.join (.ofString f.1))
        ((t.fromRoot out).join (.ofString f.1)) := by
      intro f hf
      obtain ⟨hself, hparent⟩ := hfiles files h f hf
      have hnames := names_ne_nil_of_isFileName (generate_fileName h f hf)
      exact (hroot.fileTwins hnames hself hparent).of_keeps hkeeps
    exact (writeFiles_sameEnd c.validate.isTruthy htwins).bind fun a b _ _ => ⟨rfl, rfl⟩

end Package

end ModelBindings
