import ModelBindings.Proofs.FileTree.Reach

/-!
# Writing again

A text that was written can be written again, and then nothing changes: the directories are there,
the same name is free for the temporary file, and the file holds the text already. Other files of
the directory make no difference to that, unless they have the name of a temporary file.

* `Writable` : what a write needs, once the directory above the target is there.
* `writeAtomically_eq_ok` : a write that comes to its end has put one file into such a tree.
* `IsSettled` : a text that can be written with nothing changed.
* `isSettled_of_write` : a write settles its text.
* `IsSettled.of_write_beside` : it stays settled when another file of the directory is written.
-/

set_option autoImplicit false

namespace ModelBindings.FileTree

variable {t t' : FileTree} {l k directory : Location} {p q : Path} {text name : Text}
  {names : List Text} {validate : Bool}

/-! ## Directories that are there -/

/-- A path that leads to a directory passes directories only. -/
theorem directory_of_follow (h : t.follow l names = .ok k) (hk : t.lookup? k = some .directory) :
    t.lookup? l = some .directory := by
  cases names with
  | nil =>
    cases h
    exact hk
  | cons n r =>
    unfold follow at h
    split at h
    · cases h
    · rename_i m hm
      exact (step_of_child hm).2

theorem advance_of_follow (h : t.follow l names = .ok k) (hk : t.lookup? k = some .directory) :
    t.advance l names = .ok (k, []) := by
  induction names generalizing l with
  | nil =>
    cases h
    rfl
  | cons n r ih =>
    unfold follow at h
    unfold advance
    split at h
    · cases h
    · rename_i m hm
      have hthere : (t.lookup? m).isSome = true := by rw [directory_of_follow h hk]; rfl
      rw [if_pos hthere]
      exact ih h

/-- Nothing is made where the path leads to a directory. -/
theorem makeDirectories_of_directory (h : t.resolve p = .ok l)
    (hl : t.lookup? l = some .directory) : t.makeDirectories p = (t, .ok ()) := by
  obtain ⟨hcheck, hfollow⟩ := resolveAs_eq_ok_iff.mp h
  unfold makeDirectories makeMissing
  rw [hcheck]
  dsimp only
  rw [advance_of_follow hfollow hl]
  exact if_pos (decide_eq_true hl)

theorem follow_concat {n : Text} (h : t.follow l (names ++ [n]) = .ok k) :
    ∃ m, t.follow l names = .ok m ∧ t.child m n = .ok k := by
  induction names generalizing l with
  | nil =>
    rw [List.nil_append, follow] at h
    split at h
    · cases h
    · rename_i m hm
      cases h
      exact ⟨l, rfl, hm⟩
  | cons a r ih =>
    rw [List.cons_append, follow] at h
    split at h
    · cases h
    · rename_i m hm
      obtain ⟨j, hj, hk⟩ := ih h
      refine ⟨j, ?_, hk⟩
      rw [follow, hm]
      exact hj

/-! ## What a write needs -/

/-- A text can be written to a path: through a temporary file of that name, in a directory that is
there. -/
structure Writable (t : FileTree) (p : Path) (text : Text) (validate : Bool)
    (directory : Location) (name : Text) : Prop where
  parent : t.resolve p.parent = .ok directory
  fresh : t.freshName? directory p.name = some name
  temporary : checkTemporary directory name = .ok ()
  checked : checkText p text validate = .ok ()
  target : CanHold t p

/-- The directory of the target is there, and the target has its own name in it. -/
theorem Writable.place (h : Writable t p text validate directory name) :
    t.lookup? directory = some .directory ∧ t.placeOf p = directory.child p.name := by
  have hreplaceable : p.name ≠ "" ∧ p.name ≠ ".." := by
    simpa [isReplaceable] using h.target.replaceable
  obtain hnil | ⟨front, n, hnames⟩ := List.eq_nil_or_concat p.names
  · exact absurd (by rw [Path.name, hnil]; rfl) hreplaceable.1
  · rw [List.concat_eq_append] at hnames
    have hname : p.name = n := by rw [Path.name, hnames]; simp
    have hparent : p.parent.names = front := by rw [Path.parent, hnames]; simp
    obtain ⟨m, hfront, hlast⟩ :=
      follow_concat (hnames ▸ (resolveAs_eq_ok_iff.mp h.target.resolve).2)
    have hdirectory := (resolveAs_eq_ok_iff.mp h.parent).2
    rw [hparent] at hdirectory
    obtain rfl : m = directory := Except.ok.inj (hfront.symm.trans hdirectory)
    obtain ⟨hplace, hthere⟩ := step_of_child hlast
    refine ⟨hthere, ?_⟩
    rw [hplace, Location.step, hname]
    rw [hname] at hreplaceable
    split
    · rename_i hself
      -- the path would lead to the directory itself
      rw [Location.step, if_pos hself] at hplace
      exact absurd (hplace ▸ hthere) h.target.notDirectory
    · rw [if_neg hreplaceable.2]

theorem writeThrough_eq_ok_iff {source : Location} (hn : t.lookup? source = none) :
    t.writeThrough source p text validate = (t', .ok ()) ↔
      checkText p text validate = .ok () ∧ CanHold t p ∧
        t' = t.put (t.placeOf p) (.file (.text text)) := by
  unfold writeThrough
  dsimp only
  rw [← replace_eq_ok_iff hn]
  cases checkText p text validate with
  | error e => simp
  | ok _ =>
    dsimp only
    split
    · rename_i e he
      simp [he]
    · rename_i s hs
      simp [hs]

/-- **A write that comes to its end has put one file into a tree with its directory.** -/
theorem writeAtomically_eq_ok (h : t.writeAtomically p text validate = (t', .ok ())) :
    ∃ g directory name, t.makeDirectories p.parent = (g, .ok ()) ∧
      Writable g p text validate directory name ∧
      t' = g.put (g.placeOf p) (.file (.text text)) := by
  unfold writeAtomically at h
  split at h
  · cases h
  · rename_i g hg
    split at h
    · cases h
    · rename_i directory hdirectory
      unfold writeBeside at h
      split at h
      · cases h
      · rename_i name hname
        split at h
        · cases h
        · rename_i htemporary
          obtain ⟨hchecked, htarget, ht'⟩ :=
            (writeThrough_eq_ok_iff (lookup?_freshName hname)).mp h
          exact ⟨g, directory, name, hg, ⟨hdirectory, hname, htemporary, hchecked, htarget⟩, ht'⟩

/-- What is writable is written. -/
theorem Writable.writeAtomically_eq (h : Writable t p text validate directory name) :
    t.writeAtomically p text validate
      = (t.put (t.placeOf p) (.file (.text text)), .ok ()) := by
  unfold writeAtomically
  rw [makeDirectories_of_directory h.parent h.place.1]
  dsimp only
  rw [h.parent]
  dsimp only
  unfold writeBeside
  rw [h.fresh]
  dsimp only
  rw [h.temporary]
  exact (writeThrough_eq_ok_iff (lookup?_freshName h.fresh)).mpr ⟨h.checked, h.target, rfl⟩

/-! ## Names of temporary files -/

theorem temporaryName_ne (s : Text) (n : Nat) : s ≠ temporaryName s n := by
  intro h
  have hlength := congrArg (fun x => x.toList.length) h
  simp only [temporaryName, Text.toList_append, List.length_append] at hlength
  have hdot : ("." : Text).toList.length = 1 := rfl
  omega

/-- The name for a temporary file stays the first free one when a file comes that has no such
name. -/
theorem freshName?_put (h : t.freshName? directory name = some text) {c : Content}
    (hl : ∀ n, l ≠ directory.child (temporaryName name n)) :
    (t.put l (.file c)).freshName? directory name = some text := by
  have hsame : ∀ n, (t.put l (.file c)).lookup? (directory.child (temporaryName name n))
      = t.lookup? (directory.child (temporaryName name n)) := by
    intro n
    rw [lookup?_put, if_neg (Location.child_ne_root _ _), if_neg (hl n).symm]
  obtain ⟨more, hmore⟩ := Nat.exists_eq_add_of_le
    (Association.length_le_length_put l (.file c) t.entries)
  have hlength : (t.put l (.file c)).entries.length + 1 = (t.entries.length + 1) + more := by
    show (Association.put l (Entry.file c) t.entries).length + 1 = _
    omega
  unfold freshName? at h ⊢
  rw [hlength, List.range_add, List.map_append, List.find?_append]
  rw [List.find?_eq_some_iff_append] at h
  obtain ⟨hfree, before, behind, hsplit, hused⟩ := h
  have htemporary : ∀ a ∈ before ++ text :: behind, ∃ n, a = temporaryName name n := by
    intro a ha
    rw [← hsplit] at ha
    obtain ⟨n, -, rfl⟩ := List.mem_map.mp ha
    exact ⟨n, rfl⟩
  rw [Option.or_eq_some_iff]
  refine .inl (List.find?_eq_some_iff_append.mpr ⟨?_, before, behind, hsplit, fun a ha => ?_⟩)
  · obtain ⟨n, rfl⟩ := htemporary text (by simp)
    rw [hsame]
    exact hfree
  · obtain ⟨n, rfl⟩ := htemporary a (by simp [ha])
    rw [hsame]
    exact hused _ ha

/-! ## Settled texts -/

/-- A text stays writable when a file comes that has no name of a temporary file. -/
theorem Writable.put (h : Writable t p text validate directory name)
    (hl : t.lookup? l ≠ some .directory)
    (htemporary : ∀ n, l ≠ directory.child (temporaryName p.name n)) (c : Content) :
    Writable (t.put l (.file c)) p text validate directory name := by
  refine ⟨(resolve_put_file hl c).mpr h.parent, freshName?_put h.fresh htemporary, h.temporary,
    h.checked, h.target.replaceable, (resolve_put_file hl c).mpr h.target.resolve, fun hdir => ?_⟩
  exact h.target.notDirectory ((lookup?_put_file_eq_directory hl c _).mp hdir)

/-- The text is in its place, and can be written there. -/
def IsSettled (t : FileTree) (p : Path) (text : Text) (validate : Bool) : Prop :=
  t.lookup? (t.placeOf p) = some (.file (.text text)) ∧
    ∃ directory name, Writable t p text validate directory name

theorem put_eq_self {e : Entry} (hl : l ≠ .root) (h : t.lookup? l = some e) : t.put l e = t := by
  unfold lookup? at h
  rw [if_neg hl] at h
  unfold put
  rw [Association.put_eq_self h]

/-- **Writing a settled text changes nothing.** -/
theorem IsSettled.writeAtomically_eq (h : IsSettled t p text validate) :
    t.writeAtomically p text validate = (t, .ok ()) := by
  obtain ⟨hfile, directory, name, hw⟩ := h
  rw [hw.writeAtomically_eq, put_eq_self hw.target.ne_root hfile]

theorem IsSettled.makeDirectories_parent (h : IsSettled t p text validate) :
    t.makeDirectories p.parent = (t, .ok ()) := by
  obtain ⟨-, directory, name, hw⟩ := h
  exact makeDirectories_of_directory hw.parent hw.place.1

/-- **A write settles its text.** -/
theorem isSettled_of_write (h : t.writeAtomically p text validate = (t', .ok ())) :
    IsSettled t' p text validate := by
  obtain ⟨g, directory, name, -, hw, rfl⟩ := writeAtomically_eq_ok h
  refine ⟨?_, directory, name, hw.put hw.target.notDirectory (fun n => ?_) _⟩
  · show (g.put (g.placeOf p) _).lookup? (g.placeOf p) = _
    rw [lookup?_put, if_neg hw.target.ne_root, if_pos rfl]
  · rw [hw.place.2, Ne, Location.child_inj]
    exact temporaryName_ne p.name n

/-- **A text stays settled when another file of its directory is written**, unless that file has
the name of a temporary file. -/
theorem IsSettled.of_write_beside {s : Text} {check : Bool} (h : IsSettled t p text validate)
    (hw : t.writeAtomically q s check = (t', .ok ())) (hparent : q.parent = p.parent)
    (hname : q.name ≠ p.name) (htemporary : ∀ n, q.name ≠ temporaryName p.name n) :
    IsSettled t' p text validate := by
  obtain ⟨g, other, temporary, hmade, hq, rfl⟩ := writeAtomically_eq_ok hw
  -- no directory was made, and both files are in the same one
  rw [hparent, h.makeDirectories_parent] at hmade
  obtain rfl : t = g := congrArg Prod.fst hmade
  obtain ⟨hfile, directory, name, hp⟩ := h
  obtain rfl : directory = other := by
    have hsame := hp.parent.symm.trans (hparent ▸ hq.parent)
    exact Except.ok.inj hsame
  refine ⟨?_, directory, name, hp.put hq.target.notDirectory (fun n => ?_) _⟩
  · show (t.put (t.placeOf q) _).lookup? (t.placeOf p) = _
    have hplaces : t.placeOf p ≠ t.placeOf q := by
      rw [hp.place.2, hq.place.2, Ne, Location.child_inj]
      exact hname.symm
    rw [lookup?_put, if_neg hp.target.ne_root, if_neg hplaces, hfile]
  · rw [hq.place.2, Ne, Location.child_inj]
    exact htemporary n

end ModelBindings.FileTree
