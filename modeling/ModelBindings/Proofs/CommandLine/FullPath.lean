import ModelBindings.CommandLine
import ModelBindings.Proofs.FileTree.Twins

/-!
# Paths of parameters from the root

The command takes the paths of its parameters from the root on, without a look at the tree. Where a
path leads back nowhere, this is the same path from the root; where it leads to a file, so does the
path from the root.

* `fullPath_eq_fromRoot` : the full path of a text that does not lead back.
* `readDocument_fullPath` : the document that a full path leads to.
-/

set_option autoImplicit false

namespace ModelBindings.CommandLine

open FileTree (Rooted Reached)

variable {t : FileTree}

/-! ## Names of the full path -/

theorem descend_eq (l : Location) {n : Text} (h : n ≠ "") : descend l n = l.step n := by
  unfold descend Location.step
  simp [h]

/-- Names that say nothing can be left out. -/
theorem foldl_descend (l : Location) (names : List Text) :
    names.foldl descend l = l.walk (names.filter (fun n : Text => n != "")) := by
  induction names generalizing l with
  | nil => rfl
  | cons n r ih =>
    rw [List.foldl_cons, ih]
    by_cases hn : n = ""
    · subst hn
      rfl
    · rw [List.filter_cons_of_pos (by simpa using hn), descend_eq l hn]
      rfl

theorem step_self (l : Location) : l.step "." = l :=
  if_pos rfl

/-- The full path of a text spells the place that the text spells. -/
theorem fullPath_names (t : FileTree) (s : Text) :
    (fullPath t s).names = (t.placeOf (.asWritten s)).names := by
  have hwalk : t.placeOf (.asWritten s)
      = (t.startOf (.asWritten s)).walk ((Path.pieces s).filter (fun n : Text => n != "")) := by
    unfold FileTree.placeOf Path.asWritten
    dsimp only
    rw [Location.walk_append]
    split
    · exact step_self _
    · rfl
  rw [hwalk, ← foldl_descend]
  rfl

/-- Names that do not lead back are put at the end. -/
theorem foldl_descend_plain (l : Location) {names : List Text} (h : (".." : Text) ∉ names) :
    (names.foldl descend l).names
      = l.names ++ names.filter fun n : Text => n != "" && n != "." := by
  induction names generalizing l with
  | nil => simp
  | cons n r ih =>
    simp only [List.mem_cons, not_or] at h
    rw [List.foldl_cons, ih _ h.2]
    by_cases hn : n = "" ∨ n = "."
    · rw [descend, if_pos hn, List.filter_cons_of_neg]
      rcases hn with rfl | rfl <;> decide
    · have hkeep : (n != "" && n != ".") = true := by simpa using hn
      rw [descend, if_neg hn, if_neg (Ne.symm h.1), Location.names_child, List.append_assoc,
        List.singleton_append,
        List.filter_cons_of_pos (p := fun n : Text => n != "" && n != ".") hkeep]

/-- **The full path of a text that does not lead back is its path from the root.** -/
theorem fullPath_eq_fromRoot (t : FileTree) {s : Text} (h : (".." : Text) ∉ Path.pieces s) :
    fullPath t s = t.fromRoot (.ofString s) := by
  unfold fullPath FileTree.fromRoot
  dsimp only
  rw [foldl_descend_plain _ h]
  rfl

theorem isPlainName_of_mem_ofString {s n : Text} (h : (".." : Text) ∉ Path.pieces s)
    (hn : n ∈ (Path.ofString s).names) : IsPlainName n := by
  obtain ⟨hmem, hkeep⟩ := List.mem_filter.mp hn
  simp only [Bool.and_eq_true, bne_iff_ne] at hkeep
  exact ⟨Path.slash_not_mem_pieces hmem, hkeep.1, hkeep.2, fun e => h (e ▸ hmem)⟩

/-- The text of the full path stands for the full path. -/
theorem ofString_fullPath (hroot : Rooted t) {s : Text} (h : (".." : Text) ∉ Path.pieces s) :
    Path.ofString (fullPath t s).toString = fullPath t s := by
  rw [fullPath_eq_fromRoot t h]
  refine Path.ofString_toString fun n hn => ?_
  rcases List.mem_append.mp hn with hn | hn
  · exact ((hroot.startOf _).1.proper n hn).toIsPlainName
  · exact isPlainName_of_mem_ofString h hn

/-! ## Documents -/

/-- The names in a text hold what it holds. -/
theorem mem_of_mem_pieces {s n : Text} {c : CodePoint} (hn : n ∈ Path.pieces s)
    (hc : c ∈ n.toList) : c ∈ s.toList := by
  have hslash : c ≠ '/' := by
    rintro rfl
    exact Path.slash_not_mem_pieces hn hc
  obtain ⟨cs, hcs, rfl⟩ := List.mem_map.mp hn
  exact (Text.exists_mem_segments_iff hslash _).mp ⟨cs, hcs, hc⟩

/-- A path can hold a text if and only if it can hold the pieces between its slashes. -/
theorem isNameable_iff_pieces {s : Text} :
    s.IsNameable ↔ ∀ n ∈ Path.pieces s, n.IsNameable := by
  refine ⟨fun h n hn c hc => h c (mem_of_mem_pieces hn hc), fun h c hc => ?_⟩
  by_cases hslash : c = '/'
  · subst hslash
    decide
  · obtain ⟨cs, hcs, hc⟩ := (Text.exists_mem_segments_iff hslash _).mpr hc
    exact h _ (List.mem_map_of_mem hcs) c hc

/-- The names of a path as it is written. -/
theorem names_asWritten {s n : Text} (hs : s.IsNameable) (hn : n ∈ (Path.asWritten s).names) :
    .char '/' ∉ n.toList ∧ n.IsNameable ∧ n ≠ "" := by
  rcases List.mem_append.mp hn with hn | hn
  · obtain ⟨hmem, hne⟩ := List.mem_filter.mp hn
    exact ⟨Path.slash_not_mem_pieces hmem, isNameable_iff_pieces.mp hs n hmem,
      by simpa using hne⟩
  · split at hn
    · obtain rfl := List.mem_singleton.mp hn
      decide
    · cases hn

/-- What a text that names a file leads to. -/
theorem readFile_eq_ok {s : Text} {c : Content} (h : t.readFile s = .ok c) :
    FileTree.checkPath s = .ok () ∧ ∃ l,
      t.follow (t.startOf (.asWritten s)) (Path.asWritten s).names = .ok l ∧
        t.lookup? l = some (.file c) := by
  unfold FileTree.readFile at h
  split at h
  · cases h
  · split at h
    · cases h
    · rename_i l hl
      obtain ⟨hcheck, hfollow⟩ := FileTree.resolveAs_eq_ok_iff.mp hl
      refine ⟨hcheck, l, hfollow, ?_⟩
      unfold FileTree.contentAt at h
      split at h
      · rename_i hlook
        cases h
        exact hlook
      · cases h
      · cases h

/-- The full path of a text that names a file leads to that file, unless it is too long. -/
theorem resolve_fullPath (hroot : Rooted t) {s : Text} {c : Content} (h : t.readFile s = .ok c)
    (hlength : (fullPath t s).toString.byteSize ≤ FileTree.pathLimit) :
    ∃ l, t.resolve (fullPath t s) = .ok l ∧ t.lookup? l = some (.file c) ∧
      (fullPath t s).names ≠ [] ∧ ∀ n ∈ (fullPath t s).names, IsProperName n := by
  obtain ⟨hcheck, l, hfollow, hlook⟩ := readFile_eq_ok h
  have hs := (FileTree.checkPath_eq_ok.mp hcheck).1
  have hreached : Reached t l := FileTree.reached_of_follow (hroot.startOf _).1
    (fun n hn => names_asWritten hs hn) hfollow
  have hnames : (fullPath t s).names = l.names := by
    rw [fullPath_names, FileTree.walk_of_follow hfollow]
    rfl
  have hthere : t.follow .root l.names = .ok l := by
    have happend := hreached.follow_append (a := []) rfl []
    rwa [List.append_nil] at happend
  have hfull : FileTree.checkPath (fullPath t s).toString = .ok () := by
    have hnameable : (fullPath t s).toString.IsNameable := by
      rw [Path.isNameable_toString, hnames]
      exact fun n hn => (hreached.proper n hn).nameable
    exact FileTree.checkPath_eq_ok.mpr ⟨hnameable, hlength⟩
  refine ⟨l, ?_, hlook, ?_, hnames ▸ hreached.proper⟩
  · have hstart : t.follow (t.startOf (fullPath t s)) (fullPath t s).names = .ok l := by
      rw [hnames]
      exact hthere
    exact FileTree.resolveAs_eq_ok_iff.mpr ⟨hfull, hstart⟩
  · rw [hnames]
    intro hnil
    have hl : l = .root := Location.ext hnil
    rw [hl, FileTree.lookup?_root] at hlook
    cases hlook

theorem readFile_fullPath (hroot : Rooted t) {s : Text} {c : Content} (h : t.readFile s = .ok c)
    (hlength : (fullPath t s).toString.byteSize ≤ FileTree.pathLimit) :
    t.readFile (fullPath t s).toString = .ok c := by
  obtain ⟨l, hresolve, hlook, hne, hproper⟩ := resolve_fullPath hroot h hlength
  have hwritten : Path.asWritten (fullPath t s).toString = fullPath t s :=
    Path.asWritten_toString hne fun n hn => (hproper n hn).toIsPlainName
  have hnonempty : (fullPath t s).toString ≠ "" := Path.toString_root_ne_empty _
  unfold FileTree.resolve at hresolve
  unfold FileTree.readFile
  rw [if_neg hnonempty, hwritten, hresolve]
  dsimp only
  unfold FileTree.contentAt
  rw [hlook]

/-- **The document that a text names is that which its full path names.** -/
theorem readDocument_fullPath (hroot : Rooted t) {s : Text} {v : Value}
    (h : t.readDocument s = .ok v)
    (hlength : (fullPath t s).toString.byteSize ≤ FileTree.pathLimit) :
    s.IsNameable ∧ t.leadsToEntry (fullPath t s) = true ∧
      t.readDocument (fullPath t s).toString = .ok v := by
  have hfile : ∃ c, t.readFile s = .ok c := by
    unfold FileTree.readDocument FileTree.readText at h
    cases hc : t.readFile s with
    | ok c => exact ⟨c, rfl⟩
    | error e =>
      rw [hc] at h
      cases h
  obtain ⟨c, hc⟩ := hfile
  obtain ⟨l, hresolve, hlook, -, -⟩ := resolve_fullPath hroot hc hlength
  refine ⟨(FileTree.checkPath_eq_ok.mp (readFile_eq_ok hc).1).1, ?_, ?_⟩
  · unfold FileTree.leadsToEntry
    rw [hresolve]
    dsimp only
    rw [hlook]
    rfl
  · unfold FileTree.readDocument FileTree.readText at h ⊢
    rw [readFile_fullPath hroot hc hlength]
    rw [hc] at h
    exact h

end ModelBindings.CommandLine
