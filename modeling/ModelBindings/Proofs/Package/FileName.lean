import ModelBindings.Proofs.FileTree.Growth
import ModelBindings.Proofs.Package.Files
import ModelBindings.Proofs.Text.Segments

/-!
# Names of package files

* `generate_fileName` : a file of a package is a source file or the marker.
* `name_placeOf_join` : the place of such a file, in whatever directory, has a name that ends as the
  file name does.
-/

set_option autoImplicit false

namespace ModelBindings

/-! ## The last name of a path -/

/-- A path whose text ends in a name of more than one point ends in that name. -/
theorem Path.names_ofString {s : Text} {b : List CodePoint} (hs : b <:+ s.toList)
    (hb : .char '/' ∉ b)
    (hl : 2 < b.length) :
    ∃ front n, (Path.ofString s).names = front ++ [n] ∧ b <:+ n.toList := by
  obtain ⟨a, ha⟩ := hs
  obtain ⟨front, l, h⟩ := Text.segments_append hb a
  rw [ha] at h
  refine ⟨(front.map Text.ofList).filter fun n => n != "" && n != ".", Text.ofList (l ++ b),
    ?_, by simp⟩
  have hlong : 2 < (l ++ b).length := by
    rw [List.length_append]
    omega
  have hne : ∀ x : Text, x.toList.length ≤ 2 → Text.ofList (l ++ b) ≠ x := by
    rintro x hx rfl
    rw [Text.toList_ofList] at hx
    omega
  simp only [ofString, pieces, h, List.map_append, List.filter_append, List.map_cons, List.map_nil]
  congr 1
  rw [List.filter_cons_of_pos]
  · rfl
  · simp only [Bool.and_eq_true, bne_iff_ne]
    exact ⟨hne "" (by decide), hne "." (by decide)⟩

/-- The place of a file in a directory has a name that ends as the file name does. -/
theorem FileTree.name_placeOf_join {s : Text} {b : List CodePoint} (hs : b <:+ s.toList)
    (hb : .char '/' ∉ b) (hl : 2 < b.length) (t : FileTree) (out : Path) :
    b <:+ (t.placeOf (out.join (.ofString s))).name.toList := by
  obtain ⟨front, n, hn, hsuf⟩ := Path.names_ofString hs hb hl
  have hlast : ∃ f, (out.join (.ofString s)).names = f ++ [n] := by
    unfold Path.join
    split
    · exact ⟨out.names ++ front, by simp [hn]⟩
    · exact ⟨front, hn⟩
  obtain ⟨f, hf⟩ := hlast
  have hlong : ∀ x : Text, x.toList.length ≤ 2 → n ≠ x := by
    rintro x hx rfl
    have := hsuf.length_le
    omega
  unfold placeOf
  rw [hf, Location.walk_append]
  show b <:+ (Location.step _ n).name.toList
  unfold Location.step
  rw [if_neg (hlong "." (by decide)), if_neg (hlong ".." (by decide)), Location.name_child]
  exact hsuf

namespace Package

/-- A source file, or the marker. -/
def IsFileName (name : Text) : Prop :=
  (".py" : Text).toList <:+ name.toList ∨ name = markerName

theorem isFileName_fileName (module : Text) : IsFileName (fileName module) :=
  .inl (by simp [fileName])

/-- **A file of a package is a source file or the marker.** -/
theorem generate_fileName {c : Settings} {d : Datamodel} {files : Files}
    (h : (generate c d).result = .ok files) : ∀ f ∈ files, IsFileName f.1 := by
  intro f hf
  cases isFile_of_mem_generate h f hf with
  | enums hne ht => exact isFileName_fileName _
  | model hm ht => exact isFileName_fileName _
  | init => exact isFileName_fileName _
  | marker => exact .inr rfl

end Package

end ModelBindings
