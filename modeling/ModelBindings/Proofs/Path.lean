import ModelBindings.Path
import ModelBindings.Proofs.Text.Segments

/-!
# Names and the texts of paths

* `IsPlainName` : a text that names something in a directory, and so is a path of one name.
* `Path.ofString_toString` : a path from the root can be read back from its text.
* `Path.null_mem_toString` : the text of a path holds a null character where one of its names does.
-/

set_option autoImplicit false

namespace ModelBindings

/-! ## Names -/

/-- A text that names something in a directory. -/
structure IsPlainName (s : Text) : Prop where
  slash : .char '/' ∉ s.toList
  ne_empty : s ≠ ""
  ne_self : s ≠ "."
  ne_above : s ≠ ".."

namespace IsPlainName

variable {s : Text}

theorem takeWhile_slash (h : IsPlainName s) (cs : List CodePoint) :
    (s.toList ++ cs).takeWhile (· == .char '/') = [] := by
  cases hs : s.toList with
  | nil => exact absurd (Text.toList_eq_nil_iff.mp hs) h.ne_empty
  | cons c r =>
    have hc : c ≠ '/' := fun hc => h.slash (by rw [hs, hc]; exact List.mem_cons_self)
    simp [hc]

theorem ofString_eq (h : IsPlainName s) :
    Path.ofString s = { anchor := .current, names := [s] } := by
  have hpieces : Path.pieces s = [s] := by
    rw [Path.pieces, Text.segments_of_not_mem h.slash, List.map_singleton, Text.ofList_toList]
  have hanchor : Anchor.ofString s = .current := by
    have hnone := h.takeWhile_slash []
    rw [List.append_nil] at hnone
    rw [Anchor.ofString, hnone]
    rfl
  rw [Path.ofString, hpieces, hanchor]
  simp [h.ne_empty, h.ne_self]

theorem join_eq (h : IsPlainName s) (out : Path) :
    out.join (.ofString s) = { out with names := out.names ++ [s] } := by
  rw [h.ofString_eq]
  rfl

theorem parent_join (h : IsPlainName s) (out : Path) : (out.join (.ofString s)).parent = out := by
  rw [h.join_eq, Path.parent]
  simp

end IsPlainName

namespace Path

/-! ## Texts -/

theorem toList_slash : ("/" : Text).toList = [.char '/'] := rfl

theorem slash_not_mem_pieces {s n : Text} (h : n ∈ pieces s) : .char '/' ∉ n.toList := by
  obtain ⟨cs, hcs, rfl⟩ := List.mem_map.mp h
  rw [Text.toList_ofList]
  exact Text.not_mem_of_mem_segments hcs

variable {names : List Text}

theorem toString_root (names : List Text) :
    toString { anchor := .root, names } = "/" ++ Text.join "/" names := by
  rw [toString, if_neg fun h => nomatch h.1]
  rfl

theorem toString_root_ne_empty (names : List Text) :
    toString { anchor := .root, names } ≠ "" := by
  intro h
  have hlist := congrArg Text.toList h
  rw [toString_root, Text.toList_append, toList_slash] at hlist
  cases hlist

theorem pieces_root (hne : names ≠ []) (h : ∀ n ∈ names, IsPlainName n) :
    pieces (toString { anchor := .root, names }) = ("" : Text) :: names := by
  have hslash : .char '/' ∉ ([] : List CodePoint) := List.not_mem_nil
  have hmap : (names.map Text.toList).map Text.ofList = names := by
    simp [Function.comp_def]
  rw [toString_root, pieces, Text.toList_append, toList_slash]
  rw [show [.char '/'] ++ (Text.join "/" names).toList
      = [] ++ .char '/' :: (Text.join "/" names).toList
      from rfl, Text.segments_append_cons hslash,
    Text.segments_join toList_slash hne fun n hn => (h n hn).slash, List.map_cons, hmap]
  rfl

theorem anchor_root (h : ∀ n ∈ names, IsPlainName n) :
    Anchor.ofString (toString { anchor := .root, names }) = .root := by
  have hrest : (Text.join "/" names).toList.takeWhile (· == .char '/') = [] := by
    cases names with
    | nil => rfl
    | cons a r =>
      have ha := h a List.mem_cons_self
      cases r with
      | nil =>
        have hnone := ha.takeWhile_slash []
        rwa [List.append_nil] at hnone
      | cons b r =>
        rw [Text.join_cons_cons, Text.toList_append, Text.toList_append, List.append_assoc]
        exact ha.takeWhile_slash _
  rw [toString_root, Anchor.ofString, Text.toList_append, toList_slash, List.singleton_append,
    List.takeWhile_cons_of_pos (by decide), hrest]
  rfl

/-- **A path from the root can be read back from its text.** -/
theorem ofString_toString (h : ∀ n ∈ names, IsPlainName n) :
    ofString (toString { anchor := .root, names }) = { anchor := .root, names } := by
  unfold ofString
  rw [anchor_root h]
  by_cases hne : names = []
  · subst hne
    decide
  · have hkeep : names.filter (fun n : Text => n != "" && n != ".") = names :=
      List.filter_eq_self.mpr fun n hn => by simp [(h n hn).ne_empty, (h n hn).ne_self]
    rw [pieces_root hne h, List.filter_cons_of_neg (by decide), hkeep]

/-- The file system takes the text of a path from the root in the same way. -/
theorem asWritten_toString (hne : names ≠ []) (h : ∀ n ∈ names, IsPlainName n) :
    asWritten (toString { anchor := .root, names }) = { anchor := .root, names } := by
  have hkeep : names.filter (fun n : Text => n != "") = names :=
    List.filter_eq_self.mpr fun n hn => by simp [(h n hn).ne_empty]
  have hlast : (("" : Text) :: names).getLast? ≠ some "" := by
    rw [List.getLast?_cons_of_ne_nil hne]
    intro hlast
    exact (h "" (List.mem_of_getLast? hlast)).ne_empty rfl
  unfold asWritten
  rw [anchor_root h, pieces_root hne h, List.filter_cons_of_neg (by decide), hkeep, if_neg hlast,
    List.append_nil]

/-- What holds of slashes and dots holds of all code points of a path where it holds of those of its
names. -/
theorem forall_mem_toString {P : CodePoint → Prop} (hslash : P '/') (hdot : P '.') (p : Path) :
    (∀ c ∈ p.toString.toList, P c) ↔ ∀ n ∈ p.names, ∀ c ∈ n.toList, P c := by
  have hspelling : ∀ c ∈ p.anchor.spelling.toList, P c := by
    cases p.anchor <;> simp [Anchor.spelling, hslash]
  have hjoin : ∀ c ∈ ("/" : Text).toList, P c := by simp [hslash]
  unfold toString
  split
  · rename_i h
    rw [List.isEmpty_iff.mp h.2]
    simp [hdot]
  · rw [Text.toList_append, List.forall_mem_append, and_iff_right hspelling]
    constructor
    · intro h n hn c hc
      by_cases hsep : c ∈ ("/" : Text).toList
      · exact hjoin c hsep
      · exact h c ((Text.mem_toList_join hsep _).mpr ⟨n, hn, hc⟩)
    · intro h c hc
      by_cases hsep : c ∈ ("/" : Text).toList
      · exact hjoin c hsep
      · obtain ⟨n, hn, hc⟩ := (Text.mem_toList_join hsep _).mp hc
        exact h n hn c hc

end Path

end ModelBindings
