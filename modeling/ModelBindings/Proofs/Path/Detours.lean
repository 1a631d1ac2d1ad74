import ModelBindings.Proofs.Path
import ModelBindings.Text.Encoding

/-!
# Paths with detours

A path may go into a directory and out of it again, and so be as long as one likes without leading
far away.

* `detours` : a name with detours in front.
* `ofString_detours` : the names of its path.
* `byteSize_join_detours` : the length of such a path.
-/

set_option autoImplicit false

namespace ModelBindings

/-- Detours in front of a name: into a directory and out of it again. -/
def detours (n last : List CodePoint) : Nat → List CodePoint
  | 0 => last
  | k + 1 => n ++ .char '/' :: ((".." : Text).toList ++ .char '/' :: detours n last k)

/-- The names of these detours. -/
def detourNames (n : Text) : Nat → List Text
  | 0 => []
  | k + 1 => n :: (".." : Text) :: detourNames n k

theorem mem_detourNames {n s : Text} {k : Nat} (h : s ∈ detourNames n k) :
    s = n ∨ s = ".." := by
  induction k with
  | zero => cases h
  | succ k ih =>
    rcases List.mem_cons.mp h with rfl | h
    · exact .inl rfl
    · rcases List.mem_cons.mp h with rfl | h
      · exact .inr rfl
      · exact ih h

theorem detours_append (n last b : List CodePoint) (k : Nat) :
    detours n last k ++ b = detours n (last ++ b) k := by
  induction k with
  | zero => rfl
  | succ k ih => simp [detours, ih]

theorem segments_detours {n last : List CodePoint} (hn : .char '/' ∉ n) (hlast : .char '/' ∉ last)
    (k : Nat) :
    (Text.segments '/' (detours n last k)).map Text.ofList
      = detourNames (Text.ofList n) k ++ [Text.ofList last] := by
  induction k with
  | zero =>
    rw [detours, Text.segments_of_not_mem hlast]
    rfl
  | succ k ih =>
    have hup : .char '/' ∉ (".." : Text).toList := by decide
    rw [detours, Text.segments_append_cons hn, Text.segments_append_cons hup, List.map_cons,
      List.map_cons, ih]
    rfl

/-- The path of a text with detours. -/
theorem ofString_detours {n last : List CodePoint} (hn : IsPlainName (Text.ofList n))
    (hlast : IsPlainName (Text.ofList last)) (k : Nat) :
    Path.ofString (Text.ofList (detours n last k))
      = { anchor := .current, names := detourNames (.ofList n) k ++ [.ofList last] } := by
  have hnames : ∀ k, (detourNames (Text.ofList n) k ++ [Text.ofList last]).filter
      (fun n => n != ("" : Text) && n != ("." : Text))
        = detourNames (Text.ofList n) k ++ [Text.ofList last] := by
    intro k
    induction k with
    | zero => simp [detourNames, hlast.ne_empty, hlast.ne_self]
    | succ k ih => simp [detourNames, ih, hn.ne_empty, hn.ne_self]
  have hanchor : Anchor.ofString (Text.ofList (detours n last k)) = .current := by
    have hnone : (detours n last k).takeWhile (· == .char '/') = [] := by
      cases k with
      | zero =>
        rw [detours]
        simpa using hlast.takeWhile_slash []
      | succ k =>
        rw [detours]
        simpa using hn.takeWhile_slash
          (.char '/' :: ((".." : Text).toList ++ .char '/' :: detours n last k))
    rw [Anchor.ofString, Text.toList_ofList, hnone]
    rfl
  have hslash : ∀ {cs : List CodePoint}, IsPlainName (Text.ofList cs) → .char '/' ∉ cs := by
    intro cs h
    simpa using h.slash
  rw [Path.ofString, hanchor, Path.pieces, Text.toList_ofList,
    segments_detours (hslash hn) (hslash hlast), hnames]

/-- The length of a path that starts with a name and goes on with detours. -/
theorem byteSize_join_detours (a n : Text) (k : Nat) :
    (Text.join "/" (a :: detourNames n k)).byteSize
      = a.byteSize + k * (n.byteSize + 4) := by
  have hslash : ("/" : Text).byteSize = 1 := by decide
  have hup : (".." : Text).byteSize = 2 := by decide
  induction k generalizing a with
  | zero => simp [detourNames, Text.join]
  | succ k ih =>
    rw [detourNames, Text.join_cons_cons, Text.join_cons_cons]
    simp only [Text.byteSize_append, ih, hslash, hup, Nat.succ_mul]
    omega

end ModelBindings
