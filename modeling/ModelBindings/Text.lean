import ModelBindings.CodePoint

/-!
# Texts

A text is a sequence of code points. The texts of characters only are the strings, and are written
as such; the others hold a surrogate somewhere.

* `Text.ofList`, `Text.toList` : a text and its code points.
* `Text.ofString` : the text of a string.
* `Text.concat` : texts put together.
-/

set_option autoImplicit false

namespace ModelBindings

/-- A sequence of code points. -/
structure Text where
  ofList ::
  toList : List CodePoint
  deriving Repr, Inhabited

namespace Text

/-- The text of a string. -/
def ofString (s : String) : Text :=
  ofList (s.toList.map .char)

instance : Coe String Text := ⟨ofString⟩

instance : Append Text := ⟨fun s t => ofList (s.toList ++ t.toList)⟩

/-- The number of code points. -/
def length (s : Text) : Nat := s.toList.length

/-- Texts put together. -/
def concat (l : List Text) : Text :=
  ofList (l.flatMap toList)

instance : LT Text := ⟨fun s t => s.toList < t.toList⟩

instance : LE Text := ⟨fun s t => ¬ t < s⟩

instance (s t : Text) : Decidable (s < t) := inferInstanceAs (Decidable (s.toList < t.toList))

instance (s t : Text) : Decidable (s ≤ t) := inferInstanceAs (Decidable (¬ t < s))

/-! ## The code points of a text -/

@[simp] theorem toList_ofList (cs : List CodePoint) : (ofList cs).toList = cs := rfl

@[simp] theorem ofList_toList (s : Text) : ofList s.toList = s := rfl

@[simp] theorem toList_ofString (s : String) : (ofString s).toList = s.toList.map .char := rfl

@[simp] theorem toList_append (s t : Text) : (s ++ t).toList = s.toList ++ t.toList := rfl

@[simp] theorem toList_concat (l : List Text) : (concat l).toList = l.flatMap toList := rfl

theorem toList_injective {s t : Text} (h : s.toList = t.toList) : s = t := by
  cases s
  cases t
  exact congrArg ofList h

@[simp] theorem toList_inj {s t : Text} : s.toList = t.toList ↔ s = t :=
  ⟨toList_injective, fun h => h ▸ rfl⟩

instance : DecidableEq Text := fun _ _ => decidable_of_iff _ toList_inj

theorem ofList_injective {cs ds : List CodePoint} (h : ofList cs = ofList ds) : cs = ds :=
  congrArg toList h

@[simp] theorem ofString_inj {s t : String} : ofString s = ofString t ↔ s = t := by
  refine ⟨fun h => String.toList_inj.mp ?_, fun h => h ▸ rfl⟩
  exact (List.map_inj_right fun _ _ => CodePoint.char.inj).mp (congrArg toList h)

@[simp] theorem beq_ofString (s t : String) : (ofString s == ofString t) = (s == t) := by
  rw [Bool.eq_iff_iff, beq_iff_eq, beq_iff_eq, ofString_inj]

@[simp] theorem toList_eq_nil_iff {s : Text} : s.toList = [] ↔ s = "" :=
  toList_inj (t := ofString "")

/-! ## Texts behind each other -/

theorem ofList_append (cs ds : List CodePoint) : ofList (cs ++ ds) = ofList cs ++ ofList ds := rfl

theorem append_assoc (s t u : Text) : s ++ t ++ u = s ++ (t ++ u) :=
  toList_injective (List.append_assoc ..)

@[simp] theorem empty_append (s : Text) : ofString "" ++ s = s := rfl

@[simp] theorem append_empty (s : Text) : s ++ ofString "" = s :=
  toList_injective (List.append_nil _)

@[simp] theorem concat_nil : concat [] = "" := rfl

@[simp] theorem concat_cons (s : Text) (l : List Text) : concat (s :: l) = s ++ concat l := rfl

@[simp] theorem concat_append (l m : List Text) : concat (l ++ m) = concat l ++ concat m :=
  toList_injective (List.flatMap_append ..)

@[simp] theorem append_right_inj {s t u : Text} : s ++ t = s ++ u ↔ t = u := by
  rw [← toList_inj, ← toList_inj, toList_append, toList_append, List.append_right_inj]

@[simp] theorem append_left_inj {s t u : Text} : s ++ u = t ++ u ↔ s = t := by
  rw [← toList_inj, ← toList_inj, toList_append, toList_append, List.append_left_inj]

@[simp] theorem length_append (s t : Text) : (s ++ t).length = s.length + t.length := by
  simp [length]

@[simp] theorem length_toList (s : Text) : s.toList.length = s.length := rfl

@[simp] theorem length_ofString (s : String) : (ofString s).length = s.length := by
  simp [length, String.length_toList]

end Text

end ModelBindings
