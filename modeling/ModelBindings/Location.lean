import ModelBindings.Text.Lines

/-!
# Places

A place is known by the names from the root to it, the outermost first. It keeps their number, so
that places of different depth are told apart without a look at the names.

* `Location.root`, `Location.child`, `Location.parent` : moving about.
* `Location.below?` : the names from one place to another below it.
* `Location.path` : the text of a place.
-/

set_option autoImplicit false

namespace ModelBindings

/-- The names from the root to a place. -/
structure Location where
  names : List Text
  /-- The number of names. -/
  depth : Nat
  depth_eq : depth = names.length
  deriving Repr

namespace Location

/-- The place that names lead to from the root. -/
def ofNames (names : List Text) : Location :=
  ⟨names, names.length, rfl⟩

@[ext] theorem ext {l k : Location} (h : l.names = k.names) : l = k := by
  obtain ⟨ln, ld, hl⟩ := l
  obtain ⟨kn, kd, hk⟩ := k
  subst hl hk
  cases h
  rfl

instance : DecidableEq Location := fun l k =>
  if h : l.depth = k.depth then decidable_of_iff (l.names = k.names) ⟨ext, fun e => e ▸ rfl⟩
  else isFalse fun e => h (e ▸ rfl)

/-- The place that all others are below. -/
def root : Location :=
  ofNames []

/-- The place of a name below a place. -/
def child (l : Location) (name : Text) : Location :=
  ⟨l.names ++ [name], l.depth + 1, by simp [l.depth_eq]⟩

/-- The place above; the root is above itself. -/
def parent (l : Location) : Location :=
  ⟨l.names.dropLast, l.depth - 1, by simp [l.depth_eq]⟩

/-- The last name. -/
def name (l : Location) : Text :=
  l.names.getLast?.getD ""

/-- The names from a place to one that is it or is below it. -/
def below? (l k : Location) : Option (List Text) :=
  if k.names.take l.depth = l.names then some (k.names.drop l.depth) else none

/-- The text of a place, as a path from the root. -/
def path (l : Location) : Text :=
  "/" ++ Text.join "/" l.names

@[simp] theorem names_ofNames (names : List Text) : (ofNames names).names = names := rfl

@[simp] theorem names_root : root.names = [] := rfl

@[simp] theorem names_child (l : Location) (n : Text) :
    (l.child n).names = l.names ++ [n] := rfl

@[simp] theorem names_parent (l : Location) : l.parent.names = l.names.dropLast := rfl

@[simp] theorem parent_child (l : Location) (n : Text) : (l.child n).parent = l := by
  ext1; simp

@[simp] theorem name_child (l : Location) (n : Text) : (l.child n).name = n := by
  simp [name]

/-- The names from a place to a place below it are those that lead on from it. -/
theorem below?_eq_some_iff {l k : Location} {names : List Text} :
    l.below? k = some names ↔ k.names = l.names ++ names := by
  simp only [below?, l.depth_eq]
  constructor
  · intro h
    split at h
    · rename_i e
      cases h
      calc k.names = k.names.take l.names.length ++ k.names.drop l.names.length :=
            (List.take_append_drop _ _).symm
        _ = l.names ++ k.names.drop l.names.length := by rw [e]
    · cases h
  · intro h
    simp [h]

end Location

end ModelBindings
