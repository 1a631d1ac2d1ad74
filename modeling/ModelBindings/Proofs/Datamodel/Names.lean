import ModelBindings.Datamodel
import ModelBindings.Text.Identifier

/-!
# Data models whose names are identifiers

* `Datamodel.IsNamed` : all names of a data model are identifiers, and so are the types that name
  enums and models; the other types are texts.
-/

set_option autoImplicit false

namespace ModelBindings

/-- The text is an identifier; a reserved word is one as well. -/
def IsName (s : Text) : Prop :=
  Text.isIdentifier s.toList = true

instance (s : Text) : Decidable (IsName s) :=
  inferInstanceAs (Decidable (_ = true))

/-- The type of a field names an enum or a model. -/
def Field.namesType (f : Field) : Prop :=
  f.kind = .enum ∨ f.kind = .object

/-- The name of a field is an identifier, and so is a type that names an enum or a model. -/
structure Field.IsNamed (f : Field) : Prop where
  name : IsName f.name
  type : ∃ s, f.type = .text s ∧ (f.namesType → IsName s)

/-- The names of a data model are identifiers. -/
structure Datamodel.IsNamed (d : Datamodel) : Prop where
  enums : ∀ e ∈ d.enums, IsName e.name ∧ ∀ v ∈ e.values, IsName v.name
  models : ∀ m ∈ d.models, IsName m.name ∧ ∀ f ∈ m.fields, f.IsNamed

theorem Datamodel.IsNamed.of_mem_enumNames {d : Datamodel} (h : d.IsNamed) {n : Text}
    (hn : n ∈ d.enumNames) : IsName n := by
  obtain ⟨e, he, rfl⟩ := List.mem_map.mp hn
  exact (h.enums e he).1

end ModelBindings
