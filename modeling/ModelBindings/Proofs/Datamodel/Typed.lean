import ModelBindings.Datamodel

/-!
# Data models whose types are texts

* `Datamodel.IsTyped` : the types of fields are texts, and documentations are texts or missing.
-/

set_option autoImplicit false

namespace ModelBindings

/-- The value is null or a text. -/
def Value.IsOptionalText (v : Value) : Prop :=
  v = .null ∨ ∃ s, v = .text s

/-- The type of a field is a text, and its documentation is a text or missing. -/
structure Field.IsTyped (f : Field) : Prop where
  type : ∃ s, f.type = .text s
  documentation : f.documentation.IsOptionalText

/-- The fields of a model have texts as types, and documentations are texts or missing. -/
structure Model.IsTyped (m : Model) : Prop where
  fields : ∀ f ∈ m.fields, f.IsTyped
  documentation : m.documentation.IsOptionalText

/-- Types are texts, and documentations are texts or missing. -/
structure Datamodel.IsTyped (d : Datamodel) : Prop where
  enums : ∀ e ∈ d.enums, e.documentation.IsOptionalText
  models : ∀ m ∈ d.models, m.IsTyped

end ModelBindings
