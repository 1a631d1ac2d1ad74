import ModelBindings.Datamodel.Reader

/-!
# The format of a document

What a document has to be to hold a data model, said twice: as a whole, and requirement by
requirement in the order in which a reader comes to them. Enums stand before models, and what an
entry holds stands before the next entry.

* `IsDocument` : the format as a whole.
* `requirements` : the requirements of a document in order; `requirements_met_iff` : a document
  that meets them all is one of the format.
* `Requirement.IsFirstBroken` : the first requirement that is not met.
-/

set_option autoImplicit false

namespace ModelBindings

/-! ## Entries -/

namespace Value

/-- The value counts as absent, or it is a list. -/
def IsListOrAbsent (v : Value) : Prop :=
  v.isTruthy = false ∨ ∃ items, v = .list items

/-- The value counts as absent, or it has items: those of a list, the characters of a text, the
names of an object. -/
def IsIterableOrAbsent (v : Value) : Prop :=
  v.isTruthy = false ∨ (∃ items, v = .list items) ∨ (∃ s, v = .text s) ∨ ∃ ms, v = .object ms

/-- The value is an object whose name is a text that is not empty. -/
def IsNamedEntry (v : Value) : Prop :=
  ∃ ms s, v = .object ms ∧ Association.get? ("name" : Text) ms = some (.text s) ∧ s ≠ ""

/-- The name of an entry; empty where there is none. -/
def nameText (entry : Value) : Text :=
  match entry.memberD "name" .null with
  | .text s => s
  | _ => ""

/-- The entries listed in a member; there are none where it is no list. -/
def entries (node : Value) (key : Text) : List Value :=
  match node.memberD key .null with
  | .list items => items
  | _ => []

/-- A member is a list of such entries, or it counts as absent. -/
structure HasEntries (IsEntry : Value → Prop) (node : Value) (key : Text) : Prop where
  isList : (node.memberD key .null).IsListOrAbsent
  forall_entries : ∀ e ∈ node.entries key, IsEntry e

/-- The default of a field, where there is one. -/
def defaultNode (field : Value) : Value :=
  field.memberD "default" .null

/-- An enum: a name, and values with names. -/
structure IsEnumEntry (e : Value) : Prop where
  named : e.IsNamedEntry
  values : e.HasEntries IsNamedEntry "values"

/-- A field: a name, and items where items are taken. -/
structure IsFieldEntry (e : Value) : Prop where
  named : e.IsNamedEntry
  args : (e.defaultNode.member? "name").isSome = true →
    (e.defaultNode.memberD "args" .null).IsIterableOrAbsent
  relationFrom : (e.memberD "relationFromFields" .null).IsIterableOrAbsent
  relationTo : (e.memberD "relationToFields" .null).IsIterableOrAbsent

/-- A model: a name, and fields. -/
structure IsModelEntry (e : Value) : Prop where
  named : e.IsNamedEntry
  fields : e.HasEntries IsFieldEntry "fields"

/-- What holds the lists of a document: its member `datamodel`, or the document itself. -/
def listHolder (data : Value) : Value :=
  data.memberD "datamodel" data

/-- The value is an object with a list of models or of enums. -/
def HoldsLists (v : Value) : Prop :=
  ∃ ms, v = .object ms ∧
    ((Association.get? ("models" : Text) ms).isSome = true ∨
      (Association.get? ("enums" : Text) ms).isSome = true)

end Value

open Value

/-- A document that holds a data model. -/
structure IsDocument (data : Value) : Prop where
  isObject : ∃ ms, data = .object ms
  holdsLists : data.listHolder.HoldsLists
  enums : data.listHolder.HasEntries IsEnumEntry "enums"
  models : data.listHolder.HasEntries IsModelEntry "models"

/-! ## Requirements one by one -/

/-- What a document is required to be at one place. The texts say where, as faults do. -/
inductive Requirement where
  | isObject (v : Value)
  | holdsLists (v : Value)
  | isList (place key : Text) (v : Value)
  | isNamed (place : Text) (entry : Value)
  | isIterable (v : Value)

namespace Requirement

/-- The requirement is met. -/
def IsMet : Requirement → Prop
  | .isObject v => ∃ ms, v = .object ms
  | .holdsLists v => v.HoldsLists
  | .isList _ _ v => v.IsListOrAbsent
  | .isNamed _ entry => entry.IsNamedEntry
  | .isIterable v => v.IsIterableOrAbsent

/-- The fault of a document that does not meet the requirement. -/
def fault : Requirement → Fault
  | .isObject v => .schema (.notObject v)
  | .holdsLists _ => .schema .noDatamodel
  | .isList place key v => .schema (.notList place key v)
  | .isNamed place entry =>
    let name := entry.memberD "name" .null
    .schema (if name.isTruthy then .nameNotText place name else .unnamed place)
  | .isIterable v => .value (.notIterable v)

/-- The first requirement that is not met. -/
def IsFirstBroken (r : Requirement) (rs : List Requirement) : Prop :=
  ∃ before after, rs = before ++ r :: after ∧ (∀ k ∈ before, k.IsMet) ∧ ¬ r.IsMet

/-- A broken requirement is a fault of the document, or of a value that has no items. -/
theorem kind_fault (r : Requirement) :
    (∃ v, r = .isIterable v) ∧ r.fault.kind = "TypeError" ∨
      (∀ v, r ≠ .isIterable v) ∧ r.fault.kind = "SchemaParseError" := by
  cases r with
  | isIterable v => exact .inl ⟨⟨v, rfl⟩, rfl⟩
  | _ => exact .inr ⟨nofun, rfl⟩

end Requirement

open Requirement

/-- The requirements of an enum. -/
def enumRequirements (e : Value) : List Requirement :=
  [.isNamed "enum" e, .isList ("enum " ++ e.nameText) "values" (e.memberD "values" .null)]
    ++ (e.entries "values").map (.isNamed ("value of enum " ++ e.nameText))

/-- The requirements of a default: one with a name takes arguments. -/
def defaultRequirements (v : Value) : List Requirement :=
  if (v.member? "name").isSome then [.isIterable (v.memberD "args" .null)] else []

/-- The requirements of a field of the model named. -/
def fieldRequirements (modelName : Text) (e : Value) : List Requirement :=
  [.isNamed ("field of model " ++ modelName) e] ++ defaultRequirements e.defaultNode
    ++ [.isIterable (e.memberD "relationFromFields" .null),
      .isIterable (e.memberD "relationToFields" .null)]

/-- The requirements of a model. -/
def modelRequirements (e : Value) : List Requirement :=
  [.isNamed "model" e, .isList ("model " ++ e.nameText) "fields" (e.memberD "fields" .null)]
    ++ (e.entries "fields").flatMap (fieldRequirements e.nameText)

/-- The requirements of a document, in the order of reading. -/
def requirements (data : Value) : List Requirement :=
  let node := data.listHolder
  [.isObject data, .holdsLists node, .isList "datamodel" "enums" (node.memberD "enums" .null)]
    ++ (node.entries "enums").flatMap enumRequirements
    ++ [.isList "datamodel" "models" (node.memberD "models" .null)]
    ++ (node.entries "models").flatMap modelRequirements

/-! ## Both ways of saying it -/

theorem enumRequirements_met_iff (e : Value) :
    (∀ r ∈ enumRequirements e, r.IsMet) ↔ e.IsEnumEntry := by
  simp only [enumRequirements, List.forall_mem_append, List.forall_mem_cons, List.forall_mem_map]
  constructor
  · rintro ⟨⟨hnamed, hlist, -⟩, hvalues⟩
    exact ⟨hnamed, hlist, hvalues⟩
  · rintro ⟨hnamed, hlist, hvalues⟩
    exact ⟨⟨hnamed, hlist, List.forall_mem_nil _⟩, hvalues⟩

theorem defaultRequirements_met_iff (v : Value) :
    (∀ r ∈ defaultRequirements v, r.IsMet) ↔
      ((v.member? "name").isSome = true → (v.memberD "args" .null).IsIterableOrAbsent) := by
  unfold defaultRequirements
  split
  · rename_i h
    simp [h, IsMet]
  · rename_i h
    simp [h]

theorem fieldRequirements_met_iff (modelName : Text) (e : Value) :
    (∀ r ∈ fieldRequirements modelName e, r.IsMet) ↔ e.IsFieldEntry := by
  simp only [fieldRequirements, List.forall_mem_append, List.forall_mem_cons,
    defaultRequirements_met_iff]
  constructor
  · rintro ⟨⟨⟨hnamed, -⟩, hargs⟩, hfrom, hto, -⟩
    exact ⟨hnamed, hargs, hfrom, hto⟩
  · rintro ⟨hnamed, hargs, hfrom, hto⟩
    exact ⟨⟨⟨hnamed, List.forall_mem_nil _⟩, hargs⟩, hfrom, hto, List.forall_mem_nil _⟩

/-- The requirements of entries, entry by entry. -/
theorem forall_mem_flatMap_iff {es : List Value} {rs : Value → List Requirement}
    {IsEntry : Value → Prop} (h : ∀ e, (∀ r ∈ rs e, r.IsMet) ↔ IsEntry e) :
    (∀ r ∈ es.flatMap rs, r.IsMet) ↔ ∀ e ∈ es, IsEntry e := by
  simp only [List.mem_flatMap, forall_exists_index, and_imp]
  constructor
  · intro hall e he
    exact (h e).mp fun r hr => hall r e he hr
  · intro hall r e he hr
    exact (h e).mpr (hall e he) r hr

theorem modelRequirements_met_iff (e : Value) :
    (∀ r ∈ modelRequirements e, r.IsMet) ↔ e.IsModelEntry := by
  simp only [modelRequirements, List.forall_mem_append, List.forall_mem_cons,
    forall_mem_flatMap_iff (fieldRequirements_met_iff e.nameText)]
  constructor
  · rintro ⟨⟨hnamed, hlist, -⟩, hfields⟩
    exact ⟨hnamed, hlist, hfields⟩
  · rintro ⟨hnamed, hlist, hfields⟩
    exact ⟨⟨hnamed, hlist, List.forall_mem_nil _⟩, hfields⟩

/-- **A document is one of the format when it meets every requirement.** -/
theorem requirements_met_iff (data : Value) :
    (∀ r ∈ requirements data, r.IsMet) ↔ IsDocument data := by
  simp only [requirements, List.forall_mem_append, List.forall_mem_cons,
    forall_mem_flatMap_iff enumRequirements_met_iff,
    forall_mem_flatMap_iff modelRequirements_met_iff]
  constructor
  · rintro ⟨⟨⟨⟨hobject, hholds, henums, -⟩, henum⟩, hmodels, -⟩, hmodel⟩
    exact ⟨hobject, hholds, ⟨henums, henum⟩, ⟨hmodels, hmodel⟩⟩
  · rintro ⟨hobject, hholds, ⟨henums, henum⟩, ⟨hmodels, hmodel⟩⟩
    exact ⟨⟨⟨⟨hobject, hholds, henums, List.forall_mem_nil _⟩, henum⟩,
      hmodels, List.forall_mem_nil _⟩, hmodel⟩

end ModelBindings
