import ModelBindings.Proofs.Datamodel.Format
import ModelBindings.Proofs.Outcome
import ModelBindings.Proofs.Value

/-!
# Reading keeps to the format

Each reader makes its requirements in order. Where they are met it gives what it is to give, else
it stops with the fault of the first that is broken.

* `Follows` : a reader keeps to requirements; `Follows.bind` and `Follows.mapM` put readers
  together.
* `read_document` : a document of the format is read, with one node for each entry and its name;
  any other is refused for the first requirement that it breaks.
-/

set_option autoImplicit false

namespace ModelBindings

open Value Requirement

variable {α β γ : Type}

/-! ## Readers one after another -/

/-- The reader gives a result of the kind where the requirements are met, else the fault of the
first that is broken. -/
def Follows (rs : List Requirement) (P : α → Prop) : Except Fault α → Prop
  | .ok a => (∀ r ∈ rs, r.IsMet) ∧ P a
  | .error f => ∃ r : Requirement, r.IsFirstBroken rs ∧ f = r.fault

namespace Requirement.IsFirstBroken

variable {r : Requirement} {rs ks : List Requirement}

theorem append_right (h : r.IsFirstBroken rs) : r.IsFirstBroken (rs ++ ks) := by
  obtain ⟨before, after, rfl, hbefore, hr⟩ := h
  exact ⟨before, after ++ ks, by simp, hbefore, hr⟩

/-- Requirements that are met may stand in front. -/
theorem prepend (hks : ∀ k ∈ ks, k.IsMet) (h : r.IsFirstBroken rs) :
    r.IsFirstBroken (ks ++ rs) := by
  obtain ⟨before, after, rfl, hbefore, hr⟩ := h
  refine ⟨ks ++ before, after, by simp, ?_, hr⟩
  exact List.forall_mem_append.mpr ⟨hks, hbefore⟩

theorem singleton (h : ¬ r.IsMet) : r.IsFirstBroken [r] :=
  ⟨[], [], rfl, List.forall_mem_nil _, h⟩

/-- Not all are met. -/
theorem not_forall (h : r.IsFirstBroken rs) : ¬ ∀ k ∈ rs, k.IsMet := by
  obtain ⟨before, after, rfl, -, hr⟩ := h
  exact fun hall => hr (hall r (by simp))

end Requirement.IsFirstBroken

namespace Follows

variable {rs ks : List Requirement} {P : α → Prop} {Q : β → Prop}

theorem pure {a : α} (h : P a) : Follows [] P (.ok a) :=
  ⟨List.forall_mem_nil _, h⟩

/-- A single requirement, checked at once. -/
theorem check {r : Requirement} {x : Except Fault α}
    (h : r.IsMet ∧ (∃ a, x = .ok a ∧ P a) ∨ ¬ r.IsMet ∧ x = .error r.fault) :
    Follows [r] P x := by
  rcases h with ⟨hr, a, rfl, ha⟩ | ⟨hr, rfl⟩
  · exact ⟨by simpa using hr, ha⟩
  · exact ⟨r, .singleton hr, rfl⟩

/-- The requirements of a second reader come behind those of the first. -/
theorem bind {x : Except Fault α} {f : α → Except Fault β} (hx : Follows rs P x)
    (hf : ∀ a, P a → Follows ks Q (f a)) : Follows (rs ++ ks) Q (x >>= f) := by
  cases x with
  | error e =>
    obtain ⟨r, hr, rfl⟩ := hx
    exact ⟨r, hr.append_right, rfl⟩
  | ok a =>
    obtain ⟨hrs, ha⟩ := hx
    have hnext := hf a ha
    show Follows (rs ++ ks) Q (f a)
    cases hfa : f a with
    | error e =>
      rw [hfa] at hnext
      obtain ⟨r, hr, rfl⟩ := hnext
      exact ⟨r, hr.prepend hrs, rfl⟩
    | ok b =>
      rw [hfa] at hnext
      obtain ⟨hks, hb⟩ := hnext
      exact ⟨List.forall_mem_append.mpr ⟨hrs, hks⟩, hb⟩

/-- A result made from that of a reader. -/
theorem give {x : Except Fault α} {f : α → β} (hx : Follows rs P x)
    (hf : ∀ a, P a → Q (f a)) : Follows rs Q (x >>= fun a => .ok (f a)) := by
  rw [← List.append_nil rs]
  exact hx.bind fun a ha => .pure (hf a ha)

/-- **Readers of entries, entry by entry.** What is seen of a node is what is seen of its entry. -/
theorem mapM {read : γ → Except Fault α} {rs : γ → List Requirement} {seen : α → β}
    {expected : γ → β} (h : ∀ e, Follows (rs e) (fun a => seen a = expected e) (read e))
    (es : List γ) :
    Follows (es.flatMap rs) (fun as => as.map seen = es.map expected) (es.mapM read) := by
  induction es with
  | nil => exact .pure rfl
  | cons e r ih =>
    rw [List.flatMap_cons, List.mapM_cons]
    refine (h e).bind fun a ha => ?_
    refine ih.give fun as has => ?_
    rw [List.map_cons, List.map_cons, ha, has]

end Follows

/-! ## Parts of entries -/

theorem isNamedEntry_iff (node : Value) :
    node.IsNamedEntry ↔ ∃ s, node.memberD "name" .null = .text s ∧ s ≠ "" := by
  constructor
  · rintro ⟨ms, s, rfl, hget, hs⟩
    exact ⟨s, memberD_of_get hget .null, hs⟩
  · rintro ⟨s, hname, hs⟩
    obtain ⟨ms, rfl⟩ := object_of_memberD_text hname
    refine ⟨ms, s, rfl, ?_, hs⟩
    change (Association.get? ("name" : Text) ms).getD .null = .text s at hname
    cases hget : Association.get? ("name" : Text) ms with
    | none =>
      rw [hget] at hname
      cases hname
    | some v =>
      rw [hget] at hname
      exact congrArg some hname

theorem follows_entryName (node : Value) (place : Text) :
    Follows [.isNamed place node] (· = node.nameText) (node.entryName place) := by
  apply Follows.check
  simp only [IsMet, fault, isNamedEntry_iff, entryName, nameText]
  generalize node.memberD "name" .null = name
  cases name with
  | text s =>
    by_cases hs : s = ""
    · subst hs
      exact .inr ⟨by simp, rfl⟩
    · exact .inl ⟨⟨s, rfl, hs⟩, s, if_neg hs, rfl⟩
  | _ => exact .inr ⟨by simp, by dsimp only; split <;> rfl⟩

theorem follows_listMember (node : Value) (key place : Text) :
    Follows [.isList place key (node.memberD key .null)] (· = node.entries key)
      (node.listMember key place) := by
  apply Follows.check
  simp only [IsMet, fault, IsListOrAbsent, listMember, entries]
  generalize node.memberD key .null = v
  by_cases hv : v.isTruthy = true
  · cases v with
    | list items => exact .inl ⟨.inr ⟨items, rfl⟩, items, rfl, rfl⟩
    | _ => exact .inr ⟨by simp [hv], if_pos hv⟩
  · have habsent : v.isTruthy = false := by simpa using hv
    cases v with
    | list items => exact .inl ⟨.inl habsent, items, rfl, rfl⟩
    | _ => exact .inl ⟨.inl habsent, [], if_neg hv, rfl⟩

theorem follows_iterated (v : Value) :
    Follows [.isIterable v] (fun _ => True) v.iterated := by
  apply Follows.check
  simp only [IsMet, fault, IsIterableOrAbsent, iterated, and_true]
  by_cases hv : v.isTruthy = true
  · rw [if_pos hv]
    cases v with
    | list items => exact .inl ⟨.inr (.inl ⟨items, rfl⟩), items, rfl⟩
    | text s => exact .inl ⟨.inr (.inr (.inl ⟨s, rfl⟩)), _, rfl⟩
    | object ms => exact .inl ⟨.inr (.inr (.inr ⟨ms, rfl⟩)), _, rfl⟩
    | _ => exact .inr ⟨by simp [hv], rfl⟩
  · exact .inl ⟨.inl (by simpa using hv), [], if_neg hv⟩

theorem follows_root (data : Value) :
    Follows [.isObject data, .holdsLists data.listHolder] (· = data.listHolder)
      (Datamodel.root data) := by
  cases data with
  | object ms =>
    have hobject : ∀ r ∈ [Requirement.isObject (.object ms)], r.IsMet := by simp [IsMet]
    have hholds : Follows [.holdsLists (Value.object ms).listHolder]
        (· = (Value.object ms).listHolder) (Datamodel.root (.object ms)) := by
      apply Follows.check
      rw [Datamodel.root, show (Association.get? ("datamodel" : Text) ms).getD (.object ms)
        = (Value.object ms).listHolder from rfl]
      generalize (Value.object ms).listHolder = holder
      simp only [IsMet, HoldsLists, fault]
      cases holder with
      | object inner =>
        by_cases hlists : ((Association.get? ("models" : Text) inner).isSome
            || (Association.get? ("enums" : Text) inner).isSome) = true
        · exact .inl ⟨⟨inner, rfl, by simpa using hlists⟩, _, if_pos hlists, rfl⟩
        · exact .inr ⟨by simpa using hlists, if_neg hlists⟩
      | _ => exact .inr ⟨by simp, rfl⟩
    have hfirst : Follows [.isObject (.object ms)] (fun _ => True) (.ok ()) := ⟨hobject, trivial⟩
    exact hfirst.bind fun _ _ => hholds
  | _ => exact ⟨_, ⟨[], _, rfl, List.forall_mem_nil _, by simp [IsMet]⟩, rfl⟩

/-! ## Entries -/

theorem follows_default (v : Value) :
    Follows (defaultRequirements v) (fun _ => True) (Default.read v) := by
  unfold defaultRequirements Default.read
  cases v.member? "name" with
  | none => exact .pure trivial
  | some name => exact (follows_iterated _).give fun _ _ => trivial

theorem follows_enumValue (enumName : Text) (e : Value) :
    Follows [.isNamed ("value of enum " ++ enumName) e] (·.name = e.nameText)
      (EnumValue.read enumName e) :=
  (follows_entryName e _).give fun _ hname => hname

/-- The name of an enum and those of its values. -/
def Enum.names (e : Enum) : Text × List Text :=
  (e.name, e.values.map (·.name))

/-- The name of an entry and those of the entries that it lists. -/
def Value.namesWith (key : Text) (e : Value) : Text × List Text :=
  (e.nameText, (e.entries key).map nameText)

theorem follows_enum (e : Value) :
    Follows (enumRequirements e) (·.names = e.namesWith "values") (Enum.read e) := by
  refine (follows_entryName e "enum").bind fun name hname => ?_
  subst hname
  refine (follows_listMember e "values" _).bind fun nodes hnodes => ?_
  subst hnodes
  rw [List.map_eq_flatMap]
  refine (Follows.mapM (follows_enumValue e.nameText) _).give fun values hvalues => ?_
  exact congrArg (Prod.mk e.nameText) hvalues

theorem follows_readRest (name : Text) (kind : FieldKind) (e : Value) :
    Follows (defaultRequirements e.defaultNode
        ++ [Requirement.isIterable (e.memberD "relationFromFields" .null),
          .isIterable (e.memberD "relationToFields" .null)])
      (·.name = name) (Field.readRest name kind e) := by
  refine (follows_default e.defaultNode).bind fun default _ => ?_
  refine (follows_iterated (e.memberD "relationFromFields" .null)).bind fun from' _ => ?_
  exact (follows_iterated (e.memberD "relationToFields" .null)).give fun _ _ => rfl

theorem follows_field (modelName : Text) (e : Value) :
    Follows (fieldRequirements modelName e) (·.name = e.nameText)
      (Field.read modelName e).result := by
  have hread : (Field.read modelName e).result
      = e.entryName ("field of model " ++ modelName) >>= fun name =>
        Field.readRest name
          (FieldKind.read modelName name (e.memberD "kind" (.text "scalar"))).1 e := by
    unfold Field.read
    cases e.entryName ("field of model " ++ modelName) <;> rfl
  rw [hread, fieldRequirements, List.append_assoc]
  refine (follows_entryName e _).bind fun name hname => ?_
  subst hname
  exact follows_readRest _ _ e

/-- The name of a model and those of its fields. -/
def Model.names (m : Model) : Text × List Text :=
  (m.name, m.fields.map (·.name))

theorem follows_model (e : Value) :
    Follows (modelRequirements e) (·.names = e.namesWith "fields") (Model.read e).result := by
  unfold Model.read
  simp only [Traced.result_bind, Traced.result_collect]
  refine (follows_entryName e "model").bind fun name hname => ?_
  subst hname
  refine (follows_listMember e "fields" _).bind fun nodes hnodes => ?_
  subst hnodes
  refine (Follows.mapM (follows_field e.nameText) _).give fun fields hfields => ?_
  exact congrArg (Prod.mk e.nameText) hfields

/-! ## Documents -/

/-- The names that a document shows: of its enums with their values, and of its models with their
fields. -/
structure Shows (d : Datamodel) (data : Value) : Prop where
  enums : d.enums.map (·.names) = (data.listHolder.entries "enums").map (namesWith "values")
  models : d.models.map (·.names) = (data.listHolder.entries "models").map (namesWith "fields")

theorem follows_read (data : Value) :
    Follows (requirements data) (Shows · data) (Datamodel.read data).result := by
  unfold Datamodel.read
  simp only [Traced.result_bind, Traced.result_collect]
  unfold requirements
  simp only [List.append_assoc]
  refine (follows_root data).bind fun node hnode => ?_
  subst hnode
  refine (follows_listMember _ "enums" "datamodel").bind fun enumNodes henumNodes => ?_
  subst henumNodes
  refine (Follows.mapM follows_enum _).bind fun enums henums => ?_
  refine (follows_listMember _ "models" "datamodel").bind fun modelNodes hmodelNodes => ?_
  subst hmodelNodes
  exact (Follows.mapM follows_model _).give fun models hmodels => ⟨henums, hmodels⟩

/-- **A document of the format is read, and any other is refused for the first requirement that it
breaks.** -/
theorem read_document (data : Value) :
    match (Datamodel.read data).result with
    | .ok d => IsDocument data ∧ Shows d data
    | .error f => ¬ IsDocument data ∧ ∃ r : Requirement, r.IsFirstBroken (requirements data) ∧
        f = r.fault ∧
        ((∃ v, r = .isIterable v) ∧ f.kind = "TypeError" ∨
          (∀ v, r ≠ .isIterable v) ∧ f.kind = "SchemaParseError") := by
  have hread := follows_read data
  cases h : (Datamodel.read data).result with
  | ok d =>
    rw [h] at hread
    exact ⟨(requirements_met_iff data).mp hread.1, hread.2⟩
  | error f =>
    rw [h] at hread
    obtain ⟨r, hr, rfl⟩ := hread
    exact ⟨fun hdata => hr.not_forall ((requirements_met_iff data).mpr hdata), r, hr, rfl,
      r.kind_fault⟩

end ModelBindings
