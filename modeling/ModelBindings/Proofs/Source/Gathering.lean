import ModelBindings.Proofs.Source.ImportBlock
import ModelBindings.Source.Gather

/-!
# Needs gathered on the way

The line that is made step by step and the needs that are gathered on the way are those that
`renderField` and `Needs.absorb` give, also where a fault is met.

* `run_gatherField` : what comes of a field.
* `Adds` : what needs have after a field that used something; `Keeps` : nothing is taken back.
* `gatherField_keeps` : one field, from any needs.
* `gatherAll_keeps` : fields one after another, with and without a fault.
-/

set_option autoImplicit false

namespace ModelBindings.Source

variable {known : List Text} {f : Field} {n n' : Needs}

/-! ## Steps -/

namespace Gather

theorem runOn_bind_ok {α β : Type} {x : Gather α} {n n' : Needs} {a : α}
    (h : x.runOn n = (.ok a, n')) (g : α → Gather β) : runOn (x >>= g) n = (g a).runOn n' := by
  rw [runOn] at h
  rw [runOn, ExceptT.run_bind, StateT.run_bind, h]
  rfl

theorem runOn_bind_error {α β : Type} {x : Gather α} {n n' : Needs} {e : Fault}
    (h : x.runOn n = (.error e, n')) (g : α → Gather β) : runOn (x >>= g) n = (.error e, n') := by
  rw [runOn] at h
  rw [runOn, ExceptT.run_bind, StateT.run_bind, h]
  rfl

end Gather

/-! ## What is gathered -/

theorem absorb_any (n : Needs) :
    n.absorb { Usage.nothing with any := true }
      = { n with imports := n.imports.addTyping "Any" } := by
  simp [Needs.absorb, Needs.absorbImports, Needs.absorbEnum, Needs.absorbRelation, Usage.nothing,
    Imports.addTyping]

theorem absorb_nothing (n : Needs) : n.absorb .nothing = n := by
  simp [Needs.absorb, Needs.absorbImports, Needs.absorbEnum, Needs.absorbRelation, Usage.nothing]

theorem absorb_datetime (n : Needs) :
    n.absorb { Usage.nothing with datetime := true }
      = { n with imports := { n.imports with datetime := true } } := by
  simp [Needs.absorb, Needs.absorbImports, Needs.absorbEnum, Needs.absorbRelation, Usage.nothing]

theorem absorb_decimal (n : Needs) :
    n.absorb { Usage.nothing with decimal := true }
      = { n with imports := { n.imports with decimal := true } } := by
  simp [Needs.absorb, Needs.absorbImports, Needs.absorbEnum, Needs.absorbRelation, Usage.nothing]

theorem absorb_enumName (n : Needs) (e : Text) :
    n.absorb { Usage.nothing with enumName := some e }
      = if n.enums.contains e then n else { n with enums := n.enums ++ [e] } := by
  simp only [Needs.absorb, Needs.absorbImports, Needs.absorbEnum, Needs.absorbRelation,
    Usage.nothing, Bool.or_false, Bool.false_eq_true, if_false]
  split <;> rfl

theorem absorb_relation (n : Needs) (v : Value) :
    n.absorb { Usage.nothing with relation := some v }
      = if n.relations.any v.same then n else { n with relations := n.relations ++ [v] } := by
  simp only [Needs.absorb, Needs.absorbImports, Needs.absorbEnum, Needs.absorbRelation,
    Usage.nothing, Bool.or_false, Bool.false_eq_true, if_false]
  split <;> rfl

theorem run_gatherScalar (f : Field) (n : Needs) :
    (gatherScalar f).runOn n
      = match scalarType f with
        | .error e => (.error e, n)
        | .ok base => (.ok base.text, n.absorb base.usage) := by
  unfold gatherScalar scalarType
  cases ScalarType.ofValue? f.type with
  | error e => rfl
  | ok s =>
    cases s with
    | none => exact congrArg (Prod.mk _) (absorb_any n).symm
    | some s =>
      cases s with
      | dateTime => exact congrArg (Prod.mk _) (absorb_datetime n).symm
      | decimal => exact congrArg (Prod.mk _) (absorb_decimal n).symm
      | json => exact congrArg (Prod.mk _) (absorb_any n).symm
      | string | boolean | int | bigInt | float | bytes =>
        exact congrArg (Prod.mk _) (absorb_nothing n).symm

theorem run_gatherType (known : List Text) (f : Field) (n : Needs) :
    (gatherType known f).runOn n
      = match baseType known f with
        | .error e => (.error e, n)
        | .ok base => (.ok base.text, n.absorb base.usage) := by
  unfold gatherType baseType
  cases f.kind with
  | scalar => exact run_gatherScalar f n
  | enum =>
    unfold enumType
    cases knownEnum? known f.type with
    | error e => rfl
    | ok found =>
      cases found with
      | none => exact congrArg (Prod.mk _) (absorb_nothing n).symm
      | some e => exact congrArg (Prod.mk _) (absorb_enumName n e).symm
  | object => exact congrArg (Prod.mk _) (absorb_relation n f.type).symm
  | unsupported => exact congrArg (Prod.mk _) (absorb_any n).symm

/-- The field call of a line is needed besides what its type uses. -/
theorem run_gatherValue (n : Needs) {u : Usage} (h : u.fieldCall = false) (line : FieldLine) :
    (gatherValue line).runOn (n.absorb u)
      = (.ok line, n.absorb { u with fieldCall := line.hasCall }) := by
  have habsorb : n.absorb { u with fieldCall := line.hasCall }
      = if line.hasCall then
          { n.absorb u with imports := (n.absorb u).imports.addPydantic "Field" }
        else n.absorb u := by
    cases line.hasCall <;> simp [Needs.absorb, Needs.absorbImports, Imports.addPydantic, h]
  rw [habsorb, gatherValue]
  cases line.hasCall <;> rfl

theorem fieldCall_baseType {base : BaseType} (h : baseType known f = .ok base) :
    base.usage.fieldCall = false := by
  unfold baseType scalarType enumType at h
  split at h
  · split at h
    · cases h
    · rename_i s hs
      cases h
      cases s with
      | none => rfl
      | some s => cases s <;> rfl
  · split at h
    · cases h
    · cases h
      rfl
  · cases h
    rfl
  · cases h
    rfl

/-- **What comes of a field**: the line and the needs that are known from the field alone. -/
theorem run_gatherField (known : List Text) (f : Field) (n : Needs) :
    (gatherField known f).runOn n
      = ((renderField known f).line, n.absorb (renderField known f).usage) := by
  have htype := run_gatherType known f n
  unfold gatherField renderField
  cases hb : baseType known f with
  | error e =>
    rw [hb] at htype
    rw [Gather.runOn_bind_error htype, absorb_nothing]
  | ok base =>
    rw [hb] at htype
    rw [Gather.runOn_bind_ok htype]
    have hcall := fieldCall_baseType hb
    -- behind the type only a field call is gathered, so a fault leaves what the type used
    cases defaultPart f with
    | error e => rfl
    | ok p =>
      cases documentationText f.documentation with
      | error e => rfl
      | ok doc =>
        exact run_gatherValue n hcall _

/-! ## What is added -/

/-- A list with one item more, unless there is none to add or it is there already. -/
inductive AddsItem {α : Type} : Option α → List α → List α → Prop where
  | nothing (l : List α) : AddsItem none l l
  | there {a : α} {l : List α} (h : a ∈ l) : AddsItem (some a) l l
  | new {a : α} {l : List α} (h : a ∉ l) : AddsItem (some a) l (l ++ [a])

namespace AddsItem

variable {α : Type} {item : Option α} {l l' : List α}

theorem isPrefix (h : AddsItem item l l') : l <+: l' := by
  cases h with
  | nothing => exact List.prefix_rfl
  | there => exact List.prefix_rfl
  | new => exact List.prefix_append _ _

theorem length_le (h : AddsItem item l l') : l'.length ≤ l.length + 1 := by
  cases h with
  | nothing => exact Nat.le_succ _
  | there => exact Nat.le_succ _
  | new => exact (List.length_append).le

theorem nodup (h : AddsItem item l l') (hl : l.Nodup) : l'.Nodup := by
  cases h with
  | nothing => exact hl
  | there => exact hl
  | new hnew =>
    rw [← List.concat_eq_append]
    exact hl.concat hnew

end AddsItem

theorem addsItem_absorbEnum (names : List Text) (e : Option Text) :
    AddsItem e names (Needs.absorbEnum names e) := by
  cases e with
  | none => exact .nothing names
  | some e =>
    unfold Needs.absorbEnum
    dsimp only
    split
    · rename_i h
      exact .there (List.contains_iff_mem.mp h)
    · rename_i h
      exact .new fun hm => h (List.contains_iff_mem.mpr hm)

/-- A text equals itself alone. -/
theorem same_text_iff {s : Text} {v : Value} : (Value.text s).same v = true ↔ v = .text s := by
  cases v with
  | text t =>
    simp only [Value.same, Value.sameScalar, beq_iff_eq, Value.text.injEq]
    exact eq_comm
  | null | bool _ | int _ | double _ | list _ | object _ =>
    simp [Value.same, Value.sameScalar, Value.toInt?]

theorem addsItem_absorbRelation (models : List Value) {v : Option Value}
    (h : ∀ w, v = some w → ∃ s, w = .text s) :
    AddsItem v models (Needs.absorbRelation models v) := by
  cases v with
  | none => exact .nothing models
  | some w =>
    obtain ⟨s, rfl⟩ := h w rfl
    have hmem : models.any (Value.text s).same = true ↔ .text s ∈ models := by
      simp [List.any_eq_true, same_text_iff]
    unfold Needs.absorbRelation
    dsimp only
    split
    · rename_i hany
      exact .there (hmem.mp hany)
    · rename_i hany
      exact .new fun hm => hany (hmem.mpr hm)

/-- What needs have after a field that used something: its flags and names, its enum and its related
model if they are not there yet, and nothing else. -/
structure Adds (u : Usage) (n n' : Needs) : Prop where
  datetime : n'.imports.datetime = (n.imports.datetime || u.datetime)
  decimal : n'.imports.decimal = (n.imports.decimal || u.decimal)
  enum : n'.imports.enum = n.imports.enum
  typing : ∀ k, k ∈ n'.imports.typing ↔ k ∈ n.imports.typing ∨ u.any = true ∧ k = "Any"
  pydantic : ∀ k,
    k ∈ n'.imports.pydantic ↔ k ∈ n.imports.pydantic ∨ u.fieldCall = true ∧ k = "Field"
  enums : AddsItem u.enumName n.enums n'.enums
  relations : AddsItem u.relation n.relations n'.relations

theorem mem_insert_if {wanted : Bool} {name k : Text} {names : NameSet} :
    k ∈ (if wanted then NameSet.insert name names else names) ↔
      k ∈ names ∨ wanted = true ∧ k = name := by
  cases wanted <;> simp [NameSet.mem_insert, or_comm]

theorem adds_absorb (n : Needs) {u : Usage} (h : ∀ w, u.relation = some w → ∃ s, w = .text s) :
    Adds u n (n.absorb u) where
  datetime := rfl
  decimal := rfl
  enum := rfl
  typing _ := mem_insert_if
  pydantic _ := mem_insert_if
  enums := addsItem_absorbEnum n.enums u.enumName
  relations := addsItem_absorbRelation n.relations h

/-- Nothing is taken back: flags stay set and names stay imported, and the lists of enums and
related models only get longer at their ends, each of them without duplicates if it was. -/
structure Keeps (n n' : Needs) : Prop where
  datetime : n.imports.datetime = true → n'.imports.datetime = true
  decimal : n.imports.decimal = true → n'.imports.decimal = true
  enum : n.imports.enum = true → n'.imports.enum = true
  typing : ∀ k ∈ n.imports.typing, k ∈ n'.imports.typing
  pydantic : ∀ k ∈ n.imports.pydantic, k ∈ n'.imports.pydantic
  enums : n.enums <+: n'.enums
  relations : n.relations <+: n'.relations
  nodup_enums : n.enums.Nodup → n'.enums.Nodup
  nodup_relations : n.relations.Nodup → n'.relations.Nodup

namespace Keeps

variable {n n' n'' : Needs}

theorem refl (n : Needs) : Keeps n n :=
  ⟨id, id, id, fun _ => id, fun _ => id, List.prefix_rfl, List.prefix_rfl, id, id⟩

theorem trans (h : Keeps n n') (h' : Keeps n' n'') : Keeps n n'' where
  datetime hn := h'.datetime (h.datetime hn)
  decimal hn := h'.decimal (h.decimal hn)
  enum hn := h'.enum (h.enum hn)
  typing k hk := h'.typing k (h.typing k hk)
  pydantic k hk := h'.pydantic k (h.pydantic k hk)
  enums := h.enums.trans h'.enums
  relations := h.relations.trans h'.relations
  nodup_enums hn := h'.nodup_enums (h.nodup_enums hn)
  nodup_relations hn := h'.nodup_relations (h.nodup_relations hn)

end Keeps

theorem Adds.keeps {u : Usage} (h : Adds u n n') : Keeps n n' where
  datetime hn := by rw [h.datetime, hn, Bool.true_or]
  decimal hn := by rw [h.decimal, hn, Bool.true_or]
  enum hn := by rw [h.enum, hn]
  typing k hk := (h.typing k).mpr (.inl hk)
  pydantic k hk := (h.pydantic k).mpr (.inl hk)
  enums := h.enums.isPrefix
  relations := h.relations.isPrefix
  nodup_enums := h.enums.nodup
  nodup_relations := h.relations.nodup

/-! ## Fields -/

/-- The related model of a field is its type. -/
theorem relation_renderField (known : List Text) {s : Text} (hf : f.type = .text s) {v : Value}
    (h : (renderField known f).usage.relation = some v) : v = .text s := by
  unfold renderField at h
  cases hb : baseType known f with
  | error e =>
    rw [hb] at h
    cases h
  | ok base =>
    -- default and documentation do not count, and neither do their faults
    have hbase : base.usage.relation = some v := by
      rw [hb] at h
      dsimp only at h
      split at h
      · exact h
      · split at h
        · exact h
        · exact h
    rw [usage_of_baseType hf hb] at hbase
    dsimp only at hbase
    split at hbase
    · cases hbase
      exact hf
    · cases hbase

/-- The needs behind a field have what it uses besides. -/
theorem adds_renderField (known : List Text) (hf : ∃ s, f.type = .text s) (n : Needs) :
    Adds (renderField known f).usage n (n.absorb (renderField known f).usage) := by
  obtain ⟨s, hs⟩ := hf
  exact adds_absorb n fun v hv => ⟨s, relation_renderField known hs hv⟩

/-- **A field adds to any needs what it uses, and takes nothing back**, with a line and with a
fault. What it uses, and its line or fault, do not depend on the needs. -/
theorem gatherField_keeps (known : List Text) {f : Field} (hf : ∃ s, f.type = .text s)
    (n : Needs) :
    ∃ n', (gatherField known f).runOn n = ((renderField known f).line, n') ∧
      n' = n.absorb (renderField known f).usage ∧ Adds (renderField known f).usage n n' ∧
      Keeps n n' ∧ n'.enums.length ≤ n.enums.length + 1 ∧
      n'.relations.length ≤ n.relations.length + 1 := by
  have hadds := adds_renderField known hf n
  exact ⟨_, run_gatherField known f n, rfl, hadds, hadds.keeps, hadds.enums.length_le,
    hadds.relations.length_le⟩

/-- A field that refers to a model, with a number as its documentation. -/
def numbered : Field :=
  { requiredField "owner" .object "User" with documentation := .int 5 }

/-- The field meets a fault, but its model stays. -/
theorem numbered_keeps :
    ∃ n', (gatherField [] numbered).runOn .initial
        = (.error (.value (.lacks (.int 5) "replace")), n') ∧
      n'.relations = [.text "User"] ∧ Keeps .initial n' := by
  obtain ⟨n', hrun, rfl, -, hkeeps, -⟩ :=
    gatherField_keeps [] (f := numbered) ⟨"User", rfl⟩ .initial
  exact ⟨_, hrun, rfl, hkeeps⟩

/-! ## Fields one after another -/

/-- **Fields one after another take nothing back**, with and without a fault among them. -/
theorem gatherAll_keeps {fields : List (List Text × Field)}
    (h : ∀ p ∈ fields, ∃ s, p.2.type = .text s) (n : Needs) : Keeps n (gatherAll fields n) := by
  unfold gatherAll
  induction fields generalizing n with
  | nil => exact .refl n
  | cons p r ih =>
    have hadds := adds_renderField p.1 (h p List.mem_cons_self) n
    -- with a line or with a fault, the needs behind the field are those that it adds to
    rw [List.foldl_cons, run_gatherField]
    exact hadds.keeps.trans (ih (fun q hq => h q (List.mem_cons_of_mem p hq)) _)

/-- The needs of a module are those gathered from its fields. -/
theorem needs_renderFields {fs : List Field} {rendered : RenderedFields}
    (h : (renderFields known n fs).result = .ok rendered) :
    rendered.needs = gatherAll (fs.map (known, ·)) n := by
  obtain ⟨ls, -, rfl⟩ := result_renderFields h
  unfold gatherAll
  rw [List.foldl_map]
  simp only [run_gatherField]

end ModelBindings.Source
