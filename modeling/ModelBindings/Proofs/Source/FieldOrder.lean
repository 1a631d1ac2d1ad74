import ModelBindings.Proofs.Source.Binding

/-!
# The order of fields

A field is rendered while the module gathers what the fields in front of it need. No line depends
on what was gathered, and what is gathered depends on the order in one place: enums are imported in
the order of first use.

* `usedEnums_perm` : the same enums are used in another order.
* `filterMap_of_lines`, `map_of_lines` : lines are those of the fields, one by one.
* `modelFile_perm` : the module of a model with its fields in another order.
-/

set_option autoImplicit false

namespace ModelBindings.Source

open Text (closed)

variable {known : List Text} {fs gs : List Field} {ls : List FieldLine}

/-! ## What fields use in any order -/

/-- The same enums are used, perhaps in another order. -/
theorem usedEnums_perm (h : fs.Perm gs) : (usedEnums known fs).Perm (usedEnums known gs) := by
  unfold usedEnums
  rw [List.perm_ext_iff_of_nodup (nodup_eraseDups _) (nodup_eraseDups _)]
  intro e
  rw [List.mem_eraseDups, List.mem_eraseDups]
  exact (h.filterMap _).mem_iff

/-! ## Lines of fields -/

/-- The line of a field, as far as it has one. -/
def lineOf? (known : List Text) (f : Field) : Option FieldLine :=
  (renderField known f).line.toOption

/-- The text of the line of a field, empty without one. -/
def lineText (known : List Text) (f : Field) : Text :=
  ((lineOf? known f).map (·.text)).getD ""

theorem lineOf?_eq_some {f : Field} {l : FieldLine} (h : (renderField known f).line = .ok l) :
    lineOf? known f = some l := by
  rw [lineOf?, h]
  rfl

/-- The lines are those of the fields. -/
theorem filterMap_of_lines (h : fs.map (fun f => (renderField known f).line) = ls.map .ok) :
    fs.filterMap (lineOf? known) = ls := by
  have hlines := congrArg (List.filterMap Except.toOption) h
  rw [List.filterMap_map, List.filterMap_map] at hlines
  exact hlines.trans List.filterMap_some

theorem map_of_lines (h : fs.map (fun f => (renderField known f).line) = ls.map .ok) :
    ls.map (·.text) = fs.map (lineText known) := by
  have htexts := congrArg (List.map fun r => (r.toOption.map FieldLine.text).getD "") h
  rw [List.map_map, List.map_map] at htexts
  exact htexts.symm

/-! ## The module of a model -/

/-- The imports of a module in another order of its fields: those from outside of the package are
the same, and those of enums come in the order of first use. -/
theorem moduleImports_perm (h : fs.Perm gs) (enumsModule : Text) (call : Bool) :
    moduleImports known enumsModule gs call
      = outerImports (fs.any (·.isScalar "DateTime")) (fs.any (·.isScalar "Decimal"))
          (fs.any (·.holdsAny)) call ++ (usedEnums known gs).map (enumImport enumsModule) := by
  rw [moduleImports, h.any_eq, h.any_eq, h.any_eq]

/-- **The module of a model with its fields in another order**: the same line for each field, in
that order, and the same text around them, but for the order of the enums' imports. -/
theorem modelFile_perm (known : List Text) (enumsModule : Value) {m : Model} (hm : m.IsTyped)
    (hshort : ∀ f ∈ m.fields, ¬ f.IsOverlong) :
    ∃ (front : List Text) (line : Field → Text),
      (∀ f ∈ m.fields, ∃ l, (renderField known f).line = .ok l ∧ line f = l.text) ∧
      ∀ fs, m.fields.Perm fs → (usedEnums known m.fields).Perm (usedEnums known fs) ∧
        (modelFile known enumsModule { m with fields := fs }).result
          = .ok (closed (front
              ++ (usedEnums known fs).map (fun e =>
                  "from ." ++ enumsModule.display ++ " import " ++ e)
              ++ modelRest m (fs.map line))) := by
  refine ⟨outerImports (m.fields.any (·.isScalar "DateTime")) (m.fields.any (·.isScalar "Decimal"))
      (m.fields.any (·.holdsAny)) ((m.fields.filterMap (lineOf? known)).any (·.hasCall)),
    lineText known, ?_, ?_⟩
  · intro f hf
    have hline : ∃ l, (renderField known f).line = .ok l :=
      renderField_ok (hm.fields f hf) (hshort f hf)
    obtain ⟨l, hl⟩ := hline
    refine ⟨l, hl, ?_⟩
    rw [lineText, lineOf?_eq_some hl]
    rfl
  · intro fs hperm
    have htyped : Model.IsTyped { m with fields := fs } :=
      ⟨fun f hf => hm.fields f (hperm.mem_iff.mpr hf), hm.documentation⟩
    have hshort : ∀ f ∈ fs, ¬ f.IsOverlong := fun f hf => hshort f (hperm.mem_iff.mpr hf)
    have hmade : ∃ text, (modelFile known enumsModule { m with fields := fs }).result = .ok text :=
      modelFile_ok htyped hshort
    obtain ⟨text, htext⟩ := hmade
    obtain ⟨ls, hls, rfl⟩ := modelFile_lines (fun f hf => (htyped.fields f hf).type) htext
    refine ⟨usedEnums_perm hperm, ?_⟩
    -- the same lines are there in any order, so a field call is needed in any order or in none
    have hcall : (m.fields.filterMap (lineOf? known)).any (·.hasCall) = ls.any (·.hasCall) := by
      rw [← filterMap_of_lines hls]
      exact (hperm.filterMap _).any_eq
    rw [htext, moduleImports_perm hperm, hcall, map_of_lines hls]
    rfl

/-- A model with fields of two enums. -/
def trip : Model :=
  { name := "Trip"
    fields := [requiredField "mode" .enum "Mode", requiredField "startedAt" .scalar "DateTime",
      requiredField "state" .enum "State"]
    documentation := .null, storageName := .null }

/-- The fields of a model in reverse order. -/
theorem trip_reversed :
    ∃ (front : List Text) (line : Field → Text),
      (modelFile ["Mode", "State"] (.text "enums") trip).result
        = .ok (closed (front ++ [("from .enums import Mode" : Text), "from .enums import State"]
            ++ modelRest trip (trip.fields.map line))) ∧
      (modelFile ["Mode", "State"] (.text "enums")
          { trip with fields := trip.fields.reverse }).result
        = .ok (closed (front ++ [("from .enums import State" : Text), "from .enums import Mode"]
            ++ modelRest trip (trip.fields.reverse.map line))) := by
  have htyped : trip.IsTyped := by
    refine ⟨?_, .inl rfl⟩
    simp only [trip, List.forall_mem_cons]
    exact ⟨⟨⟨_, rfl⟩, .inl rfl⟩, ⟨⟨_, rfl⟩, .inl rfl⟩, ⟨⟨_, rfl⟩, .inl rfl⟩, List.forall_mem_nil _⟩
  have hshort : ∀ f ∈ trip.fields, ¬ f.IsOverlong := by
    have hnone : ∀ f ∈ trip.fields, showsDefault f = false := by decide
    rintro f hf ⟨hshown, -⟩
    rw [hnone f hf] at hshown
    cases hshown
  obtain ⟨front, line, -, hlines⟩ :=
    modelFile_perm ["Mode", "State"] (.text "enums") htyped hshort
  obtain ⟨-, hgiven⟩ := hlines trip.fields (.refl _)
  obtain ⟨-, hreversed⟩ := hlines trip.fields.reverse (List.reverse_perm _).symm
  exact ⟨front, line, hgiven, hreversed⟩

end ModelBindings.Source
