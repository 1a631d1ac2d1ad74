import Mathlib.Data.List.Nodup
import ModelBindings.Proofs.Source.ImportBlock

/-!
# Names that imports bind

An import line binds the names that it ends in, with commas between them. A model's module binds
fixed names from outside of its package and the enums that it uses, each enum by a line of its own.

* `importedNames` : the names that an import line binds; `binds` : a line binds a name.
* `countP_binds` : how many lines bind a name.
* `boundNames_moduleImports` : the names that a model's module imports.
-/

set_option autoImplicit false

namespace ModelBindings.Source

variable {known : List Text}

/-! ## Import lines -/

/-- The names that an import line binds: its last word, and the words with a comma behind them that
stand in front of it. -/
def importedNames (line : Text) : List Text :=
  let words := (Text.segments ' ' line.toList).reverse
  let names := words.take 1 ++ (words.drop 1).takeWhile fun w => w.getLast? == some (.char ',')
  names.reverse.map fun w => Text.ofList (w.filter (· != .char ','))

/-- The line is an import statement that binds the name. -/
def binds (name line : Text) : Bool :=
  isImport line && (importedNames line).contains name

/-- The names that the import statements among lines bind, in order. -/
def boundNames (lines : List Text) : List Text :=
  (lines.filter isImport).flatMap importedNames

/-- The names that a model's module imports from outside of its package. -/
def outerNames (datetime decimal typing withField : Bool) : List Text :=
  [("annotations" : Text)] ++ lineIf datetime "datetime" ++ lineIf decimal "Decimal"
    ++ lineIf typing "Any"
    ++ [("BaseModel" : Text), "ConfigDict"] ++ lineIf withField "Field"

/-- Where no line binds a name twice, the lines that bind a name are as many as its occurrences. -/
theorem countP_binds {lines : List Text} (h : ∀ l ∈ lines, (importedNames l).Nodup)
    (name : Text) : lines.countP (binds name) = (boundNames lines).count name := by
  unfold boundNames
  induction lines with
  | nil => rfl
  | cons l r ih =>
    have hl := h l List.mem_cons_self
    rw [List.countP_cons, ih fun k hk => h k (List.mem_cons_of_mem l hk)]
    by_cases hi : isImport l = true
    · rw [List.filter_cons_of_pos hi, List.flatMap_cons, List.count_append, hl.count, binds, hi]
      simp only [Bool.true_and, List.contains_iff_mem]
      omega
    · rw [List.filter_cons_of_neg hi, binds, Bool.eq_false_iff.mpr hi]
      simp

theorem importedNames_enumImport (module : Text) {name : Text} (h : IsName name) :
    importedNames (enumImport module name) = [name] := by
  have hword := inWord_of_isIdentifier h
  have hblank : .char ' ' ∉ name.toList := fun hm => absurd (hword _ hm) (by decide)
  have hcomma : name.toList.filter (· != .char ',') = name.toList := by
    refine List.filter_eq_self.mpr fun c hc => bne_iff_ne.mpr ?_
    rintro rfl
    exact absurd (hword _ hc) (by decide)
  have himport :
      (" import " : Text).toList = .char ' ' :: (("import" : Text).toList ++ [.char ' ']) := rfl
  have hwords : Text.segments ' ' (enumImport module name).toList
      = Text.segments ' ' ("from ." ++ module).toList
        ++ [("import" : Text).toList, name.toList] := by
    rw [enumImport, Text.toList_append, Text.toList_append, himport, List.append_assoc,
      List.cons_append, Text.segments_append_sep, List.append_assoc, List.singleton_append,
      Text.segments_append_cons (by decide), Text.segments_of_not_mem hblank]
  unfold importedNames
  rw [hwords]
  simp [hcomma]

theorem boundNames_append (a b : List Text) :
    boundNames (a ++ b) = boundNames a ++ boundNames b := by
  rw [boundNames, List.filter_append, List.flatMap_append]
  rfl

/-- What a module imports from outside of the package binds the names that are meant. -/
theorem boundNames_outerImports (datetime decimal typing withField : Bool) :
    boundNames (outerImports datetime decimal typing withField)
      = outerNames datetime decimal typing withField := by
  revert datetime decimal typing withField
  decide +kernel

theorem isImport_enumImport (module name : Text) : isImport (enumImport module name) = true := by
  unfold isImport enumImport
  rw [Text.toList_append, Text.toList_append, Text.toList_append]
  rfl

theorem boundNames_enumImports (module : Text) {names : List Text}
    (h : ∀ n ∈ names, IsName n) : boundNames (names.map (enumImport module)) = names := by
  induction names with
  | nil => rfl
  | cons n r ih =>
    rw [List.map_cons, boundNames, List.filter_cons_of_pos (isImport_enumImport module n),
      List.flatMap_cons, importedNames_enumImport module (h n List.mem_cons_self)]
    exact congrArg (n :: ·) (ih fun k hk => h k (List.mem_cons_of_mem n hk))

theorem nodup_eraseDups (names : List Text) : names.eraseDups.Nodup := by
  match names with
  | [] => exact List.nodup_nil
  | n :: r =>
    rw [List.eraseDups_cons, List.nodup_cons, List.mem_eraseDups]
    exact ⟨by simp, nodup_eraseDups (r.filter fun k => !k == n)⟩
termination_by names.length
decreasing_by exact Nat.lt_succ_of_le (List.length_filter_le _ _)

/-! ## The imports of a model's module -/

/-- A used enum is the type of a field. -/
theorem exists_of_mem_usedEnums {fs : List Field} {e : Text} (h : e ∈ usedEnums known fs) :
    ∃ f ∈ fs, f.namesType ∧ f.type = .text e := by
  obtain ⟨f, hf, he⟩ := List.mem_filterMap.mp (List.mem_eraseDups.mp h)
  refine ⟨f, hf, ?_⟩
  unfold Field.enumAmong? at he
  split at he
  · rename_i s hk ht
    split at he
    · cases he
      exact ⟨.inl hk, ht⟩
    · cases he
  · cases he

theorem isName_of_mem_usedEnums {fs : List Field} (hfs : ∀ f ∈ fs, f.IsNamed) {e : Text}
    (h : e ∈ usedEnums known fs) : IsName e := by
  obtain ⟨f, hf, hn, ht⟩ := exists_of_mem_usedEnums h
  obtain ⟨s, hs, hname⟩ := (hfs f hf).type
  obtain rfl : e = s := by simpa [ht] using hs
  exact hname hn

/-- The import lines of a model's module. -/
def moduleImports (known : List Text) (enumsModule : Text) (fs : List Field) (call : Bool) :
    List Text :=
  outerImports (fs.any (·.isScalar "DateTime")) (fs.any (·.isScalar "Decimal"))
    (fs.any (·.holdsAny)) call ++ (usedEnums known fs).map (enumImport enumsModule)

/-- **The lines of a model's module**: its imports, and behind them the lines of its fields, one
from each field. -/
theorem modelFile_lines {enumsModule : Value} {m : Model}
    (hfs : ∀ f ∈ m.fields, ∃ s, f.type = .text s) {text : Text}
    (h : (modelFile known enumsModule m).result = .ok text) :
    ∃ ls : List FieldLine, m.fields.map (fun f => (renderField known f).line) = ls.map .ok ∧
      text = Text.closed (moduleImports known enumsModule.display m.fields (ls.any (·.hasCall))
        ++ modelRest m (ls.map (·.text))) := by
  obtain ⟨rendered, hrendered, rfl⟩ := modelFile_eq h
  obtain ⟨ls, hls, rfl⟩ := result_renderFields hrendered
  obtain ⟨relations, hneeds⟩ := needs_of_lines hfs hls
  refine ⟨ls, hls, ?_⟩
  simp only [modelLines, modelRest, moduleImports, hneeds, neededImports_using, List.append_assoc]

/-- The names that a model's module imports from outside of its package. -/
def moduleOuterNames (fs : List Field) (call : Bool) : List Text :=
  outerNames (fs.any (·.isScalar "DateTime")) (fs.any (·.isScalar "Decimal"))
    (fs.any (·.holdsAny)) call

theorem nodup_outerNames (datetime decimal typing withField : Bool) :
    (outerNames datetime decimal typing withField).Nodup := by
  revert datetime decimal typing withField
  decide +kernel

theorem boundNames_moduleImports {fs : List Field} (hfs : ∀ f ∈ fs, f.IsNamed)
    (enumsModule : Text) (call : Bool) :
    boundNames (moduleImports known enumsModule fs call)
      = moduleOuterNames fs call ++ usedEnums known fs := by
  rw [moduleImports, boundNames_append, boundNames_outerImports,
    boundNames_enumImports enumsModule fun e he => isName_of_mem_usedEnums hfs he]
  rfl

/-- No import line binds a name twice. -/
theorem nodup_importedNames {fs : List Field} (hfs : ∀ f ∈ fs, f.IsNamed) (enumsModule : Text)
    (call : Bool) : ∀ l ∈ moduleImports known enumsModule fs call, (importedNames l).Nodup := by
  have houter : ∀ datetime decimal typing withField : Bool,
      ∀ l ∈ outerImports datetime decimal typing withField, (importedNames l).Nodup := by
    decide +kernel
  intro l hl
  rcases List.mem_append.mp hl with hl | hl
  · exact houter _ _ _ _ l hl
  · obtain ⟨e, he, rfl⟩ := List.mem_map.mp hl
    rw [importedNames_enumImport enumsModule (isName_of_mem_usedEnums hfs he)]
    exact List.nodup_singleton e

/-- Behind its imports, a model's module binds nothing by an import. -/
theorem countP_binds_modelRest {m : Model} {lines : List Text} (hm : IsName m.name)
    (hlines : ∀ l ∈ lines, Text.IsLine l) (name : Text) :
    (modelRest m lines).countP (binds name) = 0 := by
  refine List.countP_eq_zero.mpr fun l hl => ?_
  have himport := (modelRest_imports_nothing hm hlines l hl).2
  simp [binds, himport]

end ModelBindings.Source
