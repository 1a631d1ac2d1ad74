import ModelBindings.Proofs.Source.Field

/-!
# What modules need

* `Needs.Within` : the needs that fields can add up to; only known enums are among them.
* `within_of_renderFields` : they stay so from field to field.
* `neededImports_eq` : the import lines of a module, one by one.
-/

set_option autoImplicit false

namespace ModelBindings.Source

variable {known : List Text}

/-- The needs that fields can add up to. -/
structure Needs.Within (known : List Text) (n : Needs) : Prop where
  enum : n.imports.enum = false
  typing : n.imports.typing = [] ∨ n.imports.typing = [("Any" : Text)]
  pydantic : n.imports.pydantic = [("BaseModel" : Text)] ∨
    n.imports.pydantic = [("BaseModel" : Text), "Field"]
  enums : ∀ e ∈ n.enums, e ∈ known

namespace Needs

theorem within_initial (known : List Text) : Within known .initial :=
  ⟨rfl, .inl rfl, .inl rfl, fun _ h => nomatch h⟩

/-- One more field. -/
theorem Within.absorb {n : Needs} (h : n.Within known) {u : Usage}
    (hu : ∀ e, u.enumName = some e → e ∈ known) : (n.absorb u).Within known := by
  refine ⟨h.enum, ?_, ?_, fun e he => ?_⟩
  · unfold Needs.absorb absorbImports
    dsimp only
    split
    · right
      rcases h.typing with ht | ht <;> rw [ht] <;> decide
    · exact h.typing
  · unfold Needs.absorb absorbImports
    dsimp only
    split
    · right
      rcases h.pydantic with hp | hp <;> rw [hp] <;> decide
    · exact h.pydantic
  · have he : e ∈ absorbEnum n.enums u.enumName := he
    unfold absorbEnum at he
    split at he
    · exact h.enums e he
    · rename_i e' hu'
      split at he
      · exact h.enums e he
      · rcases List.mem_append.mp he with he | he
        · exact h.enums e he
        · rw [List.mem_singleton.mp he]
          exact hu e' hu'

end Needs

theorem enumName_mem_known {f : Field} {l : FieldLine} (h : (renderField known f).line = .ok l)
    {e : Text} (he : (renderField known f).usage.enumName = some e) : e ∈ known := by
  obtain ⟨base, default, hbase, -, -, hu⟩ := renderField_eq_ok h
  rw [hu] at he
  cases hbase with
  | scalar s ht hnone =>
    rw [show base.usage.enumName = some e from he] at hnone
    cases hnone
  | named hf ht hmem => exact hmem e he

/-- **The needs of a module stay within what fields can ask for.** -/
theorem within_of_renderFields {n : Needs} (hn : n.Within known) {fs : List Field}
    {rendered : RenderedFields} (h : (renderFields known n fs).result = .ok rendered) :
    rendered.needs.Within known := by
  obtain ⟨ls, hls, rfl⟩ := result_renderFields h
  clear h
  induction fs generalizing n ls with
  | nil => exact hn
  | cons f r ih =>
    cases ls with
    | nil => cases hls
    | cons l ls =>
      simp only [List.map_cons, List.cons.injEq] at hls
      exact ih (hn.absorb fun e => enumName_mem_known hls.1) ls hls.2

/-- The line that imports from the model library. -/
def pydanticLine (withField : Bool) : Text :=
  if withField then "from pydantic import BaseModel, ConfigDict, Field"
  else "from pydantic import BaseModel, ConfigDict"

/-- The lines that import from outside of the package. -/
def outerImports (datetime decimal typing withField : Bool) : List Text :=
  [("from __future__ import annotations" : Text), ""]
    ++ lineIf datetime "from datetime import datetime"
    ++ lineIf decimal "from decimal import Decimal"
    ++ lineIf typing "from typing import Any"
    ++ [pydanticLine withField]

theorem pydanticNames (withField : Bool) :
    "from pydantic import " ++ Text.join ", "
      (NameSet.insert "ConfigDict" (if withField then ["BaseModel", "Field"] else ["BaseModel"]))
        = pydanticLine withField := by
  cases withField <;> decide +kernel

theorem typingNames (any : Bool) :
    lineIf (!(if any then ["Any"] else [] : NameSet).isEmpty)
      ("from typing import " ++ Text.join ", " (if any then ["Any"] else []))
        = lineIf any "from typing import Any" := by
  cases any <;> decide +kernel

/-- **The import lines of a module**: from outside of the package, then one for each enum. -/
theorem neededImports_eq {n : Needs} (h : n.Within known) (enumsModule : Text) :
    ∃ typing withField, neededImports enumsModule n
      = outerImports n.imports.datetime n.imports.decimal typing withField
        ++ n.enums.map (enumImport enumsModule) := by
  have hpydantic : ∃ w, "from pydantic import "
      ++ Text.join ", " (n.imports.addPydantic "ConfigDict").pydantic = pydanticLine w := by
    show ∃ w, "from pydantic import " ++
      Text.join ", " (NameSet.insert "ConfigDict" n.imports.pydantic) = pydanticLine w
    rcases h.pydantic with hp | hp <;> rw [hp]
    · exact ⟨false, pydanticNames false⟩
    · exact ⟨true, pydanticNames true⟩
  obtain ⟨w, hw⟩ := hpydantic
  have htyping : ∃ b, lineIf (!n.imports.typing.isEmpty)
      ("from typing import " ++ Text.join ", " n.imports.typing)
        = lineIf b "from typing import Any" := by
    rcases h.typing with ht | ht <;> rw [ht]
    · exact ⟨false, typingNames false⟩
    · exact ⟨true, typingNames true⟩
  obtain ⟨b, hb⟩ := htyping
  refine ⟨b, w, ?_⟩
  unfold neededImports importLines outerImports
  rw [hw, show (n.imports.addPydantic "ConfigDict").typing = n.imports.typing from rfl, hb,
    show (n.imports.addPydantic "ConfigDict").enum = n.imports.enum from rfl, h.enum]
  simp only [lineIf, Bool.false_eq_true, if_false, List.append_nil]
  rfl

end ModelBindings.Source
