import ModelBindings.Proofs.Package.Files
import ModelBindings.Proofs.Source.Needs
import ModelBindings.Proofs.Source.Statement.Class

/-!
# Modules as statements

Each module of a package is a text of statements: its imports and its classes, or the names that the
package offers and the calls that resolve references. Such a text is accepted before it is written.

* `isSource_import`, `isSource_offers` : import lines, and the list of offered names.
* `isSource_enums`, `isSource_model`, `isSource_init` : the three kinds of modules.
* `checkSource_of_isSource` : a text of statements is accepted.
-/

set_option autoImplicit false

namespace ModelBindings

namespace Source

open Grammar (elementTokens)
open Scan (Ends Clean IsContent IsFreeName)
open Text (closed)

variable {a b : List Text} {l x y z w : Text} {known : List Text}

/-- Lines that are statements of a module, at least one. -/
def IsSource (ls : List Text) : Prop :=
  ∃ ss, ss ≠ [] ∧ ModuleText (closed ls).toList ss

theorem IsSource.isModule (h : IsSource a) : IsModule a := by
  obtain ⟨ss, -, h⟩ := h
  exact ⟨ss, h⟩

theorem IsSource.append (ha : IsSource a) (hb : IsModule b) : IsSource (a ++ b) := by
  obtain ⟨ss, hne, ha⟩ := ha
  obtain ⟨us, hb⟩ := hb
  exact ⟨ss ++ us, by simp [hne], by rw [toList_closed_append]; exact ha.append hb⟩

theorem IsSource.prepend (ha : IsModule a) (hb : IsSource b) : IsSource (a ++ b) := by
  obtain ⟨ss, ha⟩ := ha
  obtain ⟨us, hne, hb⟩ := hb
  exact ⟨ss ++ us, by simp [hne], by rw [toList_closed_append]; exact ha.append hb⟩

/-- A statement of a module. -/
theorem isSource_of_text {c : CodePoint} {r : List CodePoint} {ts : List Token}
    (hc : startsLine c = true)
    (h : Ends [] (c :: r) ts) {n : Nat} (hs : Grammar.IsStatement n 0 10 ts)
    (hn : n ≤ (c :: r).length + 60) (htext : (closed a).toList = c :: r) : IsSource a :=
  ⟨[ts], by simp, htext ▸ moduleText_line hc h (hs.mono hn (by decide))⟩

/-! ## Imports -/

/-- Names behind the word for imports. -/
theorem ends_imported {cs : List CodePoint} {ts : List Token} (h : Ends [] cs ts) :
    Ends [] (.char ' ' :: (("import " : Text).toList ++ cs))
      (.keyword .importWord :: ts) :=
  h.fixed (b := []) (" import " : Text).toList
    [.keyword .importWord]
    (fun _ _ => rfl) (by decide)

/-- What names are imported from. -/
theorem ends_from {cs : List CodePoint} {ts : List Token} (h : Ends [] cs ts) :
    Ends [] (.char 'f' :: (("rom " : Text).toList ++ cs))
      (.keyword .fromWord :: ts) :=
  h.fixed (b := []) ("from " : Text).toList [.keyword .fromWord]
    (fun _ _ => rfl) (by decide)

/-- A name in front of further names. -/
theorem ends_further {cs : List CodePoint} {ts : List Token} (hx : IsFreeName x)
    (h : Ends [] cs ts) :
    Ends [] (x.toList ++ (.char ',' :: .char ' ' :: cs)) (.name x :: .op .comma :: ts) :=
  (h.fixed (b := []) [.char ',', .char ' '] [.op .comma] (fun _ _ => rfl) (by decide)).word hx rfl

/-- **An import of one name.** -/
theorem isSource_import (hx : IsFreeName x) (hy : IsFreeName y) :
    IsSource ["from " ++ x ++ " import " ++ y] := by
  have hline := ends_from ((ends_imported (Ends.newline.word hy rfl)).word hx rfl)
  exact isSource_of_text (by decide) hline (Grammar.isStatement_importFrom x y) (by simp) (by simp)

/-- **An import of one name of a module beside.** -/
theorem isSource_enumImport (hx : IsFreeName x) (hy : IsFreeName y) :
    IsSource [enumImport x y] := by
  have hline := ends_from ((ends_imported (Ends.newline.word hy rfl)).word hx rfl |>.dot hx)
  exact isSource_of_text (by decide) hline (Grammar.isStatement_relativeImport x y) (by simp)
    (by simp [enumImport])

theorem isSource_pydantic (withField : Bool) : IsSource [pydanticLine withField] := by
  obtain ⟨hmodule, hmodel, hconfig, hfield⟩ : IsFreeName "pydantic" ∧ IsFreeName "BaseModel" ∧
      IsFreeName "ConfigDict" ∧ IsFreeName "Field" := by decide +kernel
  cases withField with
  | false =>
    have hline := ends_from ((ends_imported
      (ends_further hmodel (Ends.newline.word hconfig rfl))).word hmodule rfl)
    exact isSource_of_text (by decide) hline (Grammar.isStatement_importTwo _ _ _) (by simp)
      (by simp [pydanticLine])
  | true =>
    have hline := ends_from ((ends_imported (ends_further hmodel
      (ends_further hconfig (Ends.newline.word hfield rfl)))).word hmodule rfl)
    exact isSource_of_text (by decide) hline (Grammar.isStatement_importThree _ _ _ _) (by simp)
      (by simp [pydanticLine])

/-- The lines that import from outside of the package. -/
theorem isSource_outerImports (datetime decimal typing withField : Bool) :
    IsSource (outerImports datetime decimal typing withField) := by
  have himport : ∀ {x y l : Text}, IsFreeName x ∧ IsFreeName y ∧
      l = "from " ++ x ++ " import " ++ y → IsSource [l] := by
    rintro x y l ⟨hx, hy, rfl⟩
    exact isSource_import hx hy
  have hline : ∀ l : Text, IsSource [l] → ∀ w, IsModule (lineIf w l) := by
    intro l h w
    cases w with
    | false => exact isModule_nil
    | true => exact h.isModule
  have hfuture := himport (x := "__future__") (y := "annotations")
    (l := "from __future__ import annotations") (by decide +kernel)
  have hdatetime := hline _ (himport (x := "datetime") (y := "datetime")
    (l := "from datetime import datetime") (by decide +kernel)) datetime
  have hdecimal := hline _ (himport (x := "decimal") (y := "Decimal")
    (l := "from decimal import Decimal") (by decide +kernel)) decimal
  have htyping := hline _ (himport (x := "typing") (y := "Any")
    (l := "from typing import Any") (by decide +kernel)) typing
  exact (((hfuture.append isModule_blank).append hdatetime).append hdecimal).append htyping
    |>.append (isSource_pydantic withField).isModule

/-! ## Offered names -/

theorem length_le_toList_closed (ls : List Text) : ls.length ≤ (closed ls).toList.length := by
  rw [Text.toList_closed]
  induction ls with
  | nil => exact Nat.le_refl 0
  | cons l ls ih =>
    simp only [List.flatMap_cons, List.length_append, List.length_cons, List.length_nil]
    omega

/-- Offered names, up to the end of the list. -/
theorem ends_offers {names : List Text} (h : ∀ n ∈ names, IsName n) :
    Ends [.square] ((closed (names.map offerText)).toList ++ [.char ']', .char '\n'])
      (elementTokens names.length ++ [Token.newline]) := by
  induction names with
  | nil => exact ⟨fun _ => rfl, by decide⟩
  | cons n names ih =>
    have hw := inWord_of_isIdentifier (h n List.mem_cons_self)
    have hcomma := (ih fun m hm => h m (List.mem_cons_of_mem n hm)).fixed (b := [.square])
      [.char ',', .char '\n'] [.op .comma] (fun _ _ => rfl) (by decide)
    have htext := Ends.text (c := ',') (Scan.isContent_of_inWord hw)
      (Scan.clean_of_isIdentifier (h n List.mem_cons_self)) (by decide) hcomma
    have hline := htext.fixed (b := [.square]) ("    " : Text).toList [] (fun _ _ => rfl)
      (by decide)
    simpa [offerText, elementTokens] using hline

/-- **The list of offered names.** -/
theorem isSource_offers {names : List Text} (h : ∀ n ∈ names, IsName n) :
    IsSource (("__all__ = [" : Text) :: (names.map offerText ++ [("]" : Text)])) := by
  have hname : IsFreeName "__all__" := by decide +kernel
  have hopen := (ends_offers h).fixed (b := []) (" = [\n" : Text).toList
    [.op .assign, .op (.opening .square)] (fun _ _ => rfl) (by decide)
  have hline : Ends [] (.char '_' :: (("_all__" : Text).toList ++ ((" = [\n" : Text).toList
      ++ ((closed (names.map offerText)).toList ++ [.char ']', .char '\n'])))) _ :=
    hopen.word hname rfl
  have hlength := length_le_toList_closed (names.map offerText)
  refine isSource_of_text (by decide) hline (Grammar.isStatement_list _ names.length) ?_ (by simp)
  simp only [List.length_map, List.length_cons, List.length_append, List.length_nil] at hlength ⊢
  omega

/-! ## References -/

theorem isModule_comment (cs : List CodePoint) (h : .char '\n' ∉ cs) (hc : Clean cs)
    (hl : l.toList = .char '#' :: cs) : IsModule [l] :=
  isModule_of_text (moduleText_comment h hc) (by simp [hl])

/-- The call that resolves the references of a model. -/
theorem isModule_rebuild (hx : IsFreeName x) : IsModule [rebuildText x] := by
  have hcall :
      Ends [] (.char '.' :: ("model_rebuild()\n" : Text).toList) [.op .dot, .name "model_rebuild",
      .op (.opening .round), .op (.closing .round), .newline] := ⟨fun _ => rfl, by decide⟩
  obtain ⟨c, hc, hstart⟩ := Scan.startsWord_of_isIdentifier hx.1
  obtain ⟨w, hw⟩ := List.head?_eq_some_iff.mp hc
  have hline := hcall.word hx rfl
  rw [hw] at hline
  exact (isSource_of_text (startsLine_of_startsWord hstart) hline
    (Grammar.isStatement_call x "model_rebuild") (by simp) (by simp [rebuildText, hw])).isModule

theorem isModule_rebuildLines {models : List ModuleEntry} (h : ∀ m ∈ models, IsFreeName m.name) :
    IsModule (rebuildLines models) := by
  unfold rebuildLines
  split
  · exact isModule_nil
  · have hcomment : IsModule ["# Resolve cross-module forward references"] :=
      isModule_comment (" Resolve cross-module forward references" : Text).toList (by decide)
        (by decide) (by simp)
    exact (isModule_blank.append hcomment).append
      (isModule_of_forall (List.forall_mem_map.mpr fun m hm => isModule_rebuild (h m hm)))

/-! ## Modules -/

/-- **The module of enums is a text of statements.** -/
theorem isSource_enums {enums : List Enum} (h : ∀ e ∈ enums, IsModule (enumLines e)) :
    IsSource (enumsLines enums) := by
  have hblanks : IsModule ["", ""] := isModule_blank.append isModule_blank
  have hclasses : IsModule ([("" : Text), ""].intercalate (enums.map enumLines)) := by
    induction enums with
    | nil => exact isModule_nil
    | cons e enums ih =>
      have he := h e List.mem_cons_self
      have hrest := ih fun e he => h e (List.mem_cons_of_mem _ he)
      cases enums with
      | nil => simpa [List.intercalate] using he
      | cons e' enums =>
        have hlines : [("" : Text), ""].intercalate ((e :: e' :: enums).map enumLines)
            = enumLines e ++ [("" : Text), ""]
              ++ [("" : Text), ""].intercalate ((e' :: enums).map enumLines) := by
          simp [List.intercalate]
        rw [hlines]
        exact (he.append hblanks).append hrest
  have himport :=
    isSource_import (x := "enum") (y := "Enum") (by decide +kernel) (by decide +kernel)
  exact (himport.append hblanks).append hclasses

/-- **The module of a model is a text of statements.** -/
theorem isSource_model {m : Model} {enumsModule : Text} {rendered : RenderedFields}
    (hmodule : IsFreeName enumsModule) (hknown : ∀ n ∈ known, IsFreeName n)
    (hclass : IsModule (modelClassLines m rendered))
    (h : (renderFields known .initial m.fields).result = .ok rendered) :
    IsSource (modelLines enumsModule m rendered) := by
  have hneeds := within_of_renderFields (Needs.within_initial known) h
  obtain ⟨typing, withField, himports⟩ := neededImports_eq hneeds enumsModule
  have henums : IsModule (rendered.needs.enums.map (enumImport enumsModule)) :=
    isModule_of_forall <| List.forall_mem_map.mpr fun n hn =>
      (isSource_enumImport hmodule (hknown n (hneeds.enums n hn))).isModule
  have hblanks : IsModule ["", ""] := isModule_blank.append isModule_blank
  have hneeded : IsSource (neededImports enumsModule rendered.needs) := by
    rw [himports]
    exact (isSource_outerImports _ _ typing withField).append henums
  have hsource := (hneeded.append hblanks).append hclass
  simpa [modelLines, modelClassLines] using hsource

/-- **The package's own module is a text of statements.** -/
theorem isSource_init {enumNames : List Text} {enumsModule : Text} {models : List ModuleEntry}
    (hmodule : IsFreeName enumsModule) (henums : ∀ n ∈ enumNames, IsFreeName n)
    (hmodels : ∀ m ∈ models, IsFreeName m.moduleName ∧ IsFreeName m.name) :
    IsSource (initLines enumNames enumsModule models) := by
  have hnames : ∀ n ∈ enumNames ++ models.map (·.name), IsName n := by
    intro n hn
    rcases List.mem_append.mp hn with hn | hn
    · exact (henums n hn).1
    · obtain ⟨m, hm, rfl⟩ := List.mem_map.mp hn
      exact (hmodels m hm).2.1
  have himports : IsModule (enumNames.map (enumImport enumsModule)
      ++ models.map (fun m => enumImport m.moduleName m.name)) :=
    IsModule.append
      (isModule_of_forall <| List.forall_mem_map.mpr fun n hn =>
        (isSource_enumImport hmodule (henums n hn)).isModule)
      (isModule_of_forall <| List.forall_mem_map.mpr fun m hm =>
        (isSource_enumImport (hmodels m hm).1 (hmodels m hm).2).isModule)
  have hoffers := IsSource.prepend (himports.append isModule_blank) (isSource_offers hnames)
  have hsource := hoffers.append (isModule_rebuildLines fun m hm => (hmodels m hm).2)
  simpa [initLines] using hsource

/-- **A text of statements is accepted before it is written.** -/
theorem checkSource_of_isSource {ls : List Text} (h : IsSource ls) (hl : 9 ≤ (closed ls).length) :
    FileTree.checkSource (closed ls) = .ok () := by
  obtain ⟨ss, hne, htext⟩ := h
  refine htext.checkSource hne ?_ hl
  rcases List.eq_nil_or_concat ls with rfl | ⟨front, l, rfl⟩
  · cases hl
  · rw [List.concat_eq_append, toList_closed_append, toList_closed_singleton, ← List.append_assoc,
      List.getLast?_concat]

end Source

end ModelBindings
