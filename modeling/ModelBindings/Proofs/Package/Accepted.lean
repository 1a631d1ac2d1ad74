import ModelBindings.Proofs.Source.Statement.Module

/-!
# Generated files are accepted

The names of a data model may be any ASCII names, where enums and models have none of the reserved
words; its documentations and defaults may hold any text without zero characters and surrogates.
What is generated from it passes the check that a file goes through before it is written.

* `Datamodel.IsExpressible` : a data model whose names and texts can stand in a source text.
* `generate_accepted` : all files of its package are accepted.
* `half_documentation_refused` : a documentation of half a pair, whose file is not accepted.
-/

set_option autoImplicit false

namespace ModelBindings

/-- The names and texts of an enum can stand in a source text. -/
structure Enum.IsExpressible (e : Enum) : Prop where
  name : IsAsciiName e.name
  free : isKeyword e.name = false
  values : ∀ v ∈ e.values, IsAsciiName v.name
  documentation : e.documentation.IsClassDoc

/-- The names and texts of a model can stand in a source text, and so can the name of its module. -/
structure Model.IsExpressible (m : Model) : Prop where
  name : IsAsciiName m.name
  free : isKeyword m.name = false
  moduleFree : isKeyword (snakeCase m.name) = false
  fields : ∀ f ∈ m.fields, f.IsExpressible
  documentation : m.documentation.IsClassDoc

/-- The names and texts of a data model can stand in source texts. -/
structure Datamodel.IsExpressible (d : Datamodel) : Prop where
  enums : ∀ e ∈ d.enums, e.IsExpressible
  models : ∀ m ∈ d.models, m.IsExpressible

theorem Datamodel.IsExpressible.of_mem_enumNames {d : Datamodel} (h : d.IsExpressible) {n : Text}
    (hn : n ∈ d.enumNames) : Source.Scan.IsFreeName n := by
  obtain ⟨e, he, rfl⟩ := List.mem_map.mp hn
  exact ⟨(h.enums e he).name.isName, (h.enums e he).free⟩

namespace Package

open Source (IsSource IsModule)
open Source.Scan (IsFreeName)
open Text (closed)

variable {c : Settings} {d : Datamodel} {files : Files}

/-- The lines in front of a module are a comment and a blank line, or none. -/
theorem isModule_headerLines (c : Settings) : IsModule (headerLines c) := by
  unfold headerLines
  split
  · have hcomment : IsModule
        ["# Generated by prisma-pydantic-generator 0.1.0. Do not edit manually."] :=
      Source.isModule_comment
        (" Generated by prisma-pydantic-generator 0.1.0. Do not edit manually." : Text).toList
        (by decide +kernel) (by decide +kernel) (by simp)
    exact hcomment.append Source.isModule_blank
  · exact Source.isModule_nil

/-- A module of a package is accepted, whatever stands in front of it. -/
theorem checkSource_headed (c : Settings) {ls : List Text} (h : IsSource ls) {l : Text}
    (hl : l ∈ ls) (hlength : 9 ≤ l.length) :
    FileTree.checkSource (header c ++ closed ls) = .ok () := by
  rw [header_eq, ← Text.closed_append]
  refine Source.checkSource_of_isSource (h.prepend (isModule_headerLines c)) ?_
  have hle := Text.length_le_closed (List.mem_append_right (headerLines c) hl)
  omega

/-- **Every file of a package is accepted before it is written.** -/
theorem generate_accepted (hd : d.IsExpressible) {enumsModule : Text}
    (hmodule : c.enumsModule = .text enumsModule) (hfree : IsFreeName enumsModule)
    (h : (generate c d).result = .ok files) :
    ∀ f ∈ files, FileTree.checkSource f.2 = .ok () := by
  have hdisplay : c.enumsModule.display = enumsModule := by
    rw [hmodule]
    rfl
  intro f hf
  cases isFile_of_mem_generate h f hf with
  | enums hne ht =>
    rw [Source.enumsFile_eq hne ht]
    refine checkSource_headed c (Source.isSource_enums fun e he => ?_)
      (l := "from enum import Enum") (by simp [Source.enumsLines]) (by decide)
    have hplain := hd.enums e he
    exact Source.isModule_enum ⟨hplain.name.isName, hplain.free⟩ hplain.values hplain.documentation
  | model hmem ht =>
    obtain ⟨rendered, hr, rfl⟩ := Source.modelFile_eq ht
    have hm := hd.models _ hmem
    have hclass := Source.isModule_model ⟨hm.name.isName, hm.free⟩ hm.fields
      hm.documentation hr
    rw [hdisplay]
    exact checkSource_headed c
      (Source.isSource_model hfree (fun n hn => hd.of_mem_enumNames hn) hclass hr)
      (l := "from __future__ import annotations")
      (by simp [Source.modelLines, Source.neededImports, Source.importLines]) (by decide)
  | init =>
    have hmodels : ∀ m ∈ d.models.map moduleEntry,
        IsFreeName m.moduleName ∧ IsFreeName m.name := by
      refine List.forall_mem_map.mpr fun m hmem => ?_
      have hm := hd.models m hmem
      exact ⟨⟨hm.name.isName_snakeCase, hm.moduleFree⟩, hm.name.isName, hm.free⟩
    rw [initText, Source.packageInit_eq, hdisplay]
    exact checkSource_headed c
      (Source.isSource_init hfree (fun n hn => hd.of_mem_enumNames hn) hmodels)
      (l := "__all__ = [") (by simp [Source.initLines]) (by decide)
  | marker =>
    have hempty : Source.judge "" = .valid := by decide +kernel
    show FileTree.checkSource "" = .ok ()
    rw [FileTree.checkSource, FileTree.checkEncoded, hempty]
    rfl

/-- A field with a default. -/
def defaultField (name : Text) (kind : FieldKind) (type default : Text) : Field :=
  { name, kind, type := .text type, isList := false, isRequired := true, isId := false
    isUnique := false, isUpdatedAt := false, hasDefault := true, default := .value (.text default)
    documentation := .text "Set \"by hand\".", storageName := .null, relationName := .null
    relationFrom := [], relationTo := [] }

/-- An enum with a reserved word among its values, and a model with quotes, backslashes and line
ends in its texts. -/
def journal : Datamodel :=
  { enums := [{ name := "Level", values := [⟨"None", .null⟩, ⟨"HIGH", .null⟩]
                documentation := .text "How \"loud\"", storageName := .null }]
    models := [{ name := "DayEntry"
                 fields := [defaultField "class" .scalar "String" "a\"\\\n",
                   defaultField "level" .enum "Level" "None"]
                 documentation := .text "An entry.\n\"\"\"", storageName := .null }] }

theorem journal_isExpressible : journal.IsExpressible := by
  have hfield : ∀ name kind type default, IsAsciiName name → IsFreeName type →
      Source.Scan.IsSourceText default.toList →
        (defaultField name kind type default).IsExpressible := by
    rintro name kind type default hname htype hdefault
    refine ⟨hname, fun _ => ⟨type, rfl, htype⟩, ?_, ?_⟩
    · rintro _ ⟨⟩
      decide
    · rintro _ ⟨⟩ _ ⟨⟩
      exact hdefault
  refine ⟨List.forall_mem_singleton.mpr ?_, List.forall_mem_singleton.mpr ?_⟩
  · refine ⟨by decide +kernel, by decide +kernel, by decide +kernel, ?_⟩
    rintro _ ⟨⟩
    have hlines :
        Text.lines ("How \"loud\"" : Text).toList
        = [("How \"loud\"" : Text).toList] := by decide +kernel
    have hquotes : Source.trailingQuotes ("How \"loud\"" : Text).toList % 3 ≠ 0 := by decide +kernel
    refine ⟨by decide, fun line h hmod => ?_⟩
    obtain rfl := (List.cons.inj (hlines.symm.trans h)).1
    exact absurd hmod hquotes
  · refine ⟨by decide +kernel, by decide +kernel, by decide +kernel, ?_, ?_⟩
    · simp only [List.forall_mem_cons]
      exact ⟨hfield _ _ _ _ (by decide +kernel) (by decide +kernel) (by decide),
        hfield _ _ _ _ (by decide +kernel) (by decide +kernel) (by decide), List.forall_mem_nil _⟩
    · rintro _ ⟨⟩
      have htwo : (Text.lines ("An entry.\n\"\"\"" : Text).toList).length ≠ 1 := by decide +kernel
      exact ⟨by decide, fun line h => absurd (congrArg List.length h) htwo⟩

theorem journal_accepted :
    ∃ files, (generate .defaults journal).result = .ok files ∧
      Association.keys files = [("enums.py" : Text), "day_entry.py", "__init__.py", "py.typed"] ∧
      ∀ f ∈ files, FileTree.checkSource f.2 = .ok () := by
  have hok : ((generate .defaults journal).result.toOption.map Association.keys)
      = some [("enums.py" : Text), "day_entry.py", "__init__.py", "py.typed"] := by decide +kernel
  cases h : (generate .defaults journal).result with
  | error f =>
    rw [h] at hok
    cases hok
  | ok files =>
    rw [h] at hok
    exact ⟨files, rfl, Option.some.inj hok,
      generate_accepted journal_isExpressible rfl (by decide +kernel) h⟩

/-- A documentation may be half of a pair, with no zero character and with no quotes at its end. The
file of its model cannot be put into bytes, and so it is not accepted. -/
theorem half_documentation_refused :
    let half : Text := .ofList [.ofNat 0xd800]
    let entry : Model :=
      { name := "DayEntry", fields := [], documentation := .text half, storageName := .null }
    (IsAsciiName entry.name ∧ isKeyword entry.name = false ∧
        isKeyword (snakeCase entry.name) = false) ∧
      (∀ c ∈ half.toList, c ≠ '\x00') ∧ Source.KeepsApart half.toList ∧
      ∃ files f e, (generate .defaults ⟨[], [entry]⟩).result = .ok files ∧ f ∈ files ∧
        f.1 = "day_entry.py" ∧ FileTree.checkSource f.2 = .error (.file (.notEncodable e)) := by
  intro half entry
  have hname : IsAsciiName entry.name ∧ isKeyword entry.name = false ∧
      isKeyword (snakeCase entry.name) = false := by decide +kernel
  have happart : Source.KeepsApart half.toList := fun line h _ => by
    have hline : Text.lines half.toList = [half.toList] := by decide +kernel
    obtain rfl := (List.cons.inj (hline.symm.trans h)).1
    decide +kernel
  have hfile : ((generate .defaults ⟨[], [entry]⟩).result.toOption.bind List.head?).map
        (fun f => (f.1, f.2.encodingFault?.isSome))
      = some (("day_entry.py" : Text), true) := by decide +kernel
  refine ⟨hname, by decide, happart, ?_⟩
  cases h : (generate .defaults ⟨[], [entry]⟩).result with
  | error f =>
    rw [h] at hfile
    cases hfile
  | ok files =>
    rw [h] at hfile
    obtain ⟨f, hf, hends⟩ := Option.map_eq_some_iff.mp hfile
    obtain ⟨hfirst, hfault⟩ := Prod.mk.inj hends
    obtain ⟨e, he⟩ := Option.isSome_iff_exists.mp hfault
    refine ⟨files, f, e, rfl, List.mem_of_head? hf, hfirst, ?_⟩
    rw [FileTree.checkSource, FileTree.checkEncoding, he]
    rfl

end Package

end ModelBindings
