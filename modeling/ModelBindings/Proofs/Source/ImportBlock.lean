import ModelBindings.Proofs.Source.ModuleOutline
import ModelBindings.Proofs.Source.Stop

/-!
# The imports of a model's module

What fields use is gathered field by field while their lines are made. The imports that come of it
are known from the fields alone, and nothing else in the module imports anything.

* `usage_of_baseType` : what the type of a field uses, from its kind and type.
* `imports_foldl_absorb`, `enums_foldl_absorb` : what fields use together.
* `HasFieldCall` : a field line has a field call as its value; `hasFieldCall_text_iff` reads it off
  the text of a line.
* `modelFile_imports` : the import statements of the module of a model.
-/

set_option autoImplicit false

namespace ModelBindings

/-! ## What a field asks for -/

/-- The field is a scalar of the name. -/
def Field.isScalar (f : Field) (name : Text) : Bool :=
  f.kind = .scalar && f.type.isText name

/-- The field stands for any value: a `Json` scalar, a scalar of another name than those of the
schema language, or a type that has no counterpart. -/
def Field.holdsAny (f : Field) : Bool :=
  match f.kind with
  | .scalar => f.type.isText "Json" || !Source.ScalarType.all.any fun s => f.type.isText s.name
  | .unsupported => true
  | _ => false

/-- The known enum that is the type of a field of an enum. -/
def Field.enumAmong? (known : List Text) (f : Field) : Option Text :=
  match f.kind, f.type with
  | .enum, .text s => if known.contains s then some s else none
  | _, _ => none

namespace Source

open Text (IsLine closed isLine_ofList)

variable {known : List Text} {f : Field}

/-- The known enums among the types of fields, each once, in the order of first use. -/
def usedEnums (known : List Text) (fs : List Field) : List Text :=
  (fs.filterMap (·.enumAmong? known)).eraseDups

/-- What a scalar uses, by its name. -/
theorem usage_ofScalar (s : Text) :
    Usage.ofScalar (ScalarType.all.find? fun k => (Value.text s).isText k.name)
      = { Usage.nothing with
          datetime := (Value.text s).isText "DateTime"
          decimal := (Value.text s).isText "Decimal"
          any := (Value.text s).isText "Json"
            || !ScalarType.all.any fun k => (Value.text s).isText k.name } := by
  cases hfind : ScalarType.all.find? fun k => (Value.text s).isText k.name with
  | some k =>
    obtain rfl : s = k.name := by simpa [Value.isText] using List.find?_some hfind
    cases k <;> rfl
  | none =>
    have hnone : ∀ k ∈ ScalarType.all, (Value.text s).isText k.name = false := by
      simpa using List.find?_eq_none.mp hfind
    have hany : (ScalarType.all.any fun k => (Value.text s).isText k.name) = false :=
      List.any_eq_false.mpr fun k hk => by simp [hnone k hk]
    have hdatetime : (Value.text s).isText "DateTime" = false := hnone .dateTime (by decide)
    have hdecimal : (Value.text s).isText "Decimal" = false := hnone .decimal (by decide)
    rw [hany, hdatetime, hdecimal, Bool.not_false, Bool.or_true]
    rfl

/-- **What the type of a field uses, from its kind and type.** -/
theorem usage_of_baseType {s : Text} (ht : f.type = .text s) {base : BaseType}
    (h : baseType known f = .ok base) :
    base.usage =
      { datetime := f.isScalar "DateTime", decimal := f.isScalar "Decimal", any := f.holdsAny
        fieldCall := false, enumName := f.enumAmong? known
        relation := if f.kind = .object then some f.type else none } := by
  cases hk : f.kind with
  | scalar =>
    rw [baseType_scalar hk ht] at h
    cases h
    rw [ht, usage_ofScalar]
    simp [Field.isScalar, Field.holdsAny, Field.enumAmong?, hk, ht, Usage.nothing]
  | enum =>
    rw [baseType_enum hk ht] at h
    cases h
    simp [Field.isScalar, Field.holdsAny, Field.enumAmong?, hk, ht, Usage.nothing]
  | object =>
    rw [baseType_object hk] at h
    cases h
    simp [Field.isScalar, Field.holdsAny, Field.enumAmong?, hk, Usage.nothing]
  | unsupported =>
    rw [baseType_unsupported hk] at h
    cases h
    simp [Field.isScalar, Field.holdsAny, Field.enumAmong?, hk, Usage.nothing]

/-! ## What fields use together -/

/-- The imports of a module by what its fields use. -/
def Imports.using (datetime decimal any call : Bool) : Imports :=
  { datetime, decimal, enum := false
    typing := if any then ["Any"] else []
    pydantic := if call then ["BaseModel", "Field"] else ["BaseModel"] }

theorem absorbImports_using (datetime decimal any call : Bool) (u : Usage) :
    Needs.absorbImports (.using datetime decimal any call) u
      = .using (datetime || u.datetime) (decimal || u.decimal) (any || u.any)
          (call || u.fieldCall) := by
  unfold Needs.absorbImports Imports.using
  cases any <;> cases call <;> cases u.any <;> cases u.fieldCall <;> rfl

theorem imports_foldl_absorb (us : List Usage) {n : Needs} {datetime decimal any call : Bool}
    (hn : n.imports = .using datetime decimal any call) :
    (us.foldl Needs.absorb n).imports
      = .using (datetime || us.any (·.datetime)) (decimal || us.any (·.decimal))
          (any || us.any (·.any)) (call || us.any (·.fieldCall)) := by
  induction us generalizing n datetime decimal any call with
  | nil => simpa using hn
  | cons u r ih =>
    have hu := absorbImports_using datetime decimal any call u
    rw [← hn] at hu
    rw [List.foldl_cons, ih (n := n.absorb u) hu]
    simp only [List.any_cons, Bool.or_assoc]

/-- The enums of further fields come behind those that are there. -/
theorem enums_foldl_absorb (n : Needs) (us : List Usage) :
    (us.foldl Needs.absorb n).enums
      = n.enums ++ ((us.filterMap (·.enumName)).filter (· ∉ n.enums)).eraseDups := by
  induction us generalizing n with
  | nil => simp
  | cons u r ih =>
    rw [List.foldl_cons, ih]
    show Needs.absorbEnum n.enums u.enumName
      ++ ((r.filterMap (·.enumName)).filter (· ∉ Needs.absorbEnum n.enums u.enumName)).eraseDups = _
    cases hu : u.enumName with
    | none =>
      rw [List.filterMap_cons_none hu]
      rfl
    | some e =>
      rw [List.filterMap_cons_some hu]
      by_cases he : e ∈ n.enums
      · rw [List.filter_cons_of_neg (by simpa using he)]
        simp [Needs.absorbEnum, he]
      · rw [List.filter_cons_of_pos (by simpa using he), List.eraseDups_cons, List.filter_filter]
        simp only [Needs.absorbEnum, List.contains_eq_mem, he, decide_false, Bool.false_eq_true,
          if_false, List.append_assoc, List.singleton_append]
        congr 3
        refine List.filter_congr fun k _ => ?_
        by_cases hk : k = e <;> simp [hk]

/-- The import lines of a module. -/
theorem neededImports_using (datetime decimal any call : Bool) (enums : List Text)
    (relations : List Value) (enumsModule : Text) :
    neededImports enumsModule ⟨.using datetime decimal any call, enums, relations⟩
      = outerImports datetime decimal any call ++ enums.map (enumImport enumsModule) := by
  unfold neededImports importLines outerImports Imports.addPydantic Imports.using
  dsimp only
  rw [pydanticNames, typingNames]
  simp only [lineIf, Bool.false_eq_true, if_false, List.append_nil]

/-! ## Field calls -/

/-- The line has a field call as its value. -/
def HasFieldCall (line : Text) : Prop :=
  ∃ name type arguments, line = name ++ ": " ++ type ++ " = Field(" ++ arguments ++ ")"

/-- The last character of a text. -/
def EndsIn (s : Text) (c : CodePoint) : Prop :=
  s.toList.getLast? = some c

theorem EndsIn.append {s t : Text} {c : CodePoint} (h : EndsIn t c) : EndsIn (s ++ t) c := by
  unfold EndsIn at *
  rw [Text.toList_append, List.getLast?_append, h]
  rfl

theorem endsIn_of_hasFieldCall {line : Text} (h : HasFieldCall line) : EndsIn line ')' := by
  obtain ⟨name, type, arguments, rfl⟩ := h
  exact (show EndsIn ")" ')' by unfold EndsIn; decide).append

/-- A text that ends in something else than a closing bracket. -/
def EndsOpen (s : Text) : Prop :=
  ∃ c, EndsIn s c ∧ c ≠ ')'

theorem EndsOpen.append {s t : Text} (h : EndsOpen t) : EndsOpen (s ++ t) := by
  obtain ⟨c, hc, hne⟩ := h
  exact ⟨c, hc.append, hne⟩

theorem endsOpen_of_isName {s : Text} (h : IsName s) : EndsOpen s := by
  obtain ⟨front, c, hs, hc⟩ := exists_last_of_isName h
  refine ⟨c, by simp [EndsIn, hs], ?_⟩
  rintro rfl
  exact absurd hc (by decide)

theorem endsOpen_of_isDigits {cs : List CodePoint} (h : IsDigits cs) (front : List CodePoint) :
    EndsOpen (Text.ofList (front ++ cs)) := by
  have hlast := List.getLast_mem h.ne_nil
  refine ⟨cs.getLast h.ne_nil, ?_, ?_⟩
  · rw [EndsIn, Text.toList_ofList, List.getLast?_append,
      List.getLast?_eq_getLast_of_ne_nil h.ne_nil]
    rfl
  · intro he
    rw [he] at hlast
    exact absurd (h.digit _ hlast) (by decide)

theorem endsOpen_of_isDecimal {cs : List CodePoint} (h : IsDecimal cs) (front : List CodePoint) :
    EndsOpen (Text.ofList (front ++ cs)) := by
  cases h with
  | plain ha hb =>
    rename_i a b
    have hopen := endsOpen_of_isDigits hb (front ++ (a ++ [.char '.']))
    simpa only [List.append_assoc, List.singleton_append] using hopen
  | exponent hd hs he =>
    rename_i d s e
    simpa using endsOpen_of_isDigits he (front ++ [d, .char 'e', s])
  | fraction hd hb hs he =>
    rename_i d s b e
    simpa using endsOpen_of_isDigits he (front ++ [d, .char '.'] ++ b ++ [.char 'e', s])

theorem endsOpen_of_isLiteral {d : Default} {s : Text} (h : IsLiteral d s) : EndsOpen s := by
  cases h with
  | bool b => cases b <;> exact ⟨'e', by unfold EndsIn; decide, by decide⟩
  | text s => exact EndsOpen.append ⟨'"', by unfold EndsIn; decide, by decide⟩
  | integer n h =>
    cases n with
    | ofNat n => exact endsOpen_of_isDigits (Text.isDigits_digits n) []
    | negSucc n => exact endsOpen_of_isDigits (Text.isDigits_digits (n + 1)) [.char '-']
  | double x =>
    obtain ⟨sign, body, h, -, hbody⟩ := DecimalFormat.text_shape Value.doubleFormat x
    rw [h]
    rcases hbody with rfl | rfl | hd
    · rw [Text.ofList_append]
      exact EndsOpen.append ⟨'n', by unfold EndsIn; decide, by decide⟩
    · rw [Text.ofList_append]
      exact EndsOpen.append ⟨'f', by unfold EndsIn; decide, by decide⟩
    · exact endsOpen_of_isDecimal hd sign

theorem endsOpen_targetOf (s : Option ScalarType) : EndsOpen (ScalarType.targetOf s) := by
  refine endsOpen_of_isName ?_
  unfold IsName
  cases s with
  | none => decide +kernel
  | some s => cases s <;> decide +kernel

theorem endsOpen_wrapType {s : Text} (h : EndsOpen s) : EndsOpen (wrapType f s) := by
  unfold wrapType
  split
  · exact EndsOpen.append ⟨']', by unfold EndsIn; decide, by decide⟩
  · split
    · exact h
    · exact EndsOpen.append ⟨'e', by unfold EndsIn; decide, by decide⟩

theorem endsOpen_of_isDefaultPart {p : DefaultPart} (h : IsDefaultPart f p) {s : Text}
    (hs : p = .literal s) : EndsOpen s := by
  cases h with
  | none => cases hs
  | literal h =>
    cases hs
    exact endsOpen_of_isLiteral h
  | null =>
    cases hs
    exact ⟨'e', by unfold EndsIn; decide, by decide⟩
  | list => cases hs

/-- **The text of a line shows whether its value is a field call.** -/
theorem hasFieldCall_text_iff (hf : f.IsNamed) {l : FieldLine}
    (h : (renderField known f).line = .ok l) : HasFieldCall l.text ↔ l.hasCall = true := by
  obtain ⟨base, default, hbase, hdefault, rfl, -⟩ := renderField_eq_ok h
  obtain ⟨t, ht, hname⟩ := hf.type
  have htype : EndsOpen base.text := by
    cases hbase with
    | scalar s h he => exact h ▸ endsOpen_targetOf s
    | named hn h he =>
      rw [h, ht]
      exact endsOpen_of_isName (hname hn)
  by_cases hcall : (lineOf known f base.text default).hasCall = true
  · refine ⟨fun _ => hcall, fun _ => ⟨(lineOf known f base.text default).name,
      (lineOf known f base.text default).type,
      Text.join ", " (lineOf known f base.text default).arguments, ?_⟩⟩
    unfold FieldLine.text FieldLine.valueText
    rw [if_pos hcall]
    simp only [Text.append_assoc]
  · refine ⟨fun hshown => ?_, fun hc => absurd hc hcall⟩
    -- without a call the line ends in its type or in a literal
    have hopen : EndsOpen (lineOf known f base.text default).text := by
      unfold FieldLine.text FieldLine.valueText
      rw [if_neg hcall]
      split
      · rename_i s hs
        exact (endsOpen_of_isDefaultPart hdefault hs).append.append
      · rw [Text.append_empty]
        exact (endsOpen_wrapType htype).append
    obtain ⟨c, hc, hne⟩ := hopen
    exact absurd (Option.some.inj (hc.symm.trans (endsIn_of_hasFieldCall hshown))) hne

/-! ## The module of a model -/

/-- The line is an import statement at the margin. -/
def isImport (line : Text) : Bool :=
  ("from " : Text).toList.isPrefixOf line.toList || ("import " : Text).toList.isPrefixOf line.toList

theorem isImport_eq_false {line : Text} {c : CodePoint} (h : line.toList.head? = some c)
    (hf : c ≠ 'f') (hi : c ≠ 'i') : isImport line = false := by
  unfold isImport
  cases hl : line.toList with
  | nil =>
    rw [hl] at h
    cases h
  | cons d r =>
    rw [hl] at h
    cases h
    simp [List.isPrefixOf, Ne.symm hf, Ne.symm hi]

theorem IsInner.isImport_eq_false {line : Text} (h : IsInner line) : isImport line = false := by
  have ho := h.opens
  unfold opensStatement at ho
  cases hl : line.toList with
  | nil => simp [isImport, hl]
  | cons c r =>
    rw [hl] at ho
    obtain rfl : c = ' ' := by simpa using ho
    exact ModelBindings.Source.isImport_eq_false (c := ' ') (by rw [hl]; rfl) (by decide)
      (by decide)

/-- Behind its imports, the module of a model imports nothing. -/
theorem modelRest_imports_nothing {m : Model} {lines : List Text} (hm : IsName m.name)
    (hlines : ∀ l ∈ lines, IsLine l) :
    ∀ l ∈ modelRest m lines, IsLine l ∧ isImport l = false := by
  intro l hl
  rcases mem_modelRest hlines hl with rfl | hinner
  · refine ⟨(isPlain_classLine hm (isLine_ofList (by decide))).isLine,
      isImport_eq_false (c := 'c') ?_ (by decide) (by decide)⟩
    simp [Text.toList_append]
  · exact ⟨hinner.isLine, hinner.isImport_eq_false⟩

/-- **What a field uses that has a line.** -/
theorem usage_of_renderField {s : Text} (ht : f.type = .text s) {l : FieldLine}
    (h : (renderField known f).line = .ok l) :
    (renderField known f).usage =
      { datetime := f.isScalar "DateTime", decimal := f.isScalar "Decimal", any := f.holdsAny
        fieldCall := l.hasCall, enumName := f.enumAmong? known
        relation := if f.kind = .object then some f.type else none } := by
  obtain ⟨base, p, hb, -, -, husage⟩ := renderField_made h
  rw [husage, usage_of_baseType ht hb]

/-- What fields use that have lines, field by field. -/
theorem usages_of_lines {fs : List Field} (hfs : ∀ f ∈ fs, ∃ s, f.type = .text s)
    {ls : List FieldLine} (h : fs.map (fun f => (renderField known f).line) = ls.map .ok) :
    let us := fs.map fun f => (renderField known f).usage
    us.any (·.datetime) = fs.any (·.isScalar "DateTime") ∧
      us.any (·.decimal) = fs.any (·.isScalar "Decimal") ∧
      us.any (·.any) = fs.any (·.holdsAny) ∧
      us.any (·.fieldCall) = ls.any (·.hasCall) ∧
      us.filterMap (·.enumName) = fs.filterMap (·.enumAmong? known) := by
  induction fs generalizing ls with
  | nil =>
    cases ls with
    | nil => exact ⟨rfl, rfl, rfl, rfl, rfl⟩
    | cons l ls => cases h
  | cons f r ih =>
    cases ls with
    | nil => cases h
    | cons l ls =>
      simp only [List.map_cons, List.cons.injEq] at h
      obtain ⟨h1, h2, h3, h4, h5⟩ := ih (fun k hk => hfs k (List.mem_cons_of_mem f hk)) h.2
      obtain ⟨s, hs⟩ := hfs f List.mem_cons_self
      have hu := usage_of_renderField hs h.1
      simp only [List.map_cons, List.any_cons, List.filterMap_cons, hu, h1, h2, h3, h4, h5,
        and_self]

/-- **What fields need together that have lines.** -/
theorem needs_of_lines {fs : List Field} (hfs : ∀ f ∈ fs, ∃ s, f.type = .text s)
    {ls : List FieldLine} (h : fs.map (fun f => (renderField known f).line) = ls.map .ok) :
    ∃ relations, fs.foldl (fun (n : Needs) f => n.absorb (renderField known f).usage) Needs.initial
      = ⟨.using (fs.any (·.isScalar "DateTime")) (fs.any (·.isScalar "Decimal"))
          (fs.any (·.holdsAny)) (ls.any (·.hasCall)), usedEnums known fs, relations⟩ := by
  obtain ⟨h1, h2, h3, h4, h5⟩ := usages_of_lines hfs h
  have hinitial : Needs.initial.imports = .using false false false false := rfl
  have himports := imports_foldl_absorb (fs.map fun f => (renderField known f).usage) hinitial
  have henums := enums_foldl_absorb .initial (fs.map fun f => (renderField known f).usage)
  rw [h1, h2, h3, h4] at himports
  rw [h5] at henums
  simp only [Bool.false_or, show Needs.initial.enums = [] from rfl, List.not_mem_nil,
    not_false_eq_true, decide_true, List.filter_true, List.nil_append] at himports henums
  rw [← List.foldl_map (f := fun f => (renderField known f).usage) (g := Needs.absorb)]
  exact ⟨_, congrArg₂ (fun i e => (⟨i, e, _⟩ : Needs)) himports henums⟩

/-- **The import statements of the module of a model.** -/
theorem modelFile_imports (known : List Text) (enumsModule : Value) {m : Model}
    (hname : IsName m.name) (hfields : ∀ f ∈ m.fields, f.IsNamed) (htyped : m.IsTyped) :
    match (modelFile known enumsModule m).result with
    | .error e => e = .value .tooManyDigits ∧ ∃ f ∈ m.fields, f.IsOverlong
    | .ok text => ∃ (lines : List Text) (call : Bool), lines.length = m.fields.length ∧
        (call = true ↔ ∃ l ∈ lines, HasFieldCall l) ∧
        text = closed ([("from __future__ import annotations" : Text), ""]
          ++ lineIf (m.fields.any (·.isScalar "DateTime")) "from datetime import datetime"
          ++ lineIf (m.fields.any (·.isScalar "Decimal")) "from decimal import Decimal"
          ++ lineIf (m.fields.any (·.holdsAny)) "from typing import Any"
          ++ [if call then ("from pydantic import BaseModel, ConfigDict, Field" : Text)
              else "from pydantic import BaseModel, ConfigDict"]
          ++ (usedEnums known m.fields).map (fun e =>
              ("from ." ++ enumsModule.display ++ " import " ++ e : Text))
          ++ modelRest m lines) ∧
        ∀ l ∈ modelRest m lines, IsLine l ∧ isImport l = false := by
  cases hr : (modelFile known enumsModule m).result with
  | error e => exact modelFile_stops htyped hr
  | ok text =>
    obtain ⟨rendered, hrendered, rfl⟩ := modelFile_eq hr
    obtain ⟨ls, hls, rfl⟩ := result_renderFields hrendered
    obtain ⟨relations, hneeds⟩ := needs_of_lines (fun f hf => (htyped.fields f hf).type) hls
    have hlength : ls.length = m.fields.length := by
      simpa using (congrArg List.length hls).symm
    -- each line is that of a field
    have hline : ∀ l ∈ ls, ∃ f ∈ m.fields, (renderField known f).line = .ok l := by
      intro l hl
      have hok : (.ok l : Except Fault FieldLine) ∈ ls.map .ok := List.mem_map_of_mem hl
      rw [← hls] at hok
      exact List.mem_map.mp hok
    refine ⟨ls.map (·.text), ls.any (·.hasCall), by simpa using hlength, ?_, ?_, ?_⟩
    · simp only [List.any_eq_true, List.mem_map, exists_exists_and_eq_and]
      refine exists_congr fun l => and_congr_right fun hl => ?_
      obtain ⟨f, hf, hfl⟩ := hline l hl
      exact (hasFieldCall_text_iff (hfields f hf) hfl).symm
    · simp only [modelLines, modelRest, hneeds, neededImports_using, outerImports, pydanticLine,
        List.append_assoc]
      rfl
    · refine modelRest_imports_nothing hname fun l hl => ?_
      obtain ⟨line, hmem, rfl⟩ := List.mem_map.mp hl
      obtain ⟨f, hf, hfl⟩ := hline line hmem
      exact isLine_renderField (hfields f hf) hfl

/-- A required field that has neither default nor documentation. -/
def requiredField (name : Text) (kind : FieldKind) (type : Text) : Field :=
  { name, kind, type := .text type, isList := false, isRequired := true, isId := false
    isUnique := false, isUpdatedAt := false, hasDefault := false, default := .value .null
    documentation := .null, storageName := .null, relationName := .null, relationFrom := []
    relationTo := [] }

/-- A model with two fields of one enum and a relation. -/
def booking : Model :=
  { name := "Booking"
    fields := [requiredField "createdAt" .scalar "DateTime", requiredField "state" .enum "State",
      requiredField "former" .enum "State", requiredField "owner" .object "User"]
    documentation := .null, storageName := .null }

theorem booking_imports :
    ∃ (lines : List Text) (call : Bool),
      (modelFile ["Mode", "State"] (.text "enums") booking).result
        = .ok (closed
          ([("from __future__ import annotations" : Text), "", "from datetime import datetime",
            if call then "from pydantic import BaseModel, ConfigDict, Field"
              else "from pydantic import BaseModel, ConfigDict",
            "from .enums import State"] ++ modelRest booking lines)) ∧
      (call = true ↔ ∃ l ∈ lines, HasFieldCall l) := by
  have hname : ∀ s ∈ ["Booking", "createdAt", "DateTime", "state", "State", "former", "owner",
      "User"], IsName s := by
    unfold IsName
    decide +kernel
  have hfield : ∀ {n : Text} {k : FieldKind} {t : Text}, IsName n → IsName t →
      (requiredField n k t).IsNamed := fun hn ht => ⟨hn, _, rfl, fun _ => ht⟩
  have hfields : ∀ f ∈ booking.fields, f.IsNamed := by
    simp only [booking, List.forall_mem_cons]
    exact ⟨hfield (hname _ (by decide)) (hname _ (by decide)),
      hfield (hname _ (by decide)) (hname _ (by decide)),
      hfield (hname _ (by decide)) (hname _ (by decide)),
      hfield (hname _ (by decide)) (hname _ (by decide)), List.forall_mem_nil _⟩
  have htyped : booking.IsTyped := by
    refine ⟨fun f hf => ?_, .inl rfl⟩
    obtain ⟨s, hs, -⟩ := (hfields f hf).type
    refine ⟨⟨s, hs⟩, ?_⟩
    simp only [booking, List.mem_cons, List.not_mem_nil, or_false] at hf
    rcases hf with rfl | rfl | rfl | rfl <;> exact .inl rfl
  have h := modelFile_imports ["Mode", "State"] (.text "enums") (hname "Booking" (by decide))
    hfields htyped
  have hok : (modelFile ["Mode", "State"] (.text "enums") booking).result.isOk = true := by
    decide +kernel
  cases hr : (modelFile ["Mode", "State"] (.text "enums") booking).result with
  | error e =>
    rw [hr] at hok
    cases hok
  | ok text =>
    rw [hr] at h
    obtain ⟨lines, call, -, hcall, htext, -⟩ := h
    refine ⟨lines, call, ?_, hcall⟩
    rw [htext]
    rfl

end Source

end ModelBindings
