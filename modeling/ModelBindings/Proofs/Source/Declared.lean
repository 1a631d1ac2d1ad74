import Mathlib.Data.List.Forall2
import Mathlib.Data.List.Nodup
import ModelBindings.Proofs.Source.ImportBlock
import ModelBindings.Proofs.Source.Names

/-!
# Declared names

The lines of a class body declare a name each: that of a field in snake case or that of an enum
value, with an underscore behind a name that is taken. Neither step keeps all names apart. Two names
may have one snake case, and a taken name may run into one that has the underscore already.

* `StayApart` : the names that stay apart when the taken ones get an underscore;
  `nodup_keepApart_iff` says that there are no others.
* `declaredNames_nodup_iff` : when the names that a class body declares are pairwise different.
* `stayApart_snakeCase` : names in camel case stay apart, whatever is taken.
-/

set_option autoImplicit false

namespace ModelBindings

open Source.Scan (inWord)

/-! ## An underscore behind taken names -/

/-- The name, with an underscore behind it if it is taken. -/
def keepApart (taken : Text → Bool) (name : Text) : Text :=
  if taken name then name ++ "_" else name

/-- The names are pairwise different, and a taken one with an underscore behind it is none of them
that keeps its name. -/
structure StayApart (taken : Text → Bool) (names : List Text) : Prop where
  nodup : names.Nodup
  marked : ∀ n ∈ names, taken n = true → n ++ ("_" : Text) ∈ names → taken (n ++ "_") = true

theorem append_underscore_ne_self (s : Text) : s ++ "_" ≠ s := by
  intro h
  have hlength := congrArg Text.length h
  rw [Text.length_append] at hlength
  have hone : ("_" : Text).length = 1 := rfl
  omega

theorem append_underscore_inj {s t : Text} (h : s ++ "_" = t ++ "_") : s = t := by
  have hl := congrArg Text.toList h
  rw [Text.toList_append, Text.toList_append] at hl
  exact Text.toList_injective (List.append_cancel_right hl)

/-- **Names are kept apart exactly if they stay apart.** -/
theorem nodup_keepApart_iff (taken : Text → Bool) (names : List Text) :
    (names.map (keepApart taken)).Nodup ↔ StayApart taken names := by
  constructor
  · intro h
    refine ⟨h.of_map, fun n hn htaken hm => ?_⟩
    rw [← Bool.not_eq_false]
    intro hfree
    have hsame : keepApart taken n = keepApart taken (n ++ "_") := by
      rw [keepApart, if_pos htaken, keepApart, hfree, if_neg Bool.false_ne_true]
    exact append_underscore_ne_self n (List.inj_on_of_nodup_map h hn hm hsame).symm
  · rintro ⟨hnodup, hmarked⟩
    -- a taken name that is declared like a free one is that name with an underscore
    have hclash : ∀ a ∈ names, ∀ b ∈ names, taken a = true → taken b = false →
        keepApart taken a ≠ keepApart taken b := by
      intro a ha b hb htaken hfree h
      rw [keepApart, if_pos htaken, keepApart, hfree, if_neg Bool.false_ne_true] at h
      subst h
      rw [hmarked a ha htaken hb] at hfree
      cases hfree
    refine hnodup.map_on fun a ha b hb h => ?_
    cases hta : taken a with
    | true =>
      cases htb : taken b with
      | true =>
        rw [keepApart, if_pos hta, keepApart, if_pos htb] at h
        exact append_underscore_inj h
      | false => exact absurd h (hclash a ha b hb hta htb)
    | false =>
      cases htb : taken b with
      | true => exact absurd h.symm (hclash b hb a ha htb hta)
      | false => simpa [keepApart, hta, htb] using h

/-! ## Names in camel case -/

/-- The name is a small letter with letters and digits behind it, all of ASCII. -/
def IsCamelCase (name : Text) : Prop :=
  name.toList.head?.any CodePoint.isLower = true ∧ name.toList.all CodePoint.isAlphanum = true

instance (name : Text) : Decidable (IsCamelCase name) :=
  inferInstanceAs (Decidable (_ ∧ _))

/-- A letter or digit in snake case, behind another one. -/
def snakeChar (c : CodePoint) : List CodePoint :=
  if c.isUpper then ['_', Text.lowerChar c] else [c]

/-- The letters and digits that a text in snake case comes of. -/
def camelChars : List CodePoint → List CodePoint
  | [] => []
  | [c] => [c]
  | c :: d :: r => if c = '_' then d.toUpper :: camelChars r else c :: camelChars (d :: r)

/-- The case of a letter or digit of ASCII, for each of them. -/
theorem lowerChar_alphanum : ∀ n < 128,
    (CodePoint.ofNat n).isAlphanum = true → CodePoint.ofNat n ≠ '_' ∧
    if (CodePoint.ofNat n).isUpper then
      (Text.lowerChar (CodePoint.ofNat n)).toUpper = CodePoint.ofNat n
      else Text.lowerChar (CodePoint.ofNat n) = CodePoint.ofNat n := by
  decide +kernel

theorem lowerChar_of_isAlphanum {c : CodePoint} (h : c.isAlphanum = true) : c ≠ '_' ∧
    if c.isUpper then (Text.lowerChar c).toUpper = c else Text.lowerChar c = c := by
  have hword : isAsciiWordChar c = true := by simp [isAsciiWordChar, h]
  have hc := lowerChar_alphanum c.toNat (lt_of_isAsciiWordChar hword)
  rw [CodePoint.ofNat_toNat] at hc
  exact hc h

theorem camelChars_snakeChar {c : CodePoint} (h : c.isAlphanum = true) (r : List CodePoint) :
    camelChars (snakeChar c ++ r) = c :: camelChars r := by
  obtain ⟨hc, hcase⟩ := lowerChar_of_isAlphanum h
  unfold snakeChar
  split
  · rename_i hupper
    rw [if_pos hupper] at hcase
    rw [List.cons_append, List.singleton_append, camelChars, if_pos rfl, hcase]
  · cases r with
    | nil => rfl
    | cons d r => rw [List.singleton_append, camelChars, if_neg hc]

theorem camelChars_flatMap {cs : List CodePoint} (h : ∀ c ∈ cs, c.isAlphanum = true) :
    camelChars (cs.flatMap snakeChar) = cs := by
  induction cs with
  | nil => rfl
  | cons c r ih =>
    rw [List.flatMap_cons, camelChars_snakeChar (h c List.mem_cons_self),
      ih fun d hd => h d (List.mem_cons_of_mem c hd)]

/-- Behind a letter or digit, letters and digits are taken to snake case one by one. -/
theorem map_lowerChar_markWords {cs : List CodePoint} (h : ∀ c ∈ cs, c.isAlphanum = true) :
    (markWords true cs).map Text.lowerChar = cs.flatMap snakeChar := by
  induction cs with
  | nil => rfl
  | cons c r ih =>
    have hc := h c List.mem_cons_self
    have hr := ih fun d hd => h d (List.mem_cons_of_mem c hd)
    obtain ⟨-, hcase⟩ := lowerChar_of_isAlphanum hc
    rw [markWords, List.flatMap_cons, snakeChar, Bool.true_and]
    split
    · rw [List.map_cons, List.map_cons, hr]
      rfl
    · rename_i hupper
      rw [if_neg hupper] at hcase
      rw [List.map_cons, hc, hr, hcase]
      rfl

/-- A name in camel case is taken to snake case one character at a time. -/
theorem snakeChars_of_isCamelCase {name : Text} (h : IsCamelCase name) :
    snakeChars name.toList = name.toList.flatMap snakeChar := by
  obtain ⟨hhead, hall⟩ := h
  cases hn : name.toList with
  | nil => rfl
  | cons c r =>
    rw [hn] at hhead hall
    have halnum := List.all_eq_true.mp hall
    have hc := halnum c List.mem_cons_self
    have hlower : c.isLower = true := by simpa using hhead
    have hupper : c.isUpper = false := by
      rw [← Bool.not_eq_true, isUpper_iff]
      have hrange := isLower_iff.mp hlower
      omega
    have hr := fun d hd => halnum d (List.mem_cons_of_mem c hd)
    have hword : ∀ d ∈ c :: markWords true r, isAsciiWordChar d = true :=
      List.forall_mem_cons.mpr ⟨by simp [isAsciiWordChar, hc],
        isAsciiWordChar_markWords (fun d hd => by simp [isAsciiWordChar, hr d hd]) true⟩
    have hcase : Text.lowerChar c = c := by simpa [hupper] using (lowerChar_of_isAlphanum hc).2
    rw [snakeChars, markWords, Bool.false_and, if_neg Bool.false_ne_true, hc, Text.lower,
      lowerFrom_of_isAsciiWordChar hword, List.map_cons, map_lowerChar_markWords hr, hcase,
      List.flatMap_cons, snakeChar, hupper]
    rfl

/-- **The snake case of a name in camel case tells the name.** -/
theorem camelChars_snakeCase {name : Text} (h : IsCamelCase name) :
    camelChars (snakeCase name).toList = name.toList := by
  rw [snakeCase, Text.toList_ofList, snakeChars_of_isCamelCase h,
    camelChars_flatMap (List.all_eq_true.mp h.2)]

theorem snakeCase_inj {a b : Text} (ha : IsCamelCase a) (hb : IsCamelCase b)
    (h : snakeCase a = snakeCase b) : a = b := by
  have hchars := congrArg (fun s : Text => camelChars s.toList) h
  simp only [camelChars_snakeCase ha, camelChars_snakeCase hb] at hchars
  exact Text.toList_injective hchars

theorem snakeChar_getLast? {c : CodePoint} (h : c.isAlphanum = true) :
    ∃ d, (snakeChar c).getLast? = some d ∧ d ≠ '_' := by
  obtain ⟨hc, hcase⟩ := lowerChar_of_isAlphanum h
  unfold snakeChar
  split
  · rename_i hupper
    rw [if_pos hupper] at hcase
    refine ⟨Text.lowerChar c, rfl, fun hd => ?_⟩
    rw [hd] at hcase
    exact hc (hcase.symm.trans (by decide))
  · exact ⟨c, rfl, hc⟩

/-- The snake case of a name in camel case has no underscore at its end. -/
theorem snakeCase_ne_append_underscore {name : Text} (h : IsCamelCase name) (s : Text) :
    snakeCase name ≠ s ++ "_" := by
  intro hs
  have hlist := congrArg Text.toList hs
  rw [snakeCase, Text.toList_ofList, snakeChars_of_isCamelCase h, Text.toList_append,
    show ("_" : Text).toList = [.char '_'] from rfl] at hlist
  obtain ⟨front, c, hn⟩ : ∃ front c, name.toList = front ++ [c] := by
    rcases List.eq_nil_or_concat name.toList with hnil | ⟨front, c, hn⟩
    · rw [hnil] at hlist
      simp at hlist
    · exact ⟨front, c, by simpa using hn⟩
  obtain ⟨d, hd, hne⟩ := snakeChar_getLast?
    (List.all_eq_true.mp h.2 c (by rw [hn]; exact List.mem_append_right _ List.mem_cons_self))
  have hlast := congrArg List.getLast? hlist
  rw [hn, List.flatMap_append, List.flatMap_singleton, List.getLast?_append, hd,
    List.getLast?_concat] at hlast
  exact hne (Option.some.inj hlast)

/-- **Names in camel case stay apart in snake case**, whatever is taken. -/
theorem stayApart_snakeCase (taken : Text → Bool) {names : List Text} (hn : names.Nodup)
    (h : ∀ n ∈ names, IsCamelCase n) : StayApart taken (names.map snakeCase) where
  nodup := hn.map_on fun _ ha _ hb hs => snakeCase_inj (h _ ha) (h _ hb) hs
  marked s _ _ hm := by
    obtain ⟨n, hmem, hs⟩ := List.mem_map.mp hm
    exact absurd hs (snakeCase_ne_append_underscore (h n hmem) s)

namespace Source

open Text (closed)

variable {known : List Text}

/-! ## Class bodies -/

/-- The name in snake case is taken: a reserved word, a name that the body refers to, or the name
of an enum. -/
def isTaken (known : List Text) (name : Text) : Bool :=
  isKeyword name || reservedNames.contains name || known.contains name

theorem fieldName_eq (known : List Text) (name : Text) :
    fieldName known name = keepApart (isTaken known) (snakeCase name) := rfl

theorem memberName_eq (name : Text) : memberName name = keepApart isKeyword name := rfl

/-- The name that a line of a class body declares: the word behind the indentation. -/
def declaredName (line : Text) : Text :=
  Text.ofList ((line.toList.drop bodyIndent.toList.length).takeWhile inWord)

/-- A line declares the word that it opens with. -/
theorem declaredName_indented {name rest : Text} {c : CodePoint} {r : List CodePoint}
    (hn : ∀ d ∈ name.toList, inWord d = true) (hr : rest.toList = c :: r)
    (hc : inWord c = false) : declaredName (bodyIndent ++ (name ++ rest)) = name := by
  rw [declaredName, Text.toList_append, List.drop_left, Text.toList_append, hr,
    List.takeWhile_append_of_pos hn, List.takeWhile_cons_of_neg (by simp [hc]), List.append_nil,
    Text.ofList_toList]

theorem inWord_keepApart {taken : Text → Bool} {s : Text}
    (h : ∀ c ∈ s.toList, inWord c = true) : ∀ c ∈ (keepApart taken s).toList, inWord c = true := by
  unfold keepApart
  split
  · intro c hc
    rw [Text.toList_append, show ("_" : Text).toList = [.char '_'] from rfl] at hc
    rcases List.mem_append.mp hc with hc | hc
    · exact h c hc
    · rw [List.mem_singleton.mp hc]
      decide
  · exact h

theorem inWord_snakeCase {s : Text} (h : IsName s) :
    ∀ c ∈ (snakeCase s).toList, inWord c = true := by
  rw [snakeCase, Text.toList_ofList]
  exact inWord_snakeChars (inWord_of_isIdentifier h)

theorem declaredName_member {v : EnumValue} (h : IsName v.name) :
    declaredName (memberText v) = memberName v.name := by
  have hr : (" = \"" ++ (v.name ++ "\"")).toList
      = .char ' ' :: (("= \"" : Text).toList ++ (v.name ++ "\"").toList) := by
    rw [Text.toList_append]
    rfl
  unfold memberText
  rw [memberName_eq]
  simp only [Text.append_assoc]
  exact declaredName_indented (inWord_keepApart (inWord_of_isIdentifier h)) hr (by decide)

/-- The name of a field's line is that of the field. -/
theorem name_renderField {f : Field} {l : FieldLine} (h : (renderField known f).line = .ok l) :
    l.name = fieldName known f.name := by
  obtain ⟨base, p, -, -, rfl, -⟩ := renderField_made h
  rfl

/-- A field line declares the name of the field. -/
theorem declaredName_field {f : Field} (hf : IsName f.name) {l : FieldLine}
    (h : (renderField known f).line = .ok l) :
    declaredName (bodyIndent ++ l.text) = fieldName known f.name := by
  have hcolon : (": " : Text).toList = [.char ':', .char ' '] := rfl
  have hr : (": " ++ (l.type ++ l.valueText)).toList
      = .char ':' :: ([.char ' '] ++ (l.type ++ l.valueText).toList) := by
    rw [Text.toList_append, hcolon, List.cons_append]
  rw [FieldLine.text, name_renderField h, fieldName_eq, Text.append_assoc, Text.append_assoc]
  exact declaredName_indented (inWord_keepApart (inWord_snakeCase hf)) hr (by decide)

/-- Each line is that of its field, so what holds of the line of a field holds line by line. -/
theorem forall₂_of_lines {R : Field → FieldLine → Prop} {fs : List Field} {ls : List FieldLine}
    (h : fs.map (fun f => (renderField known f).line) = ls.map .ok)
    (hline : ∀ f ∈ fs, ∀ l, (renderField known f).line = .ok l → R f l) :
    List.Forall₂ R fs ls := by
  induction fs generalizing ls with
  | nil =>
    cases ls with
    | nil => exact .nil
    | cons l ls => cases h
  | cons f r ih =>
    cases ls with
    | nil => cases h
    | cons l ls =>
      simp only [List.map_cons, List.cons.injEq] at h
      exact .cons (hline f List.mem_cons_self l h.1)
        (ih h.2 fun k hk => hline k (List.mem_cons_of_mem f hk))

theorem map_declaredName_fields {fs : List Field} (hfs : ∀ f ∈ fs, IsName f.name)
    {ls : List FieldLine} (h : fs.map (fun f => (renderField known f).line) = ls.map .ok) :
    ls.map (fun l => declaredName (bodyIndent ++ l.text)) = fs.map (fieldName known ·.name) := by
  have hnames : List.Forall₂ (· = ·) (fs.map (fieldName known ·.name))
      (ls.map fun l => declaredName (bodyIndent ++ l.text)) := by
    rw [List.forall₂_map_left_iff, List.forall₂_map_right_iff]
    exact forall₂_of_lines h fun f hf l hl => (declaredName_field (hfs f hf) hl).symm
  rw [List.forall₂_eq_eq_eq] at hnames
  exact hnames.symm

/-- Names of fields are different if their snake cases stay apart, from each other and from what is
taken. -/
theorem nodup_fieldNames_iff (known : List Text) (fs : List Field) :
    (fs.map (fieldName known ·.name)).Nodup ↔
      StayApart (isTaken known) (fs.map (snakeCase ·.name)) := by
  rw [← nodup_keepApart_iff, List.map_map]
  rfl

/-- Names of members are different if no value is a reserved word that another value is with an
underscore: none of those with an underscore is reserved. -/
theorem nodup_memberNames_iff (vs : List EnumValue) :
    (vs.map (memberName ·.name)).Nodup ↔ (vs.map (·.name)).Nodup ∧
      ∀ v ∈ vs, isKeyword v.name = true → ∀ w ∈ vs, w.name ≠ v.name ++ "_" := by
  have hapart := nodup_keepApart_iff isKeyword (vs.map (·.name))
  rw [List.map_map] at hapart
  refine hapart.trans ⟨fun ⟨hnodup, hmarked⟩ => ⟨hnodup, fun v hv hk w hw hname => ?_⟩,
    fun ⟨hnodup, hmarked⟩ => ⟨hnodup, fun n hn hk hm => ?_⟩⟩
  · have hkept := hmarked v.name (List.mem_map_of_mem hv) hk (List.mem_map.mpr ⟨w, hw, hname⟩)
    rw [isKeyword_append_underscore] at hkept
    cases hkept
  · obtain ⟨v, hv, rfl⟩ := List.mem_map.mp hn
    obtain ⟨w, hw, hname⟩ := List.mem_map.mp hm
    exact absurd hname (hmarked v hv hk w hw)

/-- **When the names that a class body declares are pairwise different**: in the class of a model,
if the snake cases of its fields stay apart from each other and from what is taken; in the class of
an enum, if no value is a reserved word that another value is with an underscore. Each line declares
the name of its field or value. -/
theorem declaredNames_nodup_iff (known : List Text) (enumsModule : Value) {m : Model} {e : Enum}
    (hfields : ∀ f ∈ m.fields, IsName f.name) (hvalues : ∀ v ∈ e.values, IsName v.name) :
    (∀ text, (modelFile known enumsModule m).result = .ok text →
      ∃ imports body : List Text,
        text = closed (imports ++ [("" : Text), "", "class " ++ m.name ++ "(BaseModel):"]
          ++ docBlock [""] (shownText m.documentation) ++ bodyBlock body ++ settingsLines) ∧
        body.map declaredName = m.fields.map (fieldName known ·.name) ∧
        ((body.map declaredName).Nodup ↔
          StayApart (isTaken known) (m.fields.map (snakeCase ·.name)))) ∧
    (∀ text, enumClass e = .ok text →
      ∃ body : List Text,
        text = closed (("class " ++ e.name ++ "(str, Enum):")
          :: (docBlock [] (shownText e.documentation) ++ bodyBlock body)) ∧
        body.map declaredName = e.values.map (memberName ·.name) ∧
        ((body.map declaredName).Nodup ↔
          (e.values.map (·.name)).Nodup ∧
            ∀ v ∈ e.values, isKeyword v.name = true → ∀ w ∈ e.values, w.name ≠ v.name ++ "_")) := by
  constructor
  · intro text h
    obtain ⟨rendered, hrendered, htext⟩ := modelFile_eq h
    obtain ⟨ls, hls, rfl⟩ := result_renderFields hrendered
    have hdeclared : ((ls.map (·.text)).map (bodyIndent ++ ·)).map declaredName
        = m.fields.map (fieldName known ·.name) := by
      rw [List.map_map, List.map_map]
      exact map_declaredName_fields hfields hls
    refine ⟨_, (ls.map (·.text)).map (bodyIndent ++ ·), htext, hdeclared, ?_⟩
    rw [hdeclared]
    exact nodup_fieldNames_iff known m.fields
  · intro text h
    have hdeclared : (e.values.map memberText).map declaredName
        = e.values.map (memberName ·.name) := by
      rw [List.map_map]
      exact List.map_congr_left fun v hv => declaredName_member (hvalues v hv)
    refine ⟨e.values.map memberText, enumClass_eq h, hdeclared, ?_⟩
    rw [hdeclared]
    exact nodup_memberNames_iff e.values

/-- A model of two fields. -/
def ticket (first second : Text) : Model :=
  { name := "Ticket"
    fields := [requiredField first .scalar "Int", requiredField second .scalar "Int"]
    documentation := .null, storageName := .null }

/-- An enum of two values. -/
def flag (first second : Text) : Enum :=
  { name := "Flag", values := [⟨first, .null⟩, ⟨second, .null⟩]
    documentation := .null, storageName := .null }

theorem ticket_names_differ :
    (∃ imports body : List Text,
      (modelFile [] (.text "enums") (ticket "createdAt" "class")).result
        = .ok (closed (imports ++ [("" : Text), "", "class Ticket(BaseModel):"] ++ bodyBlock body
          ++ settingsLines)) ∧
      body.map declaredName = [("created_at" : Text), "class_"] ∧ (body.map declaredName).Nodup) ∧
    ∃ body : List Text,
      enumClass (flag "None" "SOME")
        = .ok (closed (("class Flag(str, Enum):" : Text) :: bodyBlock body)) ∧
      body.map declaredName = [("None_" : Text), "SOME"] ∧ (body.map declaredName).Nodup := by
  have hfields : ∀ f ∈ (ticket "createdAt" "class").fields, IsName f.name := by
    unfold IsName
    decide +kernel
  have hvalues : ∀ v ∈ (flag "None" "SOME").values, IsName v.name := by
    unfold IsName
    decide +kernel
  have hsome : (modelFile [] (.text "enums") (ticket "createdAt" "class")).result.toOption.isSome
      = true := by decide +kernel
  obtain ⟨hmodel, henum⟩ := declaredNames_nodup_iff [] (.text "enums") hfields hvalues
  constructor
  · obtain ⟨text, htext⟩ := Option.isSome_iff_exists.mp hsome
    obtain ⟨imports, body, rfl, hnames, hapart⟩ := hmodel text (toOption_eq_some.mp htext)
    refine ⟨imports, body, ?_, hnames.trans (by decide +kernel), hapart.mpr ?_⟩
    · rw [toOption_eq_some.mp htext, show docBlock [""] (shownText
        (ticket "createdAt" "class").documentation) = [] from rfl, List.append_nil]
      rfl
    · show StayApart _ (["createdAt", "class"].map snakeCase)
      exact stayApart_snakeCase _ (by decide) (by decide)
  · obtain ⟨body, htext, hnames, hapart⟩ := henum _ rfl
    exact ⟨body, congrArg Except.ok htext, hnames.trans (by decide +kernel),
      hapart.mpr ⟨by decide, by decide +kernel⟩⟩

/-- Fields that differ, and values that differ, need not be declared by names that do. -/
theorem ticket_names_collide :
    (∀ f ∈ (ticket "userId" "user_id").fields, IsName f.name) ∧
    ((ticket "userId" "user_id").fields.map (·.name)).Nodup ∧
    (modelFile [] (.text "enums") (ticket "userId" "user_id")).result
      = .ok (closed ([("from __future__ import annotations" : Text), "",
          "from pydantic import BaseModel, ConfigDict, Field", "", "", "class Ticket(BaseModel):",
          "    user_id: int = Field(alias=\"userId\")", "    user_id: int"] ++ settingsLines)) ∧
    [("    user_id: int = Field(alias=\"userId\")" : Text), "    user_id: int"].map declaredName
      = [("user_id" : Text), "user_id"] ∧
    (∀ v ∈ (flag "None" "None_").values, IsName v.name) ∧
    ((flag "None" "None_").values.map (·.name)).Nodup ∧
    enumClass (flag "None" "None_")
      = .ok (closed [("class Flag(str, Enum):" : Text), "    None_ = \"None\"",
          "    None_ = \"None_\""]) ∧
    [("    None_ = \"None\"" : Text), "    None_ = \"None_\""].map declaredName
      = [("None_" : Text), "None_"] := by
  unfold IsName
  exact ⟨by decide +kernel, by decide, toOption_eq_some.mp (by decide +kernel), by decide +kernel,
    by decide +kernel, by decide, toOption_eq_some.mp (by decide +kernel), by decide +kernel⟩

end Source

end ModelBindings
