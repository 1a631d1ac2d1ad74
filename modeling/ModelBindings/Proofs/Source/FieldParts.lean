import ModelBindings.Proofs.Source.Declared
import ModelBindings.Proofs.Source.Literal

/-!
# The parts of a field line, read off the line

A field line can be taken apart in one way only. The name ends at the colon and the type at the
equals sign, which neither of them holds. An argument of a field call ends where its value does: a
text between quotes at the first quote that is not escaped, and any other value at a comma or a
bracket.

* `append_inj_of_stop`, `append_operand_inj` : what ends a part tells it from what follows.
* `callText_inj` : the arguments of a field call.
* `text_inj` : the parts of a line.
* `renderField_inj` : two fields with one line.
-/

set_option autoImplicit false

namespace ModelBindings

/-- The name of a field is an identifier, and so is a type that names an enum or a model. -/
structure Field.IsIdentified (f : Field) : Prop where
  name : IsName f.name
  type : f.namesType → ∃ s, f.type = .text s ∧ IsName s

namespace Source

open Scan (IsContent)

variable {known : List Text} {f g : Field} {l k : FieldLine}

/-! ## Where parts end -/

/-- A part that lacks the characters that may stand behind it ends at the first of them. -/
theorem append_inj_of_stop {p : CodePoint → Prop} {a b r s : List CodePoint} (ha : ∀ c ∈ a, ¬ p c)
    (hb : ∀ c ∈ b, ¬ p c) (hr : ∀ c ∈ r.head?, p c) (hs : ∀ c ∈ s.head?, p c)
    (h : a ++ r = b ++ s) : a = b ∧ r = s := by
  induction a generalizing b with
  | nil =>
    cases b with
    | nil => exact ⟨rfl, h⟩
    | cons d b =>
      rw [List.nil_append] at h
      exact absurd (hr d (by simp [h])) (hb d List.mem_cons_self)
  | cons c a ih =>
    cases b with
    | nil =>
      rw [List.nil_append] at h
      exact absurd (hs c (by simp [← h])) (ha c List.mem_cons_self)
    | cons d b =>
      rw [List.cons_append, List.cons_append, List.cons.injEq] at h
      obtain ⟨rfl, h⟩ := h
      obtain ⟨rfl, hrest⟩ := ih (fun e he => ha e (List.mem_cons_of_mem c he))
        (fun e he => hb e (List.mem_cons_of_mem c he)) h
      exact ⟨rfl, hrest⟩

/-- A part ends at the first character that it lacks. -/
theorem append_cons_inj {c : CodePoint} {a b r s : List CodePoint} (ha : c ∉ a) (hb : c ∉ b)
    (h : a ++ c :: r = b ++ c :: s) : a = b ∧ r = s := by
  obtain ⟨hab, hrest⟩ := append_inj_of_stop (p := (· = c)) (fun d hd hc => ha (hc ▸ hd))
    (fun d hd hc => hb (hc ▸ hd)) (by simp) (by simp) h
  exact ⟨hab, List.tail_eq_of_cons_eq hrest⟩

/-- The value of an argument: a content between quotes, or a text without quote, comma and closing
bracket. -/
inductive IsOperand : List CodePoint → Prop where
  | quoted {cs : List CodePoint} (h : IsContent false cs) :
      IsOperand (.char '"' :: (cs ++ [.char '"']))
  | bare {cs : List CodePoint} (h : ∀ c ∈ cs, c ∉ (['"', ',', ')'] : List CodePoint)) : IsOperand cs

/-- What may stand behind the value of an argument: another argument, the end of the call, or
nothing. -/
def EndsOperand (r : List CodePoint) : Prop :=
  ∀ c ∈ r.head?, c = ',' ∨ c = ')'

theorem quoted_append_ne_bare {cs b r s : List CodePoint}
    (hb : ∀ c ∈ b, c ∉ (['"', ',', ')'] : List CodePoint))
    (hs : EndsOperand s) : .char '"' :: (cs ++ [.char '"']) ++ r ≠ b ++ s := by
  intro h
  cases b with
  | nil =>
    rw [List.nil_append, List.cons_append] at h
    exact absurd (hs '"' (by simp [← h])) (by decide)
  | cons c b =>
    rw [List.cons_append, List.cons_append, List.cons.injEq] at h
    exact hb c List.mem_cons_self (by simp [← h.1])

/-- **The value of an argument ends in one place only.** -/
theorem append_operand_inj {a b r s : List CodePoint} (ha : IsOperand a) (hb : IsOperand b)
    (hr : EndsOperand r) (hs : EndsOperand s) (h : a ++ r = b ++ s) : a = b ∧ r = s := by
  cases ha with
  | quoted ha =>
    cases hb with
    | quoted hb =>
      rename_i cs ds
      have hquotes : cs ++ (quotesOf false ++ r) = ds ++ (quotesOf false ++ s) := by
        simpa [quotesOf] using h
      obtain ⟨rfl, hrest⟩ := append_quotes_inj ha hb hquotes
      exact ⟨rfl, hrest⟩
    | bare hb => exact absurd h (quoted_append_ne_bare hb hs)
  | bare ha =>
    cases hb with
    | quoted hb => exact absurd h.symm (quoted_append_ne_bare ha hr)
    | bare hb =>
      refine append_inj_of_stop (p := fun c => c = ',' ∨ c = ')') (fun c hc hstop => ?_)
        (fun c hc hstop => ?_) hr hs h
      · rcases hstop with rfl | rfl <;> exact ha _ hc (by decide)
      · rcases hstop with rfl | rfl <;> exact hb _ hc (by decide)

/-! ## Arguments -/

/-- The arguments of the field call of a line, name and value apart. -/
def FieldLine.parts (l : FieldLine) : List (Text × Text) :=
  (match l.default with
    | .none => []
    | .literal s => [(("default" : Text), s)]
    | .factory s => [(("default_factory" : Text), s)])
  ++ (l.documentName.map fun a => (("alias" : Text), ("\"" ++ a ++ "\"" : Text))).toList
  ++ (l.documentation.map fun d =>
    (("description" : Text), ("\"" ++ escape d ++ "\"" : Text))).toList

/-- An argument of a call. -/
def argumentText (p : Text × Text) : Text :=
  p.1 ++ "=" ++ p.2

theorem arguments_eq (l : FieldLine) : l.arguments = l.parts.map argumentText := by
  have hdefault : ("default=" : Text) = "default" ++ "=" := rfl
  have hfactory : ("default_factory=" : Text) = "default_factory" ++ "=" := rfl
  have halias : ("alias=\"" : Text) = "alias" ++ ("=" ++ "\"") :=
    rfl
  have hdescription : ("description=\"" : Text) = "description" ++ ("=" ++ "\"") :=
    rfl
  unfold FieldLine.arguments FieldLine.parts FieldLine.notes
  cases l.default <;> cases l.documentName <;> cases l.documentation <;>
    simp only [argumentText, hdefault, hfactory, halias, hdescription, Text.append_assoc,
      Option.map_none, Option.map_some, Option.toList_none, Option.toList_some, List.append_nil,
      List.nil_append, List.cons_append, List.map_cons, List.map_nil]

/-- An argument that can be told from what follows. -/
structure IsNamedOperand (p : Text × Text) : Prop where
  name : .char '=' ∉ p.1.toList
  value : IsOperand p.2.toList

theorem argumentText_append_inj {p q : Text × Text} {r s : List CodePoint} (hp : IsNamedOperand p)
    (hq : IsNamedOperand q) (hr : EndsOperand r) (hs : EndsOperand s)
    (h : (argumentText p).toList ++ r = (argumentText q).toList ++ s) : p = q ∧ r = s := by
  have hequals : ("=" : Text).toList = [.char '='] := rfl
  simp only [argumentText, Text.toList_append, hequals, List.append_assoc,
    List.singleton_append] at h
  obtain ⟨hname, h⟩ := append_cons_inj hp.name hq.name h
  obtain ⟨hvalue, hrest⟩ := append_operand_inj hp.value hq.value hr hs h
  exact ⟨Prod.ext (Text.toList_injective hname) (Text.toList_injective hvalue), hrest⟩

/-- The arguments of a call up to its end. -/
def callText : List (Text × Text) → List CodePoint
  | [] => []
  | [p] => (argumentText p).toList ++ [.char ')']
  | p :: q :: r => (argumentText p).toList ++ .char ',' :: .char ' ' :: callText (q :: r)

theorem toList_join_arguments {ps : List (Text × Text)} (h : ps ≠ []) :
    (Text.join ", " (ps.map argumentText) ++ ")").toList = callText ps := by
  have hend : (")" : Text).toList = [.char ')'] := rfl
  have hcomma : (", " : Text).toList = [.char ',', .char ' '] := rfl
  induction ps with
  | nil => exact absurd rfl h
  | cons p r ih =>
    cases r with
    | nil => simp [Text.join, callText]
    | cons q r =>
      have hr := ih (List.cons_ne_nil q r)
      rw [Text.toList_append, hend] at hr
      simp only [List.map_cons] at hr ⊢
      simp only [Text.join_cons_cons, Text.toList_append, hend, hcomma, List.append_assoc, hr,
        callText, List.cons_append, List.nil_append]

/-- **The arguments of a call can be read off its text.** -/
theorem callText_inj {ps qs : List (Text × Text)} (hps : ∀ p ∈ ps, IsNamedOperand p)
    (hqs : ∀ q ∈ qs, IsNamedOperand q) (hp : ps ≠ []) (hq : qs ≠ [])
    (h : callText ps = callText qs) : ps = qs := by
  have hclose : EndsOperand [.char ')'] := by simp [EndsOperand]
  have hnext : ∀ r, EndsOperand (.char ',' :: r) := fun r => by simp [EndsOperand]
  induction ps generalizing qs with
  | nil => exact absurd rfl hp
  | cons p r ih =>
    cases qs with
    | nil => exact absurd rfl hq
    | cons q s =>
      have hpa := hps p List.mem_cons_self
      have hqa := hqs q List.mem_cons_self
      cases r with
      | nil =>
        cases s with
        | nil => rw [(argumentText_append_inj hpa hqa hclose hclose h).1]
        | cons q' s =>
          have hrest := (argumentText_append_inj hpa hqa hclose (hnext _) h).2
          exact absurd (List.head_eq_of_cons_eq hrest) (by decide)
      | cons p' r =>
        cases s with
        | nil =>
          have hrest := (argumentText_append_inj hpa hqa (hnext _) hclose h).2
          exact absurd (List.head_eq_of_cons_eq hrest) (by decide)
        | cons q' s =>
          obtain ⟨rfl, hrest⟩ := argumentText_append_inj hpa hqa (hnext _) (hnext _) h
          rw [List.cons.injEq, List.cons.injEq] at hrest
          rw [ih (fun e he => hps e (List.mem_cons_of_mem p he))
            (fun e he => hqs e (List.mem_cons_of_mem p he)) (List.cons_ne_nil _ _)
            (List.cons_ne_nil _ _) hrest.2.2]

/-! ## Lines -/

/-- A line whose parts can be told from each other. -/
structure FieldLine.IsReadable (l : FieldLine) : Prop where
  name : .char ':' ∉ l.name.toList
  type : .char '=' ∉ l.type.toList
  default : ∀ s, l.default = .literal s ∨ l.default = .factory s → IsOperand s.toList
  documentName : ∀ n, l.documentName = some n → IsContent false n.toList

theorem FieldLine.IsReadable.isNamedOperand (h : l.IsReadable) :
    ∀ p ∈ l.parts, IsNamedOperand p := by
  have hquote : ("\"" : Text).toList = [.char '"'] := rfl
  have hquoted : ∀ {s : Text}, IsContent false s.toList →
      IsOperand ("\"" ++ s ++ "\"").toList := by
    intro s hs
    simpa [hquote] using IsOperand.quoted hs
  have hnames : ∀ n ∈ [("default" : Text), "default_factory", "alias", "description"],
      .char '=' ∉ n.toList := by decide
  intro p hp
  simp only [FieldLine.parts, List.mem_append, Option.mem_toList, Option.map_eq_some_iff] at hp
  rcases hp with (hp | ⟨n, hn, rfl⟩) | ⟨d, -, rfl⟩
  · split at hp
    · cases hp
    · rename_i s hs
      obtain rfl := List.mem_singleton.mp hp
      exact ⟨hnames _ (by simp), h.default s (.inl hs)⟩
    · rename_i s hs
      obtain rfl := List.mem_singleton.mp hp
      exact ⟨hnames _ (by simp), h.default s (.inr hs)⟩
  · exact ⟨hnames _ (by simp), hquoted (h.documentName n hn)⟩
  · refine ⟨hnames _ (by simp), hquoted ?_⟩
    exact Scan.isContent_escapeChars _

/-- What the argument of a name says. -/
theorem lookup_parts (l : FieldLine) :
    l.parts.lookup ("default" : Text) = (match l.default with | .literal s => some s | _ => none) ∧
      l.parts.lookup ("default_factory" : Text)
        = (match l.default with | .factory s => some s | _ => none) ∧
      l.parts.lookup ("alias" : Text) = l.documentName.map (fun a => ("\"" ++ a ++ "\"" : Text)) ∧
      l.parts.lookup ("description" : Text) =
        l.documentation.map fun d => ("\"" ++ escape d ++ "\"" : Text) := by
  unfold FieldLine.parts
  cases l.default <;> cases l.documentName <;> cases l.documentation <;> simp [List.lookup_cons]

/-- The arguments of a field call tell what they were made from. -/
theorem parts_inj (h : l.parts = k.parts) :
    l.default = k.default ∧ l.documentName = k.documentName ∧
      l.documentation = k.documentation := by
  obtain ⟨hliteral, hfactory, halias, hdescription⟩ := lookup_parts l
  obtain ⟨hliteral', hfactory', halias', hdescription'⟩ := lookup_parts k
  rw [h] at hliteral hfactory halias hdescription
  have hquotes : Function.Injective fun a : Text => "\"" ++ a ++ "\"" := fun a b hab => by
    simpa using hab
  have hescape : Function.Injective fun d : Text => "\"" ++ escape d ++ "\"" := fun a b hab =>
    escape_inj (hquotes hab)
  refine ⟨?_, Option.map_injective hquotes (halias.symm.trans halias'),
    Option.map_injective hescape (hdescription.symm.trans hdescription')⟩
  rw [hliteral'] at hliteral
  rw [hfactory'] at hfactory
  cases hl : l.default <;> cases hk : k.default <;> simp_all

/-- What stands behind the type of a line: a field call, or nothing or a literal where there is
nothing to note. -/
theorem valueText_cases (l : FieldLine) :
    (l.parts ≠ [] ∧
      l.valueText = " = Field(" ++ (Text.join ", " (l.parts.map argumentText) ++ ")")) ∨
    (l.documentName = none ∧ l.documentation = none ∧
      (l.default = .none ∧ l.valueText = "" ∨
        ∃ s, l.default = .literal s ∧ l.valueText = " = " ++ s)) := by
  by_cases hcall : l.hasCall = true
  · refine .inl ⟨fun hnil => ?_, ?_⟩
    · unfold FieldLine.hasCall FieldLine.notes at hcall
      unfold FieldLine.parts at hnil
      split at hcall <;> simp_all
    · rw [FieldLine.valueText, if_pos hcall, arguments_eq, Text.append_assoc]
  · refine .inr ?_
    rw [FieldLine.valueText, if_neg hcall]
    unfold FieldLine.hasCall FieldLine.notes at hcall
    cases hd : l.default with
    | none => simp_all
    | literal s => simp_all
    | factory s => simp_all

/-- The text of a call is no literal. -/
theorem literal_ne_call {s t : Text} (hs : IsOperand s.toList) : s ≠ "Field(" ++ (t ++ ")") := by
  rintro rfl
  have hclose : (")" : Text).toList = [.char ')'] := rfl
  rw [Text.toList_append, Text.toList_append, hclose] at hs
  generalize htext : ("Field(" : Text).toList ++ (t.toList ++ [.char ')']) = cs at hs
  cases hs with
  | quoted h =>
    exact absurd (List.cons.inj htext).1 (by decide)
  | bare h => exact h ')' (by simp [← htext]) (by decide)

/-- **What stands behind the type of a line tells what was said of the field.** -/
theorem valueText_inj (hl : l.IsReadable) (hk : k.IsReadable) (h : l.valueText = k.valueText) :
    l.default = k.default ∧ l.documentName = k.documentName ∧
      l.documentation = k.documentation := by
  have hcall : (" = Field(" : Text) = " = " ++ "Field(" := rfl
  have hnone : ∀ s : Text, " = " ++ s ≠ "" := fun s hs => by
    have hlength := congrArg Text.length hs
    simp at hlength
  rcases valueText_cases l with ⟨hlparts, hltext⟩ | ⟨hlname, hldoc, hldefault⟩
  · rcases valueText_cases k with ⟨hkparts, hktext⟩ | ⟨-, -, ⟨-, hktext⟩ | ⟨s, hs, hktext⟩⟩
    · rw [hltext, hktext, Text.append_right_inj] at h
      have hchars := congrArg Text.toList h
      rw [toList_join_arguments hlparts, toList_join_arguments hkparts] at hchars
      exact parts_inj (callText_inj hl.isNamedOperand hk.isNamedOperand hlparts hkparts hchars)
    · rw [hltext, hktext, hcall, Text.append_assoc] at h
      exact absurd h (hnone _)
    · rw [hltext, hktext, hcall, Text.append_assoc, Text.append_right_inj] at h
      exact absurd h.symm (literal_ne_call (hk.default s (.inl hs)))
  · rcases valueText_cases k with ⟨-, hktext⟩ | ⟨hkname, hkdoc, hkdefault⟩
    · rcases hldefault with ⟨-, hltext⟩ | ⟨s, hs, hltext⟩
      · rw [hltext, hktext, hcall, Text.append_assoc] at h
        exact absurd h.symm (hnone _)
      · rw [hltext, hktext, hcall, Text.append_assoc, Text.append_right_inj] at h
        exact absurd h (literal_ne_call (hl.default s (.inl hs)))
    · refine ⟨?_, hlname.trans hkname.symm, hldoc.trans hkdoc.symm⟩
      rcases hldefault with ⟨hl, hltext⟩ | ⟨s, hl, hltext⟩
      · rcases hkdefault with ⟨hk, -⟩ | ⟨t, -, hktext⟩
        · rw [hl, hk]
        · exact absurd (hktext.symm.trans (h.symm.trans hltext)) (hnone t)
      · rcases hkdefault with ⟨-, hktext⟩ | ⟨t, hk, hktext⟩
        · exact absurd (hltext.symm.trans (h.trans hktext)) (hnone s)
        · rw [hltext, hktext, Text.append_right_inj] at h
          rw [hl, hk, h]

/-- What stands behind a type starts with an equals sign between blanks, or is nothing. -/
theorem toList_valueText (l : FieldLine) :
    l.valueText.toList = [] ∨ ∃ r, l.valueText.toList = .char ' ' :: .char '=' :: r := by
  have hcall : (" = Field(" : Text) = " = " ++ "Field(" := rfl
  rcases valueText_cases l with ⟨-, h⟩ | ⟨-, -, ⟨-, h⟩ | ⟨s, -, h⟩⟩
  · rw [h, hcall, Text.append_assoc, Text.toList_append]
    exact .inr ⟨_, rfl⟩
  · exact .inl (by rw [h]; rfl)
  · rw [h, Text.toList_append]
    exact .inr ⟨_, rfl⟩

/-- A type ends at the blank in front of the equals sign. -/
theorem append_value_inj {t u v w : List CodePoint} (ht : .char '=' ∉ t) (hu : .char '=' ∉ u)
    (hv : v = [] ∨ ∃ r, v = .char ' ' :: .char '=' :: r)
    (hw : w = [] ∨ ∃ r, w = .char ' ' :: .char '=' :: r)
    (h : t ++ v = u ++ w) : t = u ∧ v = w := by
  rcases hv with rfl | ⟨r, rfl⟩
  · rcases hw with rfl | ⟨s, rfl⟩
    · simpa using h
    · exact absurd (by simp [show t = u ++ _ by simpa using h]) ht
  · rcases hw with rfl | ⟨s, rfl⟩
    · exact absurd (by simp [show u = t ++ _ by simpa using h.symm]) hu
    · have hsplit :
          (t ++ [.char ' ']) ++ .char '=' :: r = (u ++ [.char ' ']) ++ .char '=' :: s := by
        simpa using h
      obtain ⟨hblank, rfl⟩ := append_cons_inj (by simp [ht]) (by simp [hu]) hsplit
      exact ⟨List.append_cancel_right hblank, rfl⟩

/-- **The parts of a line can be read off it.** -/
theorem text_inj (hl : l.IsReadable) (hk : k.IsReadable) (h : l.text = k.text) : l = k := by
  have hcolon : (": " : Text).toList = [.char ':', .char ' '] := rfl
  have hchars := congrArg Text.toList h
  simp only [FieldLine.text, Text.toList_append, hcolon, List.append_assoc, List.cons_append,
    List.nil_append] at hchars
  obtain ⟨hname, hchars⟩ := append_cons_inj hl.name hk.name hchars
  obtain ⟨htype, hvalue⟩ := append_value_inj hl.type hk.type (toList_valueText l)
    (toList_valueText k) (List.tail_eq_of_cons_eq hchars)
  obtain ⟨hdefault, hdocumentName, hdocumentation⟩ :=
    valueText_inj hl hk (Text.toList_injective hvalue)
  cases l
  cases k
  simp only [FieldLine.mk.injEq]
  exact ⟨Text.toList_injective hname, Text.toList_injective htype, hdefault, hdocumentName,
    hdocumentation⟩

/-! ## Fields -/

theorem isOperand_of_isBareChar {cs : List CodePoint} (h : ∀ c ∈ cs, isBareChar c = true) :
    IsOperand cs := by
  refine .bare fun c hc hm => ?_
  simp only [List.mem_cons, List.not_mem_nil, or_false] at hm
  rcases hm with rfl | rfl | rfl <;> exact absurd (h _ hc) (by decide)

/-- The default of a line is a literal or the list type. -/
theorem isOperand_of_isDefaultPart {p : DefaultPart} (h : IsDefaultPart f p) {s : Text}
    (hs : p = .literal s ∨ p = .factory s) : IsOperand s.toList := by
  cases h with
  | none => rcases hs with hs | hs <;> cases hs
  | literal h =>
    obtain rfl : _ = s := by simpa using hs
    rcases quoted_or_bare_of_isLiteral h with ⟨t, rfl⟩ | hbare
    · have hquote : ("\"" : Text).toList = [.char '"'] := rfl
      rw [Text.toList_append, Text.toList_append, hquote, escape, Text.toList_ofList]
      exact .quoted (Scan.isContent_escapeChars _)
    · exact isOperand_of_isBareChar hbare
  | null =>
    obtain rfl : "None" = s := by simpa using hs
    exact isOperand_of_isBareChar (List.all_eq_true.mp (by decide))
  | list =>
    obtain rfl : "list" = s := by simpa using hs
    exact isOperand_of_isBareChar (List.all_eq_true.mp (by decide))

theorem not_equals_wrapType (f : Field) {s : Text} (h : .char '=' ∉ s.toList) :
    .char '=' ∉ (wrapType f s).toList := by
  unfold wrapType
  split
  · simp [h]
  · split
    · exact h
    · simp [h]

theorem isReadable_lineOf (hf : f.IsIdentified) {base : BaseType} {default : DefaultPart}
    (hbase : IsBaseType known f base) (hdefault : IsDefaultPart f default) :
    (lineOf known f base.text default).IsReadable where
  name := by
    intro hm
    have hname : (lineOf known f base.text default).name = fieldName known f.name := rfl
    rw [hname, fieldName_eq] at hm
    exact absurd (inWord_keepApart (inWord_snakeCase hf.name) _ hm) (by decide)
  type := by
    refine not_equals_wrapType f fun hm => ?_
    cases hbase with
    | scalar s h he =>
      rw [h] at hm
      cases s with
      | none => exact absurd hm (by decide)
      | some s => cases s <;> exact absurd hm (by decide)
    | named hn h he =>
      obtain ⟨s, hs, hname⟩ := hf.type hn
      rw [h, hs] at hm
      exact absurd (inWord_of_isIdentifier hname _ hm) (by decide)
  default _ := isOperand_of_isDefaultPart hdefault
  documentName n hn := by
    unfold lineOf at hn
    dsimp only at hn
    split at hn
    · cases hn
    · cases hn
      exact Scan.isContent_of_inWord (inWord_of_isIdentifier hf.name)

/-- The type of a field as it stands in its line. -/
def typeExpression (known : List Text) (f : Field) : Except Fault Text :=
  (baseType known f).map fun base => wrapType f base.text

/-- The default of a field as it stands in its line. -/
def shownDefault (f : Field) : Except Fault DefaultPart :=
  (defaultPart f).map (·.1)

/-- The name of a field is in its line, as the name in the document if the line has another. -/
theorem name_lineOf (known : List Text) (f : Field) (base : Text) (default : DefaultPart) :
    (lineOf known f base default).documentName.getD (lineOf known f base default).name
      = f.name := by
  unfold lineOf
  dsimp only
  split
  · rename_i h
    exact h
  · rfl

/-- **Two fields with one line have the same name, type, default and documentation.** -/
theorem renderField_inj (hf : f.IsIdentified) (hg : g.IsIdentified)
    (hl : (renderField known f).line = .ok l) (hk : (renderField known g).line = .ok k)
    (h : l.text = k.text) :
    f.name = g.name ∧ typeExpression known f = typeExpression known g ∧
      shownDefault f = shownDefault g ∧ shownText f.documentation = shownText g.documentation := by
  obtain ⟨base, p, hb, hp, rfl, -⟩ := renderField_made hl
  obtain ⟨base', p', hb', hp', rfl, -⟩ := renderField_made hk
  have hlines := text_inj (isReadable_lineOf hf (isBaseType_of_ok hb) (isDefaultPart_of_ok hp))
    (isReadable_lineOf hg (isBaseType_of_ok hb') (isDefaultPart_of_ok hp')) h
  have htype : wrapType f base.text = wrapType g base'.text := congrArg FieldLine.type hlines
  have hdefault : p.1 = p'.1 := congrArg FieldLine.default hlines
  refine ⟨?_, ?_, ?_, congrArg FieldLine.documentation hlines⟩
  · rw [← name_lineOf known f base.text p.1, hlines, name_lineOf]
  · rw [typeExpression, typeExpression, hb, hb']
    exact congrArg Except.ok htype
  · rw [shownDefault, shownDefault, hp, hp']
    exact congrArg Except.ok hdefault

/-- A field with a default that would end its literal and set an alias if it were not escaped. -/
def userField (type : Text) (documentation : Value) : Field :=
  { requiredField "userId" .scalar type with
    hasDefault := true
    default := .value (.text "1\", alias=\"x")
    documentation }

theorem userField_one_line :
    ∃ l : FieldLine, (userField "Int" .null).IsIdentified ∧
      (userField "BigInt" (.text "")).IsIdentified ∧
      (renderField [] (userField "Int" .null)).line = .ok l ∧
      (renderField [] (userField "BigInt" (.text ""))).line = .ok l ∧
      l.text = "user_id: int = Field(default=\"1\\\", alias=\\\"x\", alias=\"userId\")" ∧
      (userField "Int" .null).name = (userField "BigInt" (.text "")).name ∧
      typeExpression [] (userField "Int" .null)
        = typeExpression [] (userField "BigInt" (.text "")) ∧
      shownDefault (userField "Int" .null) = shownDefault (userField "BigInt" (.text "")) ∧
      shownText (userField "Int" .null).documentation
        = shownText (userField "BigInt" (.text "")).documentation := by
  have hscalar : ∀ t d, ¬ (userField t d).namesType := by
    rintro t d (h | h) <;> cases h
  have hname : IsName "userId" := by
    unfold IsName
    decide +kernel
  have hf : (userField "Int" .null).IsIdentified := ⟨hname, fun h => absurd h (hscalar _ _)⟩
  have hg : (userField "BigInt" (.text "")).IsIdentified :=
    ⟨hname, fun h => absurd h (hscalar _ _)⟩
  let line : FieldLine :=
    { name := "user_id", type := "int", default := .literal "\"1\\\", alias=\\\"x\""
      documentName := some "userId", documentation := none }
  have hl : (renderField [] (userField "Int" .null)).line = .ok line :=
    toOption_eq_some.mp (by decide +kernel)
  have hk : (renderField [] (userField "BigInt" (.text ""))).line = .ok line :=
    toOption_eq_some.mp (by decide +kernel)
  exact ⟨line, hf, hg, hl, hk, by decide +kernel, renderField_inj hf hg hl hk rfl⟩

end Source

end ModelBindings
