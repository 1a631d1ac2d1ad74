import ModelBindings.Proofs.Datamodel.Names
import ModelBindings.Proofs.Decimal.Notation
import ModelBindings.Proofs.Source.Layout
import ModelBindings.Proofs.Source.Token.Quoted
import ModelBindings.Proofs.Text.Word
import ModelBindings.Source.Field

/-!
# Field lines

* `renderField_eq_ok` : the parts of a field line, from the field.
* `IsLiteral` : the literal of a default; `quoted_or_bare_of_isLiteral` says what it looks like.
* `isLine_renderField` : a field line has no line feed.
-/

set_option autoImplicit false

namespace ModelBindings.Source

open Text (IsLine isLine_ofList)

variable {known : List Text} {f : Field}

/-! ## Parts of a line -/

/-- What the type of a field is made from: a scalar, or what the document names. -/
inductive IsBaseType (known : List Text) (f : Field) (base : BaseType) : Prop where
  | scalar (s : Option ScalarType) (ht : base.text = ScalarType.targetOf s)
    (he : base.usage.enumName = none)
  | named (hf : f.namesType) (ht : base.text = f.type.display)
    (he : ∀ n, base.usage.enumName = some n → n ∈ known)

theorem isBaseType_of_ok {base : BaseType} (h : baseType known f = .ok base) :
    IsBaseType known f base := by
  unfold baseType at h
  split at h
  · unfold scalarType at h
    split at h
    · cases h
    · rename_i s hs
      cases h
      refine .scalar s rfl ?_
      cases s with
      | none => rfl
      | some s => cases s <;> rfl
  · rename_i hk
    unfold enumType at h
    split at h
    · cases h
    · rename_i found hfound
      cases h
      refine .named (.inl hk) rfl fun n hn => ?_
      obtain rfl : found = some n := hn
      unfold knownEnum? at hfound
      split at hfound
      · split at hfound
        · split at hfound
          · rename_i hs
            cases hfound
            exact List.contains_iff_mem.mp hs
          · cases hfound
        · cases hfound
      · cases hfound
  · rename_i hk
    cases h
    exact .named (.inr hk) rfl fun n hn => nomatch hn
  · cases h
    exact .scalar none rfl rfl

/-- The literal of a default. -/
inductive IsLiteral : Default → Text → Prop where
  | bool (b : Bool) : IsLiteral (.value (.bool b)) (if b then "True" else "False")
  | text (s : Text) : IsLiteral (.value (.text s)) ("\"" ++ escape s ++ "\"")
  | integer (n : Int) (h : (Text.digits n.natAbs).length ≤ Json.digitLimit) :
    IsLiteral (.value (.int n)) (Text.ofList (Text.integer n))
  | double (x : Double) : IsLiteral (.value (.double x)) (Text.ofList (Value.doubleFormat.text x))

theorem isLiteral_of_ofDefault {d : Default} {s : Text} (h : ofDefault d = .ok (some s)) :
    IsLiteral d s := by
  unfold ofDefault at h
  split at h
  · cases h
  · cases h
    exact .bool _
  · cases h
    exact .text _
  · unfold integerLiteral at h
    split at h
    · cases h
    · rename_i hlt
      cases h
      exact .integer _ (by omega)
  · cases h
    exact .double _
  · cases h

/-- What a line says of a default: nothing, the literal of the default, or what stands for a list or
for an optional field without one. -/
inductive IsDefaultPart (f : Field) : DefaultPart → Prop where
  | none : IsDefaultPart f .none
  | literal {s : Text} (h : IsLiteral f.default s) : IsDefaultPart f (.literal s)
  | null : IsDefaultPart f (.literal "None")
  | list : IsDefaultPart f (.factory "list")

theorem isDefaultPart_of_ok {p : DefaultPart × List Record} (h : defaultPart f = .ok p) :
    IsDefaultPart f p.1 := by
  unfold defaultPart at h
  split at h
  · split at h
    · cases h
    · rename_i s hs
      cases h
      exact .literal (isLiteral_of_ofDefault hs)
    · cases h
      exact .none
  · split at h
    · cases h
      exact .list
    · split at h
      · cases h
        exact .none
      · cases h
        exact .null

/-- The line of a field with the type and default given. -/
def lineOf (known : List Text) (f : Field) (base : Text) (default : DefaultPart) : FieldLine :=
  let name := fieldName known f.name
  { name, default
    type := wrapType f base
    documentName := if name = f.name then none else some f.name
    documentation := shownText f.documentation }

/-- A field line is made from the type and the default of the field. -/
theorem renderField_made {l : FieldLine} (h : (renderField known f).line = .ok l) :
    ∃ base p, baseType known f = .ok base ∧ defaultPart f = .ok p ∧
      l = lineOf known f base.text p.1 ∧
      (renderField known f).usage = { base.usage with fieldCall := l.hasCall } := by
  cases hb : baseType known f with
  | error e => simp [renderField, hb] at h
  | ok base =>
    cases hd : defaultPart f with
    | error e => simp [renderField, hb, hd] at h
    | ok p =>
      cases hs : documentationText f.documentation with
      | error e => simp [renderField, hb, hd, hs] at h
      | ok doc =>
        have hdoc := documentationText_eq_ok hs
        subst hdoc
        refine ⟨base, p, rfl, rfl, ?_, ?_⟩
        · simp only [renderField, hb, hd, hs, Except.ok.injEq] at h
          exact h.symm
        · simp only [renderField, hb, hd, hs, Except.ok.injEq] at h ⊢
          rw [← h]

/-- **The parts of a field line.** -/
theorem renderField_eq_ok {l : FieldLine} (h : (renderField known f).line = .ok l) :
    ∃ base default, IsBaseType known f base ∧ IsDefaultPart f default ∧
      l = lineOf known f base.text default ∧
      (renderField known f).usage = { base.usage with fieldCall := l.hasCall } := by
  obtain ⟨base, p, hb, hd, hl, husage⟩ := renderField_made h
  exact ⟨base, p.1, isBaseType_of_ok hb, isDefaultPart_of_ok hd, hl, husage⟩

/-! ## Single lines -/

theorem isLine_of_isName {s : Text} (h : IsName s) : IsLine s := fun hn =>
  absurd (inWord_of_isIdentifier h _ hn) (by decide)

/-- An identifier ends in a character of a word. -/
theorem exists_last_of_isName {s : Text} (h : IsName s) :
    ∃ front c, s.toList = front ++ [c] ∧ Scan.inWord c = true := by
  have hne : s.toList ≠ [] := by
    intro hn
    unfold IsName at h
    rw [hn] at h
    cases h
  refine ⟨_, _, (List.dropLast_append_getLast hne).symm, ?_⟩
  exact inWord_of_isIdentifier h _ (List.getLast_mem hne)

theorem isLine_snakeCase {s : Text} (h : IsName s) : IsLine (snakeCase s) :=
  isLine_ofList fun hn => absurd (inWord_snakeChars (inWord_of_isIdentifier h) _ hn) (by decide)

theorem isLine_escape (s : Text) : IsLine (escape s) := by
  refine isLine_ofList fun h => ?_
  obtain ⟨c, -, hc⟩ := List.mem_flatMap.mp h
  rcases Scan.mem_escapeChar hc with hc | ⟨rfl, hn, -⟩
  · exact absurd hc (by decide)
  · exact hn rfl

/-- A character of a literal that is no text. -/
def isBareChar (c : CodePoint) : Bool :=
  c.isAlphanum || c == '.' || c == '-' || c == '+'

theorem isBareChar_of_isDigit {c : CodePoint} (h : Text.isDigit c = true) :
    isBareChar c = true := by
  have hc : c.isAlphanum = true := isAlphanum_iff.mpr (.inr (of_decide_eq_true h))
  simp [isBareChar, hc]

theorem isBareChar_of_isDecimal {cs : List CodePoint} (h : IsDecimal cs) :
    ∀ c ∈ cs, isBareChar c = true := by
  have hdigits : ∀ {ds : List CodePoint}, IsDigits ds → ∀ c ∈ ds, isBareChar c = true :=
    fun hds c hc => isBareChar_of_isDigit (hds.digit c hc)
  cases h with
  | plain ha hb =>
    simp only [List.forall_mem_append, List.forall_mem_cons]
    exact ⟨hdigits ha, rfl, hdigits hb⟩
  | exponent hd hs he =>
    simp only [List.forall_mem_cons]
    exact ⟨isBareChar_of_isDigit hd, rfl, by rcases hs with rfl | rfl <;> rfl, hdigits he⟩
  | fraction hd hb hs he =>
    simp only [List.forall_mem_append, List.forall_mem_cons]
    exact ⟨isBareChar_of_isDigit hd, rfl, hdigits hb, rfl, by rcases hs with rfl | rfl <;> rfl,
      hdigits he⟩

/-- **A literal is an escaped text between quotes, or has no character that means anything.** -/
theorem quoted_or_bare_of_isLiteral {d : Default} {s : Text} (h : IsLiteral d s) :
    (∃ t, s = "\"" ++ escape t ++ "\"") ∨ ∀ c ∈ s.toList, isBareChar c = true := by
  cases h with
  | bool b => cases b <;> exact .inr (List.all_eq_true.mp (by decide))
  | text t => exact .inl ⟨t, rfl⟩
  | integer n h =>
    rw [Text.toList_ofList]
    have hdigits : ∀ n, ∀ c ∈ Text.digits n, isBareChar c = true :=
      fun n c hc => isBareChar_of_isDigit ((Text.isDigits_digits n).digit c hc)
    cases n with
    | ofNat n => exact .inr (hdigits n)
    | negSucc n => exact .inr (List.forall_mem_cons.mpr ⟨rfl, hdigits (n + 1)⟩)
  | double x =>
    obtain ⟨sign, body, h, hsign, hbody⟩ := DecimalFormat.text_shape Value.doubleFormat x
    rw [Text.toList_ofList, h]
    refine .inr (List.forall_mem_append.mpr ⟨?_, ?_⟩)
    · rcases hsign with rfl | rfl <;> exact List.all_eq_true.mp (by decide)
    · rcases hbody with rfl | rfl | hd
      · exact List.all_eq_true.mp (by decide)
      · exact List.all_eq_true.mp (by decide)
      · exact isBareChar_of_isDecimal hd

theorem isLine_of_isLiteral {d : Default} {s : Text} (h : IsLiteral d s) : IsLine s := by
  rcases quoted_or_bare_of_isLiteral h with ⟨t, rfl⟩ | hbare
  · have hq : IsLine "\"" := isLine_ofList (by decide)
    exact (hq.append (isLine_escape t)).append hq
  · exact fun hn => absurd (hbare _ hn) (by decide)

theorem isLine_of_isDefaultPart {p : DefaultPart} (h : IsDefaultPart f p) {s : Text}
    (hs : p = .literal s ∨ p = .factory s) : IsLine s := by
  cases h with
  | none => rcases hs with hs | hs <;> cases hs
  | literal h =>
    rcases hs with hs | hs
    · cases hs
      exact isLine_of_isLiteral h
    · cases hs
  | null =>
    rcases hs with hs | hs
    · cases hs
      exact isLine_ofList (by decide)
    · cases hs
  | list =>
    rcases hs with hs | hs
    · cases hs
    · cases hs
      exact isLine_ofList (by decide)

theorem isLine_fieldName (known : List Text) {s : Text} (h : IsName s) :
    IsLine (fieldName known s) := by
  have hs := isLine_snakeCase h
  unfold fieldName
  dsimp only
  split
  · exact hs.append (isLine_ofList (by decide))
  · exact hs

theorem isLine_targetOf (s : Option ScalarType) : IsLine (ScalarType.targetOf s) := by
  cases s with
  | none => exact isLine_ofList (by decide)
  | some s => cases s <;> exact isLine_ofList (by decide)

theorem isLine_wrapType (f : Field) {s : Text} (h : IsLine s) : IsLine (wrapType f s) := by
  unfold wrapType
  split
  · exact ((isLine_ofList (by decide) : IsLine "list[").append h).append (isLine_ofList (by decide))
  · split
    · exact h
    · exact h.append (isLine_ofList (by decide))

/-- The arguments of a field call have no line feed. -/
theorem isLine_arguments {l : FieldLine}
    (hd : ∀ s, l.default = .literal s ∨ l.default = .factory s → IsLine s)
    (hn : ∀ n, l.documentName = some n → IsLine n) : ∀ a ∈ l.arguments, IsLine a := by
  have hq : IsLine "\"" := isLine_ofList (by decide)
  have hnotes : ∀ a ∈ l.notes, IsLine a := by
    intro a ha
    unfold FieldLine.notes at ha
    rcases List.mem_append.mp ha with ha | ha
    · obtain ⟨n, hn', rfl⟩ := Option.map_eq_some_iff.mp (Option.mem_toList.mp ha)
      exact ((isLine_ofList (by decide) : IsLine "alias=\"").append (hn n hn')).append hq
    · obtain ⟨s, -, rfl⟩ := Option.map_eq_some_iff.mp (Option.mem_toList.mp ha)
      have hkey : IsLine "description=\"" := isLine_ofList (by decide)
      exact (hkey.append (isLine_escape s)).append hq
  unfold FieldLine.arguments
  split
  · exact hnotes
  · rename_i s hs
    simp only [List.mem_cons, forall_eq_or_imp]
    exact ⟨(isLine_ofList (by decide) : IsLine "default=").append (hd s (.inl hs)), hnotes⟩
  · rename_i s hs
    simp only [List.mem_cons, forall_eq_or_imp]
    exact ⟨(isLine_ofList (by decide) : IsLine "default_factory=").append (hd s (.inr hs)), hnotes⟩

/-- **A field line has no line feed.** -/
theorem isLine_renderField (hf : f.IsNamed) {l : FieldLine}
    (h : (renderField known f).line = .ok l) : IsLine l.text := by
  obtain ⟨base, default, hbase, hdefault, rfl, -⟩ := renderField_eq_ok h
  obtain ⟨t, ht, hname⟩ := hf.type
  have htype : IsLine base.text := by
    cases hbase with
    | scalar s h he => exact h ▸ isLine_targetOf s
    | named hn h he =>
      rw [h, ht]
      exact isLine_of_isName (hname hn)
  have hpart : ∀ s, default = .literal s ∨ default = .factory s → IsLine s :=
    fun s => isLine_of_isDefaultPart hdefault
  have harguments := isLine_arguments (l := lineOf known f base.text default) hpart fun n hn => by
    unfold lineOf at hn
    dsimp only at hn
    split at hn
    · cases hn
    · cases hn
      exact isLine_of_isName hf.name
  have hcolon : IsLine ": " := isLine_ofList (by decide)
  have hassign : IsLine " = " := isLine_ofList (by decide)
  refine ((isLine_fieldName known hf.name).append hcolon).append (isLine_wrapType f htype)
    |>.append ?_
  unfold FieldLine.valueText
  split
  · have hcomma : IsLine ", " := isLine_ofList (by decide)
    exact ((isLine_ofList (by decide) : IsLine " = Field(").append
      (Text.isLine_join hcomma harguments)).append (isLine_ofList (by decide))
  · split
    · rename_i s hs
      exact hassign.append (hpart s (.inl hs))
    · exact isLine_ofList List.not_mem_nil

end ModelBindings.Source
