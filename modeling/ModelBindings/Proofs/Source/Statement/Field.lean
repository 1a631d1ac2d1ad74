import ModelBindings.Proofs.Source.Field
import ModelBindings.Proofs.Source.Names
import ModelBindings.Proofs.Source.Token.Numeral
import ModelBindings.Proofs.Source.Validity

/-!
# Field lines as statements

The parts of a field line are read one after another: its name, its type, and its value or the
arguments of its field call. A text is free of zero characters and of surrogates where it may stand
in a literal.

* `ReadsAs` : a part of a line, up to the characters that may stand behind it.
* `exists_type`, `exists_value`, `exists_arguments` : the parts of a field line as phrases.
* `bodyText_field` : a field line is a statement of a class body.
-/

set_option autoImplicit false

namespace ModelBindings

/-- A text has neither a zero character nor a surrogate. -/
def Value.IsClean (v : Value) : Prop :=
  ∀ s, v = .text s → Source.Scan.IsSourceText s.toList

/-- The names of a field can stand in a source text, and so can its texts. -/
structure Field.IsExpressible (f : Field) : Prop where
  name : IsAsciiName f.name
  type : f.namesType → ∃ s, f.type = .text s ∧ Source.Scan.IsFreeName s
  documentation : f.documentation.IsClean
  default : ∀ v, f.default = .value v → v.IsClean

namespace Source

open Grammar (IsType IsValue IsAssigned argumentTokens)
open Scan (Ends Clean IsContent IsFreeName endsWord endsNumber)

variable {b : List Bracket} {c : CodePoint} {cs r : List CodePoint} {ts us : List Token}
  {known : List Text} {f : Field} {s : Text}

/-! ## Parts of a line -/

/-- A text within brackets reads as tokens in front of a character that ends it. -/
def ReadsAs (b : List Bracket) (ends : CodePoint → Bool) (cs : List CodePoint) (ts : List Token) :
    Prop :=
  ∀ c r us, ends c = true → Ends b (c :: r) us → Ends b (cs ++ c :: r) (ts ++ us)

theorem endsWord_of_endsNumber (h : endsNumber c = true) : endsWord c = true := by
  simp only [endsNumber, Bool.or_eq_true, beq_iff_eq] at h
  rcases h with (rfl | rfl) | rfl <;> decide

theorem ReadsAs.mono {ends ends' : CodePoint → Bool} (h : ReadsAs b ends cs ts)
    (he : ∀ c, ends' c = true → ends c = true) : ReadsAs b ends' cs ts :=
  fun c r us hc hr => h c r us (he c hc) hr

theorem readsAs_name (h : IsFreeName s) : ReadsAs b endsWord s.toList [.name s] :=
  fun _ _ _ hc hr => hr.word h hc

/-! ## Types -/

theorem isFreeName_targetOf (s : Option ScalarType) : IsFreeName (ScalarType.targetOf s) := by
  cases s with
  | none => decide +kernel
  | some s => cases s <;> decide +kernel

/-- A name made a list or optional reads as a type. -/
theorem exists_type (f : Field) (h : IsFreeName s) :
    ∃ ts, IsType ts ∧ ReadsAs [] endsWord (wrapType f s).toList ts := by
  have hclose : ("]" : Text).toList = [.char ']'] := rfl
  unfold wrapType
  split
  · refine ⟨_, .list "list" s, fun c r us _ hr => ?_⟩
    have hend : Ends [.square] (.char ']' :: c :: r) (.op (.closing .square) :: us) :=
      hr.fixed [.char ']'] [.op (.closing .square)] (fun _ _ => rfl) (by decide)
    have hname := hend.word h rfl
    have hline := hname.fixed (b := []) ("list[" : Text).toList
      [.name "list", .op (.opening .square)] (fun _ _ => rfl) (by decide)
    simpa [hclose] using hline
  · split
    · exact ⟨_, .plain s, readsAs_name h⟩
    · refine ⟨_, .optional s, fun c r us hc hr => ?_⟩
      have hword :
          Ends [] (("None" : Text).toList ++ c :: r) (.keyword .noneWord :: us) :=
        hr.spelled ⟨'N', rfl, by decide⟩ (List.all_eq_true.mp (by decide)) (by decide)
          (by decide +kernel) hc
      have hmark := hword.fixed (b := []) ([' ', '|', ' '] : List CodePoint) [.op (.binary .bitOr)]
        (fun _ _ => rfl) (by decide)
      have hline := (show Ends [] (.char ' ' :: _) _ from hmark).word h rfl
      simpa using hline

/-! ## Values -/

/-- A text within brackets reads as a value, and does not extend a sign in front of it. -/
structure IsValueText (b : List Bracket) (cs : List CodePoint) (ts : List Token) : Prop where
  value : IsValue ts
  first : ∃ c r, cs = c :: r ∧ c ≠ '=' ∧ c ≠ '>'
  reads : ReadsAs b endsNumber cs ts

theorem isValueText_name (cs : List CodePoint) (h : IsFreeName (Text.ofList cs))
    (hfirst : ∃ c r, cs = c :: r ∧ c ≠ '=' ∧ c ≠ '>') :
    IsValueText b cs [.name (Text.ofList cs)] := by
  refine ⟨.name _, hfirst, ?_⟩
  have hname := (readsAs_name (b := b) h).mono fun _ => endsWord_of_endsNumber
  rwa [Text.toList_ofList] at hname

theorem isValueText_keyword (k : Keyword) (d : CodePoint) (cs : List CodePoint)
    (hw : Token.ofWord? (d :: cs) = some (.keyword k))
    (hd : Scan.startsWord d = true) (hcs : (d :: cs).all Scan.inWord = true)
    (hclean : Clean (d :: cs)) (hv : IsValue [.keyword k]) :
    IsValueText b (d :: cs) [.keyword k] := by
  refine ⟨hv, ⟨d, cs, rfl, ?_, ?_⟩, fun c r us hc hr => ?_⟩
  · rintro rfl
    exact absurd hd (by decide)
  · rintro rfl
    exact absurd hd (by decide)
  · exact hr.spelled ⟨d, rfl, hd⟩ (List.all_eq_true.mp hcs) hclean hw
      (endsWord_of_endsNumber hc)

theorem isValueText_text (h : IsContent false cs) (hc : Clean cs) :
    IsValueText b (.char '"' :: (cs ++ [.char '"'])) [.text false []] := by
  refine ⟨.text, ⟨_, _, rfl, by decide, by decide⟩, fun c r us hend hr => ?_⟩
  have hne : c ≠ '"' := by
    rintro rfl
    exact absurd hend (by decide)
  simpa using hr.text h hc hne

theorem isValueText_number {d : CodePoint} (h : Scan.IsNumeral d cs) :
    IsValueText b (d :: cs) [.number false] := by
  refine ⟨.number, ⟨d, cs, rfl, ?_, ?_⟩, fun c r us hc hr => hr.number h hc⟩
  · rintro rfl
    exact absurd h.first (by decide)
  · rintro rfl
    exact absurd h.first (by decide)

/-- A value behind a sign. -/
theorem IsValueText.minus (h : IsValueText b cs ts)
    (hv : IsValue (.op (.binary .minus) :: ts)) :
    IsValueText b (.char '-' :: cs) (.op (.binary .minus) :: ts) := by
  obtain ⟨d, cs, rfl, heq, hgt⟩ := h.first
  refine ⟨hv, ⟨_, _, rfl, by decide, by decide⟩, fun c r us hc hr => ?_⟩
  have hsign : Operator.extend? (.binary .minus) d = none := by simp [Operator.extend?, heq, hgt]
  exact (h.reads c r us hc hr).operator (fun _ => rfl) hsign (by decide)

/-- A number or a name, perhaps behind a sign. -/
theorem exists_signed {body : List CodePoint} (sign : List CodePoint)
    (hs : sign = [] ∨ sign = [.char '-'])
    (h : IsValueText b body [.number false] ∨ ∃ n, IsValueText b body [.name n]) :
    ∃ ts, IsValueText b (sign ++ body) ts := by
  rcases hs with rfl | rfl
  · rcases h with h | ⟨n, h⟩
    · exact ⟨_, h⟩
    · exact ⟨_, h⟩
  · rcases h with h | ⟨n, h⟩
    · exact ⟨_, h.minus .minusNumber⟩
    · exact ⟨_, h.minus (.minusName n)⟩

theorem exists_double (x : Double) : ∃ ts, IsValueText b (Value.doubleFormat.text x) ts := by
  obtain ⟨sign, body, h, hsign, hbody⟩ := DecimalFormat.text_shape Value.doubleFormat x
  rw [h]
  refine exists_signed sign hsign ?_
  rcases hbody with rfl | rfl | hbody
  · exact .inr ⟨_, isValueText_name ("nan" : Text).toList (by decide +kernel)
      ⟨_, _, rfl, by decide, by decide⟩⟩
  · exact .inr ⟨_, isValueText_name ("inf" : Text).toList (by decide +kernel)
      ⟨_, _, rfl, by decide, by decide⟩⟩
  · obtain ⟨d, r, rfl, hn⟩ := Scan.isNumeral_decimal hbody
    exact .inl (isValueText_number hn)

/-- **The literal of a default reads as a value.** -/
theorem exists_value {d : Default} (h : IsLiteral d s) (hd : ∀ v, d = .value v → v.IsClean) :
    ∃ ts, IsValueText b s.toList ts := by
  cases h with
  | bool v =>
    cases v with
    | true =>
      exact ⟨_, isValueText_keyword .trueWord 'T' ("rue" : Text).toList
        (by decide +kernel)
        (by decide) (by decide) (by decide) .true⟩
    | false =>
      exact ⟨_, isValueText_keyword .falseWord 'F' ("alse" : Text).toList
        (by decide +kernel) (by decide) (by decide) (by decide) .false⟩
  | text t =>
    have hquote : ("\"" : Text).toList = [.char '"'] := rfl
    have hclean := Scan.clean_escapeChars (hd _ rfl t rfl)
    have htext := isValueText_text (b := b) (Scan.isContent_escapeChars t.toList) hclean
    exact ⟨_, by simpa [escape, hquote] using htext⟩
  | integer n hn =>
    rw [Text.toList_ofList]
    obtain ⟨d, r, hdigits, hnumeral⟩ := Scan.isNumeral_digits hn
    cases n with
    | ofNat n =>
      refine exists_signed [] (.inl rfl) (.inl ?_)
      have hn := isValueText_number (b := b) hnumeral
      rwa [← hdigits] at hn
    | negSucc n =>
      refine exists_signed [.char '-'] (.inr rfl) (.inl ?_)
      have hn := isValueText_number (b := b) hnumeral
      rwa [← hdigits] at hn
  | double x =>
    rw [Text.toList_ofList]
    exact exists_double x

/-- What a line says of a default that it shows. -/
theorem exists_default (hf : f.IsExpressible) {p : DefaultPart} (h : IsDefaultPart f p)
    (hs : p = .literal s ∨ p = .factory s) : ∃ ts, IsValueText b s.toList ts := by
  cases h with
  | none => rcases hs with hs | hs <;> cases hs
  | literal h =>
    rcases hs with hs | hs
    · cases hs
      exact exists_value h hf.default
    · cases hs
  | null =>
    rcases hs with hs | hs
    · cases hs
      exact ⟨_, isValueText_keyword .noneWord 'N' ("one" : Text).toList
        (by decide +kernel) (by decide) (by decide) (by decide) .none⟩
    · cases hs
  | list =>
    rcases hs with hs | hs
    · cases hs
    · cases hs
      exact ⟨_, isValueText_name ("list" : Text).toList
        (by decide +kernel) ⟨_, _, rfl, by decide, by decide⟩⟩

/-! ## Arguments -/

/-- A text reads as an argument of a call. -/
structure IsArgument (s : Text) (a : Text × List Token) : Prop where
  value : IsValue a.2
  reads : ReadsAs [.round] endsNumber s.toList (.name a.1 :: .op .assign :: a.2)

theorem isArgument {k : Text} (hk : IsFreeName k) (hv : IsValueText [.round] cs ts)
    (hs : s.toList = k.toList ++ .char '=' :: cs) : IsArgument s (k, ts) := by
  refine ⟨hv.value, fun c r us hc hr => ?_⟩
  obtain ⟨d, cs, rfl, hne, -⟩ := hv.first
  have hassign : Operator.extend? .assign d = none := if_neg hne
  have hvalue : Ends [.round] (.char '=' :: d :: (cs ++ c :: r)) (.op .assign :: (ts ++ us)) :=
    (hv.reads c r us hc hr).operator (fun _ => rfl) hassign (by decide)
  have hline := hvalue.word hk rfl
  rw [hs]
  simpa using hline

/-- Arguments one after another read as those of a call. -/
theorem exists_arguments {ls : List Text} (h : ∀ l ∈ ls, ∃ a, IsArgument l a) :
    ∃ as, as.length = ls.length ∧ (∀ a ∈ as, IsValue a.2) ∧ ∀ r us, Ends [] r us →
      Ends [.round] ((Text.join ", " ls).toList ++ .char ')' :: r) (argumentTokens as ++ us) := by
  have hclose : ∀ r us, Ends [] r us →
    Ends [.round] (.char ')' :: r) (.op (.closing .round) :: us) :=
    fun r us hr => hr.fixed [.char ')'] [.op (.closing .round)] (fun _ _ => rfl) (by decide)
  induction ls with
  | nil => exact ⟨[], rfl, by simp, hclose⟩
  | cons l ls ih =>
    obtain ⟨⟨k, v⟩, ha⟩ := h l List.mem_cons_self
    obtain ⟨as, hlen, hvalues, hreads⟩ := ih fun l hl => h l (List.mem_cons_of_mem _ hl)
    refine ⟨(k, v) :: as, by simp [hlen], List.forall_mem_cons.mpr ⟨ha.value, hvalues⟩, ?_⟩
    intro r us hr
    cases ls with
    | nil =>
      obtain rfl := List.length_eq_zero_iff.mp hlen
      simpa [Text.join, argumentTokens] using ha.reads ')' r _ rfl (hclose r us hr)
    | cons l' ls =>
      cases as with
      | nil => cases hlen
      | cons a as =>
        have hcomma : (", " : Text).toList = [.char ',', .char ' '] := rfl
        have hrest : Ends [.round] (.char ',' :: (.char ' ' :: _)) (.op .comma :: _) :=
          (hreads r us hr).fixed [.char ',', .char ' '] [.op .comma] (fun _ _ => rfl) (by decide)
        rw [Text.join_cons_cons]
        simpa [hcomma, argumentTokens] using ha.reads ',' _ _ rfl hrest

/-- The arguments of a field call. -/
theorem isArgument_of_mem {l : FieldLine} (hdefault : ∀ s, l.default = .literal s ∨
      l.default = .factory s → ∃ ts, IsValueText [.round] s.toList ts)
    (hname : ∀ n, l.documentName = some n → IsName n)
    (hdoc : ∀ s, l.documentation = some s → Scan.IsSourceText s.toList) :
    ∀ a ∈ l.arguments, ∃ t, IsArgument a t := by
  have hnotes : ∀ a ∈ l.notes, ∃ t, IsArgument a t := by
    intro a ha
    unfold FieldLine.notes at ha
    rcases List.mem_append.mp ha with ha | ha
    · obtain ⟨n, hn, rfl⟩ := Option.map_eq_some_iff.mp (Option.mem_toList.mp ha)
      have hw := inWord_of_isIdentifier (hname n hn)
      exact ⟨_, isArgument (k := "alias") (by decide +kernel)
        (isValueText_text (Scan.isContent_of_inWord hw) (Scan.clean_of_isIdentifier (hname n hn)))
          (by simp)⟩
    · obtain ⟨s, hs, rfl⟩ := Option.map_eq_some_iff.mp (Option.mem_toList.mp ha)
      exact ⟨_, isArgument (k := "description") (by decide +kernel)
        (isValueText_text (Scan.isContent_escapeChars s.toList)
          (Scan.clean_escapeChars (hdoc s hs))) (by simp [escape])⟩
  unfold FieldLine.arguments
  split
  · exact hnotes
  · rename_i s hs
    obtain ⟨ts, hts⟩ := hdefault s (.inl hs)
    refine List.forall_mem_cons.mpr ⟨⟨_, isArgument (k := "default") ?_ hts (by simp)⟩, hnotes⟩
    decide +kernel
  · rename_i s hs
    obtain ⟨ts, hts⟩ := hdefault s (.inr hs)
    refine List.forall_mem_cons.mpr
      ⟨⟨_, isArgument (k := "default_factory") ?_ hts (by simp)⟩, hnotes⟩
    decide +kernel

theorem length_arguments_le (l : FieldLine) : l.arguments.length ≤ 3 := by
  have hnotes : l.notes.length ≤ 2 := by
    unfold FieldLine.notes
    cases l.documentName <;> cases l.documentation <;> simp
  unfold FieldLine.arguments
  split <;> simp <;> omega

/-! ## Lines -/

/-- What stands behind the type of a field, through the end of the line. -/
theorem exists_assigned {l : FieldLine} (hdefault : ∀ b s, l.default = .literal s ∨
      l.default = .factory s → ∃ ts, IsValueText b s.toList ts)
    (harguments : ∀ a ∈ l.arguments, ∃ t, IsArgument a t) :
    ∃ c r v, l.valueText.toList ++ [.char '\n'] = c :: r ∧ endsWord c = true ∧ IsAssigned v ∧
      Ends [] (c :: r) (v ++ [Token.newline]) := by
  unfold FieldLine.valueText
  split
  · obtain ⟨as, hlen, hvalues, hreads⟩ := exists_arguments harguments
    have hline := (hreads _ _ .newline).fixed (b := [])
      ([' ', '=', ' ', 'F', 'i', 'e', 'l', 'd', '('] : List CodePoint)
      [.op .assign, .name "Field", .op (.opening .round)] (fun _ _ => rfl) (by decide)
    have hle := length_arguments_le l
    refine ⟨_, _, _, ?_, by decide, .call "Field" hvalues (by omega), hline⟩
    simp
  · split
    · rename_i s hs
      obtain ⟨ts, hts⟩ := hdefault [] s (.inl hs)
      have hline :=
        (hts.reads _ _ _ rfl .newline).fixed (b := []) ([' ', '=', ' '] : List CodePoint)
        [.op .assign]
        (fun _ _ => rfl) (by decide)
      refine ⟨_, _, _, ?_, by decide, .value hts.value, hline⟩
      simp
    · exact ⟨_, _, [], rfl, by decide, .nothing, .newline⟩

/-- **A field line is a statement of a class body.** -/
theorem bodyText_field (hf : f.IsExpressible) {l : FieldLine}
    (h : (renderField known f).line = .ok l) :
    ∃ ss, BodyText ((bodyIndent ++ l.text).toList ++ [.char '\n']) ss := by
  obtain ⟨base, default, hbase, hdefault, rfl, -⟩ := renderField_eq_ok h
  have hname := isFreeName_fieldName known hf.name
  have hbaseName : IsFreeName base.text := by
    cases hbase with
    | scalar s h he => exact h ▸ isFreeName_targetOf s
    | named hn h he =>
      obtain ⟨t, ht, hfree⟩ := hf.type hn
      rw [h, ht]
      exact hfree
  obtain ⟨types, htypes, hreads⟩ := exists_type f hbaseName
  have harguments := isArgument_of_mem (l := lineOf known f base.text default)
    (fun s => exists_default hf hdefault) (fun n hn => by
      unfold lineOf at hn
      dsimp only at hn
      split at hn
      · cases hn
      · cases hn
        exact hf.name.isName) (fun s hs => hf.documentation s (shownText_eq_some hs))
  obtain ⟨c, r, v, htext, hc, hv, hends⟩ := exists_assigned
    (fun b s => exists_default hf hdefault) harguments
  have hcolon := (hreads c r _ hc hends).fixed (b := []) [.char ':', .char ' '] [.op .colon]
    (fun _ _ => rfl) (by decide)
  have hline := bodyText_named hname (hcolon.word hname rfl)
    (Grammar.isStatement_field _ htypes hv)
  have hparts : (bodyIndent ++ (lineOf known f base.text default).text).toList ++ [.char '\n']
      = bodyIndent.toList ++ ((fieldName known f.name).toList
          ++ ([.char ':', .char ' '] ++ ((wrapType f base.text).toList ++ c :: r))) := by
    simp [FieldLine.text, lineOf, ← htext]
  rw [hparts]
  exact ⟨_, hline⟩

end Source

end ModelBindings
