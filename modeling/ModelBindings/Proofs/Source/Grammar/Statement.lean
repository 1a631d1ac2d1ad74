import ModelBindings.Proofs.Source.Grammar.Phrase

/-!
# Statements of the generated source

Each kind of statement that generated source has is taken at the level where it stands, and so are
statements one after another, in a class body and in a module.

* `IsStatement` : a statement is taken at a level, to a depth that suffices and below a height.
* `takes_statements` : statements are taken one after another.
* `isStatement_field` : a field line; `isStatement_class` : a class with its body.
* `isStatement_list` : the list of offered names.
-/

set_option autoImplicit false

namespace ModelBindings.Source.Grammar

variable {n m l height bound : Nat} {p : Parsed} {ts : List Token}

/-- A statement is taken whatever stands behind it. -/
structure IsStatement (depth level height : Nat) (ts : List Token) : Prop where
  head : ∃ t r, ts = t :: r ∧ t ≠ .dedent
  takes : ∀ d r, depth ≤ d → Takes (statement (rules d level) (ts ++ r)) height r

theorem IsStatement.mono (h : IsStatement n l height ts) (hn : n ≤ m) (hb : height ≤ bound) :
    IsStatement m l bound ts :=
  ⟨h.head, fun d r hd => (h.takes d r (Nat.le_trans hn hd)).mono hb⟩

theorem isStatement_of_fixed {t : Token} {us : List Token} (ht : t ≠ .dedent)
    (h : ∀ d r, Takes (statement (rules (d + n) l) (t :: us ++ r)) height r) :
    IsStatement n l height (t :: us) := by
  refine ⟨⟨t, us, rfl, ht⟩, fun d r hd => ?_⟩
  obtain ⟨k, rfl⟩ := Nat.exists_eq_add_of_le' hd
  exact h k r

/-! ## Statements one after another -/

/-- Statements up to the end of a text or of a block. -/
theorem takes_statements (hl : l ≤ levelLimit) {ss : List (List Token)} (hne : ss ≠ [])
    (h : ∀ s ∈ ss, IsStatement n l height s) {r : List Token}
    (hr : r = [] ∨ ∃ r', r = .dedent :: r') {d : Nat} (hd : n + ss.length ≤ d) :
    Takes (rules d l .along .statements (ss.flatten ++ r)) height r := by
  induction ss generalizing d with
  | nil => exact absurd rfl hne
  | cons s ss ih =>
    simp only [List.length_cons] at hd
    obtain ⟨e, rfl⟩ := Nat.exists_eq_add_of_le' (show 1 ≤ d by omega)
    have hs := (h s List.mem_cons_self).takes e (ss.flatten ++ r) (by omega)
    rw [rules_along hl, List.flatten_cons, List.append_assoc]
    simp only [follow, statementsRule]
    refine hs.andThen ?_
    cases ss with
    | nil =>
      rcases hr with rfl | ⟨r', rfl⟩ <;> exact takes_of_eq rfl (by simp)
    | cons s' ss =>
      have hrest := ih (by simp) (fun x hx => h x (List.mem_cons_of_mem _ hx)) (d := e) (by omega)
      obtain ⟨t, us, rfl, ht⟩ := (h s' (by simp)).head
      cases t with
      | dedent => exact absurd rfl ht
      | _ => exact hrest

/-! ## Names in front -/

/-- The word for cases is a name like any other where no case can follow. -/
theorem statement_name {g : Recognizer} {s : Text} {ts : List Token}
    (h : matchBlock g ts = mismatch) :
    statement g (.name s :: ts) = g .along .line (.name s :: ts) := by
  simp only [statement, named, h, ite_self]
  rfl

/-- A line that starts with a name, given what follows the name. -/
theorem takes_line {g : Recognizer} {s : Text} {t : Token} {ts r : List Token}
    (hrow : row g .along (.name s :: t :: ts) = .ok ⟨.name, 1, t :: ts⟩)
    (h : Takes (behindExpression g .name (t :: ts)) height (.newline :: r)) (hb : 1 ≤ height) :
    Takes (lineRule g (.name s :: t :: ts)) (height + 1) r := by
  have hsmall : Takes (smallStatement g (.name s :: t :: ts)) height (.newline :: r) := by
    obtain ⟨s', k, hk, hle⟩ := h
    refine ⟨s', max 1 k, ?_, by omega⟩
    show extend (row g .along (.name s :: t :: ts)) _ = _
    rw [hrow]
    show (behindExpression g .name (t :: ts)).map _ = _
    rw [hk]
    rfl
  exact hsmall.under.andThen (takes_of_eq rfl (by simp))

theorem behind_assign (g : Recognizer) (ts : List Token) :
    behindExpression g .name (.op .assign :: ts) = g .along .values ts := rfl

theorem behind_colon (g : Recognizer) (ts : List Token) :
    behindExpression g .name (.op .colon :: ts)
      = andThen (g .annotated .expression ts) (annotationEnd g) := rfl

/-! ## Lines of a module -/

theorem isStatement_importFrom (a b : Text) : IsStatement 20 0 10
    [.keyword .fromWord, .name a, .keyword .importWord, .name b, .newline] :=
  isStatement_of_fixed (by simp) fun _ _ => takes_of_eq rfl rfl

theorem isStatement_importTwo (a b c : Text) : IsStatement 20 0 10
    [.keyword .fromWord, .name a, .keyword .importWord, .name b, .op .comma, .name c, .newline] :=
  isStatement_of_fixed (by simp) fun _ _ => takes_of_eq rfl rfl

theorem isStatement_importThree (a b c e : Text) : IsStatement 20 0 10
    [.keyword .fromWord, .name a, .keyword .importWord, .name b, .op .comma, .name c, .op .comma,
      .name e, .newline] :=
  isStatement_of_fixed (by simp) fun _ _ => takes_of_eq rfl rfl

theorem isStatement_relativeImport (a b : Text) : IsStatement 20 0 10
    [.keyword .fromWord, .op .dot, .name a, .keyword .importWord, .name b, .newline] :=
  isStatement_of_fixed (by simp) fun _ _ => takes_of_eq rfl rfl

/-- A call of a method without arguments. -/
theorem isStatement_call (a b : Text) : IsStatement 20 0 10
    [.name a, .op .dot, .name b, .op (.opening .round), .op (.closing .round), .newline] := by
  refine isStatement_of_fixed (by simp) fun d r => ?_
  rw [List.cons_append, statement_name rfl]
  exact takes_of_eq rfl rfl

/-- What is assigned to a name. -/
theorem takes_assignment {a : Text} {ts r : List Token} {k : Nat}
    (h : Takes (value (rules (m + 20) 0) .value ts) k (.newline :: r)) (hk : 1 ≤ k) :
    Takes (lineRule (rules (m + 21) 0) (.name a :: .op .assign :: ts)) (k + 1) r := by
  obtain ⟨s, j, hj, hle⟩ := h
  have hvalues : Takes (rules (m + 21) 0 .along .values ts) k (.newline :: r) := by
    rw [rules_along (by decide)]
    refine ⟨.other, max j 0, ?_, by omega⟩
    simp only [follow, valuesRule, extend, hj]
    rfl
  rw [← behind_assign (rules (m + 21) 0)] at hvalues
  exact takes_line rfl hvalues hk

/-- **A list of texts that is assigned to a name.** -/
theorem isStatement_list (a : Text) (k : Nat) : IsStatement (k + 32) 0 10
    (.name a :: .op .assign :: .op (.opening .square) :: (elementTokens k ++ [Token.newline])) := by
  refine isStatement_of_fixed (by simp) fun d r => ?_
  have hvalue := takes_list k d r
  rw [show d + k + 30 = d + k + 10 + 20 by omega] at hvalue
  have hline := (takes_assignment (a := a) hvalue (by decide)).mono (show 3 + 1 ≤ 10 by decide)
  rw [show d + (k + 32) = d + k + 10 + 21 + 1 by omega, List.cons_append, List.cons_append,
    List.cons_append, List.append_assoc, List.singleton_append, statement_name rfl,
    rules_along (by decide)]
  exact hline

/-! ## Lines of a class body -/

theorem isStatement_pass : IsStatement 20 7 10 [.keyword .passWord, .newline] :=
  isStatement_of_fixed (by simp) fun _ _ => takes_of_eq rfl rfl

theorem isStatement_docstring : IsStatement 20 7 10 [.text false [], .newline] :=
  isStatement_of_fixed (by simp) fun _ _ => takes_of_eq rfl rfl

/-- A member of an enum. -/
theorem isStatement_member (a : Text) : IsStatement 20 7 10
    [.name a, .op .assign, .text false [], .newline] := by
  refine isStatement_of_fixed (by simp) fun d r => ?_
  rw [List.cons_append, statement_name rfl]
  exact takes_of_eq rfl rfl

/-- The settings of a class. -/
theorem isStatement_settings (a f b c : Text) : IsStatement 20 7 10
    [.name a, .op .assign, .name f, .op (.opening .round), .name b, .op .assign,
      .keyword .trueWord, .op .comma, .name c, .op .assign, .keyword .trueWord, .op .comma,
      .op (.closing .round), .newline] := by
  refine isStatement_of_fixed (by simp) fun d r => ?_
  rw [List.cons_append, statement_name rfl]
  exact takes_of_eq rfl rfl

/-- What follows the type of a field: nothing, a value, or a call with some named arguments. -/
inductive IsAssigned : List Token → Prop where
  | nothing : IsAssigned []
  | value {v : List Token} (h : IsValue v) : IsAssigned (.op .assign :: v)
  | call (f : Text) {as : List (Text × List Token)} (h : ∀ a ∈ as, IsValue a.2)
    (hl : as.length ≤ 3) :
    IsAssigned (.op .assign :: .name f :: .op (.opening .round) :: argumentTokens as)

theorem takes_assigned {v : List Token} (h : IsAssigned v) (d : Nat) (r : List Token) :
    Takes (annotationEnd (rules (d + 33) 7) (v ++ .newline :: r)) 8 (.newline :: r) := by
  cases h with
  | nothing => exact takes_of_eq rfl rfl
  | value h => exact ((takes_value h (d + 13) r).mono (by decide)).asOther
  | call f h hl =>
    rename_i as
    obtain ⟨k, hk⟩ := Nat.exists_eq_add_of_le hl
    have hcall := takes_call h f (d + k) r
    rw [show d + k + as.length + 30 = d + 33 by omega] at hcall
    exact hcall.asOther

/-- **A field line**: a name, a type, and what is assigned. -/
theorem isStatement_field (a : Text) {t v : List Token} (ht : IsType t) (hv : IsAssigned v) :
    IsStatement 34 7 10 (.name a :: .op .colon :: (t ++ (v ++ [Token.newline]))) := by
  refine isStatement_of_fixed (by simp) fun d r => ?_
  rw [List.cons_append, List.cons_append, List.append_assoc, List.append_assoc,
    List.singleton_append, statement_name rfl, rules_along (by decide)]
  have hassigned := takes_assigned hv d r
  have htype : Takes (rules (d + 33) 7 .annotated .expression (t ++ (v ++ .newline :: r))) 8
      (v ++ .newline :: r) := by
    cases hv with
    | nothing => exact (takes_type ht (.inl rfl) (d + 13) r).mono (by decide)
    | value h => exact (takes_type ht (.inr rfl) (d + 13) _).mono (by decide)
    | call f h hl => exact (takes_type ht (.inr rfl) (d + 13) _).mono (by decide)
  have hbehind := htype.andThen hassigned
  rw [← behind_colon (rules (d + 33) 7)] at hbehind
  exact (takes_line rfl hbehind (by decide)).mono (by decide)

/-! ## Classes -/

/-- A block of statements behind a colon. -/
theorem takes_block {ss : List (List Token)} (hne : ss ≠ [])
    (h : ∀ s ∈ ss, IsStatement n 7 height s) {d : Nat} (hd : n + ss.length ≤ d) (r : List Token) :
    Takes (block (rules d 0)
      (.op .colon :: .newline :: .indent :: (ss.flatten ++ .dedent :: r))) height r := by
  have hstatements : Takes (rules d 0 .block .statements (ss.flatten ++ .dedent :: r)) height
      (.dedent :: r) := by
    have hpos := List.length_pos_iff.mpr hne
    obtain ⟨e, rfl⟩ := Nat.exists_eq_add_of_le' (show 1 ≤ d by omega)
    exact takes_statements (by decide) hne h (.inr ⟨r, rfl⟩) hd
  simp only [block]
  exact hstatements.andThen ⟨.other, 0, rfl, Nat.zero_le _⟩

/-- The classes that a class is made from. -/
inductive IsBases : List Token → Prop where
  | one (a : Text) : IsBases [.name a]
  | two (a b : Text) : IsBases [.name a, .op .comma, .name b]

theorem statement_class (g : Recognizer) (a : Text) (ts : List Token) :
    statement g (.keyword .classWord :: .name a :: .op (.opening .round) :: ts)
      = under (andThen (g .along (.arguments .positional) ts) (block g)) := rfl

/-- **A class with its body.** -/
theorem isStatement_class (a : Text) {b : List Token} (hb : IsBases b) {ss : List (List Token)}
    (hne : ss ≠ []) (h : ∀ s ∈ ss, IsStatement n 7 10 s) :
    IsStatement (n + ss.length + 20) 0 11
      (.keyword .classWord :: .name a :: .op (.opening .round)
        :: (b ++ Token.op (.closing .round) ::
        .op .colon :: .newline :: .indent :: (ss.flatten ++ [Token.dedent]))) := by
  refine isStatement_of_fixed (by simp) fun d r => ?_
  have hblock := takes_block hne h (d := d + (n + ss.length + 20)) (by omega) r
  have hbases : ∀ d ts, Takes (rules (d + 20) 0 .along (.arguments .positional)
      (b ++ .op (.closing .round) :: ts)) 10 ts := by
    cases hb <;> exact fun _ _ => takes_of_eq rfl rfl
  rw [show d + (n + ss.length + 20) = d + (n + ss.length) + 20 by omega] at hblock ⊢
  have hclass := ((hbases (d + (n + ss.length)) _).andThen (hblock.mono (by decide))).under
  rw [← statement_class _ a] at hclass
  simpa using hclass

end ModelBindings.Source.Grammar
