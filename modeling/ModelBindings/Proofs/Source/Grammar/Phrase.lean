import ModelBindings.Source.Grammar

/-!
# Phrases of the generated source

The rules at the first reading take the types, values and calls that field lines are made of. A
phrase whose tokens have a fixed shape is followed rule by rule; lists of arguments and of elements
are taken one after another.

* `Takes` : a phrase is taken, below a height, up to the tokens behind it.
* `IsType`, `IsValue` : the types and values of field lines.
* `takes_arguments`, `takes_elements` : the arguments of a call and the elements of a list.
* `takes_assigned` : what may follow the type of a field.
-/

set_option autoImplicit false

namespace ModelBindings.Source.Grammar

/-- The rules at the first reading, followed to a depth from a level on. -/
abbrev rules (depth level : Nat) : Recognizer :=
  recognize false depth level

/-- A phrase is taken up to the tokens behind it, and stands for no taller tree. -/
def Takes (p : Parsed) (height : Nat) (rest : List Token) : Prop :=
  ∃ s h, p = .ok ⟨s, h, rest⟩ ∧ h ≤ height

variable {p : Parsed} {f : List Token → Parsed} {height bound : Nat} {rest r : List Token}

theorem takes_of_eq {s : Shape} {k : Nat} (h : p = .ok ⟨s, k, rest⟩)
    (hk : Nat.ble k height = true) : Takes p height rest :=
  ⟨s, k, h, Nat.le_of_ble_eq_true hk⟩

theorem Takes.mono (h : Takes p height rest) (hb : height ≤ bound) : Takes p bound rest := by
  obtain ⟨s, k, hp, hk⟩ := h
  exact ⟨s, k, hp, Nat.le_trans hk hb⟩

theorem Takes.andThen (hp : Takes p height rest) (hf : Takes (f rest) height r) :
    Takes (andThen p f) height r := by
  obtain ⟨s, k, rfl, hk⟩ := hp
  obtain ⟨s', k', hf, hk'⟩ := hf
  refine ⟨s', max k k', ?_, Nat.max_le.mpr ⟨hk, hk'⟩⟩
  show (f rest).map _ = _
  rw [hf]
  rfl

theorem Takes.under (hp : Takes p height rest) : Takes (under p) (height + 1) rest := by
  obtain ⟨s, k, rfl, hk⟩ := hp
  exact ⟨.other, k + 1, rfl, Nat.succ_le_succ hk⟩

theorem Takes.asOther (hp : Takes p height rest) : Takes (asOther p) height rest := by
  obtain ⟨s, k, rfl, hk⟩ := hp
  exact ⟨.other, k, rfl, hk⟩

/-! ## Types and values -/

/-- The type of a field: a name, a list of a name, or a name or nothing. -/
inductive IsType : List Token → Prop where
  | plain (s : Text) : IsType [.name s]
  | list (s t : Text) :
    IsType [.name s, .op (.opening .square), .name t, .op (.closing .square)]
  | optional (s : Text) : IsType [.name s, .op (.binary .bitOr), .keyword .noneWord]

/-- The value of a field or an argument: a name, a literal or a constant, or one behind a sign. -/
inductive IsValue : List Token → Prop where
  | name (s : Text) : IsValue [.name s]
  | number : IsValue [.number false]
  | text : IsValue [.text false []]
  | true : IsValue [.keyword .trueWord]
  | false : IsValue [.keyword .falseWord]
  | none : IsValue [.keyword .noneWord]
  | minusName (s : Text) : IsValue [.op (.binary .minus), .name s]
  | minusNumber : IsValue [.op (.binary .minus), .number false]

/-- A type is taken up to the end of the line or the sign of an assignment. -/
theorem takes_type {ts : List Token} (h : IsType ts) {t : Token}
    (ht : t = .newline ∨ t = .op .assign) (d : Nat) (r : List Token) :
    Takes (rules (d + 20) 7 .annotated .expression (ts ++ t :: r)) 5 (t :: r) := by
  cases h <;> rcases ht with rfl | rfl <;> exact takes_of_eq rfl rfl

/-- A value is taken up to the end of the line. -/
theorem takes_value {ts : List Token} (h : IsValue ts) (d : Nat) (r : List Token) :
    Takes (value (rules (d + 20) 7) .assigned (ts ++ .newline :: r)) 5 (.newline :: r) := by
  cases h <;> exact takes_of_eq rfl rfl

/-! ## Arguments -/

/-- The place among the arguments of a call. -/
def phaseOf (first : Bool) : ArgumentPhase :=
  if first then .first else .named

/-- The value of a named argument is taken up to a comma or the bracket behind it. -/
theorem takes_argumentValue {ts : List Token} (h : IsValue ts) {t : Token}
    (ht : t = .op .comma ∨ t = .op (.closing .round)) (first : Bool) (d : Nat) (r : List Token) :
    Takes (rules (d + 20) 28 ((phaseOf first).way .named) .expression (ts ++ t :: r)) 5
      (t :: r) := by
  cases first <;> cases h <;> rcases ht with rfl | rfl <;> exact takes_of_eq rfl rfl

/-- The tokens of named arguments, through the closing bracket. -/
def argumentTokens : List (Text × List Token) → List Token
  | [] => [.op (.closing .round)]
  | [(k, v)] => .name k :: .op .assign :: (v ++ [.op (.closing .round)])
  | (k, v) :: a :: as => .name k :: .op .assign :: (v ++ .op .comma :: argumentTokens (a :: as))

/-- **Named arguments are taken one after another.** -/
theorem takes_arguments {as : List (Text × List Token)} (h : ∀ a ∈ as, IsValue a.2)
    (first : Bool) (d : Nat) (r : List Token) :
    Takes (rules (d + as.length + 21) 28 .along (.arguments (phaseOf first))
      (argumentTokens as ++ r)) 6 r := by
  induction as generalizing first with
  | nil => cases first <;> exact takes_of_eq rfl rfl
  | cons a as ih =>
    obtain ⟨k, v⟩ := a
    have hv : IsValue v := h (k, v) List.mem_cons_self
    cases as with
    | nil =>
      have hvalue := takes_argumentValue hv (.inr rfl) first (d + 1) r
      have hend : Takes (argumentEnd (rules (d + 1 + 20) 28) (phaseOf first).afterName
          (.op (.closing .round) :: r)) 6 r := takes_of_eq rfl rfl
      have hstep : rules (d + 1 + 21) 28 .along (.arguments (phaseOf first))
          (argumentTokens [(k, v)] ++ r)
            = andThen (under (rules (d + 1 + 20) 28 ((phaseOf first).way .named) .expression
                (v ++ .op (.closing .round) :: r)))
              (argumentEnd (rules (d + 1 + 20) 28) (phaseOf first).afterName) := by
        simp only [argumentTokens, List.cons_append, List.append_assoc, List.nil_append]
        rfl
      rw [List.length_singleton, hstep]
      exact hvalue.under.andThen hend
    | cons b bs =>
      have hvalue := takes_argumentValue hv (.inl rfl) first (d + bs.length + 2)
        (argumentTokens (b :: bs) ++ r)
      have hrest := ih (fun a ha => h a (List.mem_cons_of_mem _ ha)) false
      have hend : Takes (argumentEnd (rules (d + bs.length + 2 + 20) 28) (phaseOf first).afterName
          (.op .comma :: (argumentTokens (b :: bs) ++ r))) 6 r := by
        cases first <;> exact hrest
      have hstep : rules (d + bs.length + 2 + 21) 28 .along (.arguments (phaseOf first))
          (argumentTokens ((k, v) :: b :: bs) ++ r)
            = andThen (under (rules (d + bs.length + 2 + 20) 28 ((phaseOf first).way .named)
                .expression (v ++ .op .comma :: (argumentTokens (b :: bs) ++ r))))
              (argumentEnd (rules (d + bs.length + 2 + 20) 28) (phaseOf first).afterName) := by
        simp only [argumentTokens, List.cons_append, List.append_assoc]
        rfl
      show Takes (rules (d + bs.length + 2 + 21) 28 _ _ _) _ _
      rw [hstep]
      exact hvalue.under.andThen hend

/-! ## Expressions of one operand -/

theorem rules_along {l : Nat} (hl : l ≤ levelLimit) (d : Nat) (rule : Rule) (ts : List Token) :
    rules (d + 1) l .along rule ts = follow (rules d l) rule ts := by
  show (if levelLimit < l + 0 then _ else _) = _
  rw [if_neg (by omega)]
  rfl

/-- An operand up to the end of the line is an expression. -/
theorem expression_of_primary {l d k : Nat} {u : Token} {ts r : List Token} {s : Shape}
    (hl : l ≤ levelLimit) (hu : (∃ n, u = .name n) ∨ u = .op (.opening .square))
    (h : primary (rules d l) (u :: ts) = .ok ⟨s, k, .newline :: r⟩) :
    rules (d + 4) l .along .expression (u :: ts) = .ok ⟨s, k, .newline :: r⟩ := by
  have hfactor : rules (d + 1) l .along .factor (u :: ts) = .ok ⟨s, k, .newline :: r⟩ := by
    rw [rules_along hl]
    rcases hu with ⟨n, rfl⟩ | rfl <;>
    · show withMore (primary (rules d l) _) _ _ = _
      rw [h]
      rfl
  have hoperands : rules (d + 2) l .along (.operands []) (u :: ts) = .ok ⟨s, k, .newline :: r⟩ := by
    rw [rules_along hl]
    show (rules (d + 1) l .along .factor (u :: ts)).bind _ = _
    rw [hfactor]
    rfl
  have hdenial : rules (d + 3) l .along .denial (u :: ts) = .ok ⟨s, k, .newline :: r⟩ := by
    rw [rules_along hl]
    have hmore := congrArg (fun p => withMore p (fun r => (behindComparison? r).isSome)
      (rules (d + 2) l .along .comparisons)) hoperands
    rcases hu with ⟨n, rfl⟩ | rfl <;> exact hmore
  rw [rules_along hl]
  rcases hu with ⟨n, rfl⟩ | rfl <;>
  · show withMore (withMore (withMore (rules (d + 3) l .along .denial _) _ _) _ _) _ _ = _
    rw [hdenial]
    rfl

/-- A single expression is a value up to the end of the line. -/
theorem value_of_expression {g : Recognizer} {w : Way} {k : Nat} {u : Token} {ts r : List Token}
    {s : Shape} (hu : (∃ n, u = .name n) ∨ u = .op (.opening .square))
    (h : g w .expression (u :: ts) = .ok ⟨s, k, .newline :: r⟩) :
    value g w (u :: ts) = .ok ⟨s, k, .newline :: r⟩ := by
  rcases hu with ⟨n, rfl⟩ | rfl <;> simp [value, row, rowElement, h, Except.bind]

theorem primary_name {g : Recognizer} (f : Text) (ts : List Token) :
    primary g (.name f :: ts) = g .along (.trailers .name true 1) ts := rfl

/-- The arguments of a call, and what follows the call. -/
theorem trailers_call {g : Recognizer} {k : Nat} {s : Shape} {ts r : List Token}
    (h : g .along (.arguments .first) ts = .ok ⟨s, k, r⟩) :
    trailersRule g .name true 1 (.op (.opening .round) :: ts)
      = g .along (.trailers .other true (max 1 k + 1)) r := by
  simp only [trailersRule, h]
  rfl

/-- **A call with named arguments is taken as a value** up to the end of the line. -/
theorem takes_call {as : List (Text × List Token)} (h : ∀ a ∈ as, IsValue a.2) (f : Text)
    (d : Nat) (r : List Token) :
    Takes (value (rules (d + as.length + 30) 7) .assigned
      (.name f :: .op (.opening .round) :: (argumentTokens as ++ .newline :: r))) 8
      (.newline :: r) := by
  obtain ⟨s, k, hk, hle⟩ := takes_arguments h true (d + 4) (.newline :: r)
  rw [show d + 4 + as.length + 21 = d + as.length + 24 + 1 by omega] at hk
  rw [show d + as.length + 30 = d + as.length + 24 + 6 by omega]
  generalize d + as.length + 24 = n at hk ⊢
  generalize argumentTokens as ++ .newline :: r = ts at hk ⊢
  have hend : rules (n + 1) 28 .along (.trailers .other true (max 1 k + 1)) (.newline :: r)
      = .ok ⟨.other, max 1 k + 1, .newline :: r⟩ := rules_along (by decide) n _ _
  have htrailers : rules (n + 2) 28 .along (.trailers .name true 1) (.op (.opening .round) :: ts)
      = .ok ⟨.other, max 1 k + 1, .newline :: r⟩ := by
    rw [rules_along (by decide)]
    exact (trailers_call hk).trans hend
  have hprimary : primary (rules (n + 2) 28) (.name f :: .op (.opening .round) :: ts)
      = .ok ⟨.other, max 1 k + 1, .newline :: r⟩ := (primary_name f _).trans htrailers
  have hexpression := expression_of_primary (by decide) (.inl ⟨f, rfl⟩) hprimary
  exact ⟨_, _, value_of_expression (.inl ⟨f, rfl⟩) hexpression, by omega⟩

/-! ## Lists of texts -/

/-- The tokens of the elements of a list, a comma behind each, through the closing bracket. -/
def elementTokens : Nat → List Token
  | 0 => [.op (.closing .square)]
  | n + 1 => .text false [] :: .op .comma :: elementTokens n

theorem elements_text {g : Recognizer} {b : Position} {k : Nat} {s : Shape} {ts r : List Token}
    (he : g (.element .square b) .expression (.text false [] :: .op .comma :: ts)
      = .ok ⟨.other, 1, .op .comma :: ts⟩)
    (h : g .along (.elements .square b.next) ts = .ok ⟨s, k, r⟩) :
    elementsRule g .square b (.text false [] :: .op .comma :: ts)
      = .ok ⟨Shape.addTo .other s, max 1 k, r⟩ := by
  simp only [elementsRule, element, he, extend, h]
  rfl

/-- **The elements of a list are taken one after another.** -/
theorem takes_elements (n : Nat) {b : Position} (hb : b ≠ .first) (d : Nat) (r : List Token) :
    Takes (rules (d + n + 20) 3 .along (.elements .square b) (elementTokens n ++ r)) 1 r := by
  induction n generalizing b with
  | zero => exact takes_of_eq rfl rfl
  | succ n ih =>
    obtain ⟨s, k, hk, hle⟩ := ih (b := b.next) (by cases b <;> simp [Position.next])
    have he : ∀ ts, rules (d + n + 20) 3 (.element .square b) .expression
        (.text false [] :: .op .comma :: ts) = .ok ⟨.other, 1, .op .comma :: ts⟩ := by
      intro ts
      cases b with
      | first => exact absurd rfl hb
      | second => rfl
      | later => rfl
    refine ⟨Shape.addTo .other s, max 1 k, ?_, Nat.max_le.mpr ⟨Nat.le_refl 1, hle⟩⟩
    rw [show d + (n + 1) + 20 = d + n + 20 + 1 by omega, rules_along (by decide)]
    exact elements_text (he _) hk

theorem square_text {g : Recognizer} {k : Nat} {s : Shape} {ts r : List Token}
    (he : g (.element .square .first) .expression (.text false [] :: .op .comma :: ts)
      = .ok ⟨.other, 1, .op .comma :: ts⟩)
    (h : g .along (.elements .square .second) ts = .ok ⟨s, k, r⟩) :
    square g (.text false [] :: .op .comma :: ts)
      = .ok ⟨Shape.addTo .other s, max 1 k + 1, r⟩ := by
  simp only [square, firstElement, element, he, extend, displayRest, h]
  rfl

theorem primary_square {g : Recognizer} {k : Nat} {s : Shape} {ts r : List Token}
    (h : square g ts = .ok ⟨s, k, r⟩) :
    primary g (.op (.opening .square) :: ts)
      = g .along (.trailers s (s != .bracketed) k) r := by
  simp only [primary, atom, h]
  rfl

/-- **A list of texts is taken as a value** up to the end of the line. -/
theorem takes_list (n d : Nat) (r : List Token) :
    Takes (value (rules (d + n + 30) 0) .value
      (.op (.opening .square) :: (elementTokens n ++ .newline :: r))) 3 (.newline :: r) := by
  cases n with
  | zero => exact takes_of_eq rfl rfl
  | succ n =>
    obtain ⟨s, k, hk, hle⟩ := takes_elements n (b := .second) (by decide) (d + 7) (.newline :: r)
    have he : ∀ ts, rules (d + 7 + n + 20) 3 (.element .square .first) .expression
        (.text false [] :: .op .comma :: ts) = .ok ⟨.other, 1, .op .comma :: ts⟩ := fun _ => rfl
    have hsquare := square_text (he _) hk
    rw [show d + (n + 1) + 30 = d + n + 26 + 5 by omega]
    rw [show d + 7 + n + 20 = d + n + 26 + 1 by omega] at hsquare
    generalize d + n + 26 = m at hsquare ⊢
    have hend : ∀ s b k, rules (m + 1) 3 .along (.trailers s b k) (.newline :: r)
        = .ok ⟨s, k, .newline :: r⟩ := fun s b k => rules_along (by decide) m _ _
    have hexpression := expression_of_primary (by decide) (.inr rfl)
      ((primary_square hsquare).trans (hend _ _ _))
    exact ⟨_, _, value_of_expression (.inr rfl) hexpression, by omega⟩

end ModelBindings.Source.Grammar
