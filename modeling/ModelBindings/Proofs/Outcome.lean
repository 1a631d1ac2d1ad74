import ModelBindings.Outcome

/-!
# Results one after another

What a result of steps that were taken one after another says of each step, for runs that may fail,
for runs that leave records and for runs that leave a tree as well.
-/

set_option autoImplicit false

namespace ModelBindings

variable {α β : Type}

theorem map_eq_ok {ε : Type} {x : Except ε α} {f : α → β} {b : β} :
    x.map f = .ok b ↔ ∃ a, x = .ok a ∧ f a = b := by
  cases x <;> simp [Except.map]

theorem toOption_eq_some {ε : Type} {x : Except ε α} {a : α} :
    x.toOption = some a ↔ x = .ok a := by
  cases x <;> simp [Except.toOption]

theorem bind_eq_ok {ε : Type} {x : Except ε α} {f : α → Except ε β} {b : β} :
    (x >>= f) = .ok b ↔ ∃ a, x = .ok a ∧ f a = .ok b := by
  cases x <;> simp [bind, Except.bind]

namespace Traced

theorem result_bind_eq_ok {x : Traced α} {f : α → Traced β} {b : β} :
    (x.bind f).result = .ok b ↔ ∃ a, x.result = .ok a ∧ (f a).result = .ok b := by
  unfold bind
  cases x.result with
  | error e => simp
  | ok a => simp

/-- The records of a step that has a result stand in front of those behind it. -/
theorem log_bind_of_ok {x : Traced α} {a : α} (h : x.result = .ok a) (f : α → Traced β) :
    (x.bind f).log = x.log ++ (f a).log := by
  rw [bind, h]

theorem ok_bind (a : α) (f : α → Traced β) : (Traced.ok a).bind f = f a := rfl

theorem bind_assoc {γ : Type} (x : Traced α) (f : α → Traced β) (g : β → Traced γ) :
    (x.bind f).bind g = x.bind fun a => (f a).bind g := by
  unfold bind
  cases x.result with
  | error e => rfl
  | ok a =>
    dsimp only
    cases (f a).result with
    | error e => rfl
    | ok b =>
      dsimp only
      rw [List.append_assoc]

/-- Only the result of the first step counts for the second. -/
theorem bind_congr {x : Traced α} {f g : α → Traced β} (h : ∀ a, x.result = .ok a → f a = g a) :
    x.bind f = x.bind g := by
  unfold bind
  cases hx : x.result with
  | error e => rfl
  | ok a =>
    dsimp only
    rw [h a hx]

/-- The records aside, results follow one another as those of runs that may fail. -/
theorem result_bind (x : Traced α) (f : α → Traced β) :
    (x.bind f).result = x.result >>= fun a => (f a).result := by
  unfold bind
  cases x.result <;> rfl

theorem result_collect (f : α → Traced β) (as : List α) :
    (collect f as).result = as.mapM fun a => (f a).result := by
  induction as with
  | nil => rfl
  | cons a r ih =>
    rw [List.mapM_cons, ← ih]
    simp only [collect, result_bind]
    rfl

end Traced

namespace Outcome

theorem result_bind_eq_ok {x : Outcome α} {f : FileTree → α → Outcome β} {b : β} :
    (x.bind f).result = .ok b ↔ ∃ a, x.result = .ok a ∧ (f x.tree a).result = .ok b := by
  unfold bind
  cases x.result with
  | error e => simp
  | ok a => simp

theorem result_bind_eq_error {x : Outcome α} {f : FileTree → α → Outcome β} {e : Fault} :
    (x.bind f).result = .error e ↔
      x.result = .error e ∨ ∃ a, x.result = .ok a ∧ (f x.tree a).result = .error e := by
  unfold bind
  cases x.result with
  | error e' => simp
  | ok a => simp

@[simp] theorem tree_after (log : List Record) (x : Outcome α) : (after log x).tree = x.tree := rfl

theorem bind_of_ok {x : Outcome α} {f : FileTree → α → Outcome β} {a : α}
    (h : x.result = .ok a) : x.bind f = after x.log (f x.tree a) := by
  unfold bind
  rw [h]
  rfl

theorem tree_bind_of_ok {x : Outcome α} {f : FileTree → α → Outcome β} {a : α}
    (h : x.result = .ok a) : (x.bind f).tree = (f x.tree a).tree := by
  rw [bind_of_ok h, tree_after]

/-- A step that leaves the tree alone. -/
theorem tree_bind_of_tree_eq {x : Outcome α} {f : FileTree → α → Outcome β}
    (h : ∀ t a, (f t a).tree = t) : (x.bind f).tree = x.tree := by
  unfold bind
  split
  · rfl
  · exact h _ _

theorem tree_bind_of_error {x : Outcome α} {f : FileTree → α → Outcome β} {e : Fault}
    (h : x.result = .error e) : (x.bind f).tree = x.tree := by
  unfold bind
  rw [h]

end Outcome

end ModelBindings
