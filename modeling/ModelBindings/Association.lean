/-!
# Associations

Values by key, in the order in which the keys came, each key once.

* `Association.put` : a key keeps its first place and takes its last value.
* `get?_put`, `get?_erase` : what a key has after a change.
-/

set_option autoImplicit false

namespace ModelBindings

/-- Values by key, in the order in which the keys came. -/
abbrev Association (α β : Type) := List (α × β)

namespace Association

variable {α β : Type} [DecidableEq α]

/-- Give a key a value: in its place if the key is there, else at the end. -/
def put (k : α) (v : β) : Association α β → Association α β
  | [] => [(k, v)]
  | (j, w) :: r => if j = k then (j, v) :: r else (j, w) :: put k v r

/-- The value of a key. -/
def get? (k : α) : Association α β → Option β
  | [] => none
  | (j, v) :: r => if j = k then some v else get? k r

/-- Remove a key. -/
def erase (k : α) : Association α β → Association α β
  | [] => []
  | (j, v) :: r => if j = k then erase k r else (j, v) :: erase k r

/-- The keys in order. -/
def keys (a : Association α β) : List α :=
  a.map (·.1)

/-- Keys in the order of their first occurrence, each with its last value. -/
def ofList (l : List (α × β)) : Association α β :=
  l.foldl (fun a p => put p.1 p.2 a) []

theorem get?_put (a : Association α β) (k j : α) (v : β) :
    get? j (put k v a) = if j = k then some v else get? j a := by
  induction a with
  | nil => by_cases h : k = j <;> simp [put, get?, h, eq_comm]
  | cons p r ih =>
    obtain ⟨i, w⟩ := p
    by_cases hi : i = k
    · subst hi
      by_cases hj : j = i
      · subst hj; simp [put, get?]
      · have hj' : ¬ i = j := fun h => hj h.symm
        simp [put, get?, hj, hj']
    · by_cases hj : i = j
      · subst hj; simp [put, get?, hi]
      · simp [put, get?, hi, hj, ih]

theorem get?_erase (a : Association α β) (k j : α) :
    get? j (erase k a) = if j = k then none else get? j a := by
  induction a with
  | nil => simp [erase, get?]
  | cons p r ih =>
    obtain ⟨i, w⟩ := p
    by_cases hi : i = k
    · subst hi
      by_cases hj : i = j
      · subst hj; simp [erase, ih]
      · have hj' : ¬ j = i := fun h => hj h.symm
        simp [erase, get?, ih, hj, hj']
    · by_cases hj : i = j
      · subst hj; simp [erase, get?, hi]
      · simp [erase, get?, hi, hj, ih]

end Association

end ModelBindings
