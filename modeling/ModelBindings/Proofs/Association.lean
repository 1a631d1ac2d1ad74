import Mathlib.Data.List.Nodup
import ModelBindings.Association

/-!
# Keys of associations

* `keys_put_of_not_mem`, `nodup_keys_put` : keys stay pairwise different, and a new one comes last.
* `put_eq_self`, `erase_put` : a value that a key has already, and a new key that is removed again,
  make no difference.
* `nodup_keys_ofList`, `ofList_of_nodup` : a list of members names each key once, and one that does
  so already stays as it is.
-/

set_option autoImplicit false

namespace ModelBindings

namespace Association

variable {α β : Type} [DecidableEq α]

theorem mem_put {k : α} {v : β} {a : Association α β} {p : α × β} (h : p ∈ put k v a) :
    p = (k, v) ∨ p ∈ a := by
  induction a with
  | nil => exact .inl (List.mem_singleton.mp h)
  | cons q r ih =>
    obtain ⟨j, w⟩ := q
    unfold put at h
    split at h
    · rename_i e
      rcases List.mem_cons.mp h with rfl | h
      · exact .inl (by rw [e])
      · exact .inr (List.mem_cons_of_mem _ h)
    · rcases List.mem_cons.mp h with rfl | h
      · exact .inr List.mem_cons_self
      · exact (ih h).imp_right (List.mem_cons_of_mem _)

theorem put_ne_nil (k : α) (v : β) (a : Association α β) : put k v a ≠ [] := by
  cases a with
  | nil => exact List.cons_ne_nil _ _
  | cons p r =>
    rw [put]
    split <;> exact List.cons_ne_nil _ _

/-- A new key comes last. -/
theorem put_of_not_mem {k : α} {a : Association α β} (h : k ∉ keys a) (v : β) :
    put k v a = a ++ [(k, v)] := by
  induction a with
  | nil => rfl
  | cons q r ih =>
    simp only [keys, List.map_cons, List.mem_cons, not_or] at h ih
    rw [put, if_neg (Ne.symm h.1), ih h.2, List.cons_append]

theorem keys_put_of_not_mem {k : α} {a : Association α β} (h : k ∉ keys a) (v : β) :
    keys (put k v a) = keys a ++ [k] := by
  rw [put_of_not_mem h]
  simp [keys]

/-- Keys stay pairwise different. -/
theorem nodup_keys_put {a : Association α β} (h : (keys a).Nodup) (k : α) (v : β) :
    (keys (put k v a)).Nodup := by
  by_cases hk : k ∈ keys a
  · have hkeys : keys (put k v a) = keys a := by
      clear h
      induction a with
      | nil => cases hk
      | cons q r ih =>
        obtain ⟨j, w⟩ := q
        unfold put
        split
        · rfl
        · rename_i hne
          rcases List.mem_cons.mp hk with rfl | hk
          · exact absurd rfl hne
          · exact congrArg (j :: ·) (ih hk)
    rwa [hkeys]
  · rw [keys_put_of_not_mem hk, List.nodup_append]
    refine ⟨h, by simp, fun a ha b hb hab => ?_⟩
    rw [List.mem_singleton.mp hb] at hab
    exact hk (hab ▸ ha)

theorem get?_eq_none {k : α} {a : Association α β} : get? k a = none ↔ k ∉ keys a := by
  induction a with
  | nil => simp [get?, keys]
  | cons q r ih =>
    simp only [get?, keys, List.map_cons, List.mem_cons, not_or] at ih ⊢
    split
    · rename_i e
      simp [e]
    · rename_i e
      simp [ih, Ne.symm e]

/-- A value stays behind where a key that is free is put. -/
theorem get?_put_of_not_mem {k j : α} {w : β} {a : Association α β} (hk : k ∉ keys a) (v : β)
    (h : get? j a = some w) : get? j (put k v a) = some w := by
  rw [get?_put, if_neg, h]
  rintro rfl
  rw [get?_eq_none.mpr hk] at h
  cases h

theorem mem_keys_put {k j : α} {v : β} {a : Association α β} :
    j ∈ keys (put k v a) ↔ j = k ∨ j ∈ keys a := by
  rw [← not_iff_not, not_or, ← get?_eq_none, ← get?_eq_none, get?_put]
  by_cases h : j = k <;> simp [h]

theorem mem_of_get?_eq_some {k : α} {v : β} {a : Association α β} (h : get? k a = some v) :
    (k, v) ∈ a := by
  induction a with
  | nil => cases h
  | cons q r ih =>
    obtain ⟨j, w⟩ := q
    rw [get?] at h
    split at h
    · rename_i hj
      cases h
      rw [hj]
      exact List.mem_cons_self
    · exact List.mem_cons_of_mem _ (ih h)

/-! ## Changes that make no difference -/

/-- A key is given the value that it has. -/
theorem put_eq_self {k : α} {v : β} {a : Association α β} (h : get? k a = some v) :
    put k v a = a := by
  induction a with
  | nil => cases h
  | cons q r ih =>
    obtain ⟨j, w⟩ := q
    rw [get?] at h
    rw [put]
    split at h
    · rename_i hj
      cases h
      rw [if_pos hj]
    · rename_i hj
      rw [if_neg hj, ih h]

/-- A new key is removed again. -/
theorem erase_put {k : α} {a : Association α β} (h : k ∉ keys a) (v : β) :
    erase k (put k v a) = a := by
  induction a with
  | nil => simp [put, erase]
  | cons q r ih =>
    simp only [keys, List.map_cons, List.mem_cons, not_or] at h ih
    rw [put, if_neg (Ne.symm h.1), erase, if_neg (Ne.symm h.1), ih h.2]

/-- No key is lost. -/
theorem length_le_length_put (k : α) (v : β) (a : Association α β) :
    a.length ≤ (put k v a).length := by
  induction a with
  | nil => exact Nat.zero_le _
  | cons q r ih =>
    rw [put]
    split
    · exact Nat.le_refl _
    · exact Nat.succ_le_succ ih

/-! ## Lists of members -/

/-- Members of a list come from it. -/
theorem mem_of_mem_ofList {l : List (α × β)} {p : α × β} (h : p ∈ ofList l) : p ∈ l := by
  have hfold : ∀ (l : List (α × β)) (a : Association α β),
      p ∈ l.foldl (fun a p => put p.1 p.2 a) a → p ∈ a ∨ p ∈ l := by
    intro l
    induction l with
    | nil =>
      intro a h
      exact .inl h
    | cons q r ih =>
      intro a h
      rcases ih _ h with h | h
      · rcases mem_put h with rfl | h
        · exact .inr List.mem_cons_self
        · exact .inl h
      · exact .inr (List.mem_cons_of_mem q h)
  rcases hfold l [] h with h | h
  · cases h
  · exact h

theorem nodup_keys_ofList (l : List (α × β)) : (keys (ofList l)).Nodup := by
  have hfold : ∀ (l : List (α × β)) (a : Association α β), (keys a).Nodup →
      (keys (l.foldl (fun a p => put p.1 p.2 a) a)).Nodup := by
    intro l
    induction l with
    | nil =>
      intro a h
      exact h
    | cons p r ih =>
      intro a h
      exact ih _ (nodup_keys_put h p.1 p.2)
  exact hfold l [] List.nodup_nil

/-- A list that names each key once stays as it is. -/
theorem ofList_of_nodup {l : List (α × β)} (h : (keys l).Nodup) : ofList l = l := by
  have hfold : ∀ (l : List (α × β)) (a : Association α β), (keys (a ++ l)).Nodup →
      l.foldl (fun a p => put p.1 p.2 a) a = a ++ l := by
    intro l
    induction l with
    | nil => simp
    | cons p r ih =>
      intro a h
      have hnew : p.1 ∉ keys a := by
        intro hp
        simp only [keys, List.map_append, List.map_cons, List.nodup_append] at h
        exact h.2.2 p.1 hp p.1 List.mem_cons_self rfl
      rw [List.foldl_cons, put_of_not_mem hnew, ih _ (by simpa using h)]
      simp
  exact hfold l [] h

end Association

end ModelBindings
