import ModelBindings.Json.Reader
import ModelBindings.Proofs.Association
import ModelBindings.Proofs.Decimal.Notation

/-!
# What can be read from a JSON text

* `Fits` : the bounds that hold for values that were read: of the digits of integers, of the names
  in objects and of the nesting.
* `value_eq_ok`, `items_eq_ok`, `members_eq_ok` : what one step of reading can result in.
* `fits_of_read` : what was read keeps the bounds.
-/

set_option autoImplicit false

namespace ModelBindings.Json

/-- The value could have been read: no integer has more digits than may be read, each object has
each name once, and lists and objects are nested at most so deep. -/
inductive Fits : Nat → Value → Prop where
  | null {d : Nat} : Fits d .null
  | bool {d : Nat} (b : Bool) : Fits d (.bool b)
  | int {d : Nat} {n : Int} (h : (Text.digits n.natAbs).length ≤ digitLimit) : Fits d (.int n)
  | double {d : Nat} (x : Double) : Fits d (.double x)
  | text {d : Nat} (s : Text) : Fits d (.text s)
  | list {d : Nat} {items : List Value} (h : ∀ v ∈ items, Fits d v) : Fits (d + 1) (.list items)
  | object {d : Nat} {ms : Members} (hkeys : (Association.keys ms).Nodup)
    (h : ∀ m ∈ ms, Fits d m.2) : Fits (d + 1) (.object ms)

variable {cs rest : List CodePoint} {v : Value} {d fuel : Nat}

/-! ## Words and numbers -/

theorem fits_wordValue (h : wordValue? cs = some (v, rest)) (d : Nat) : Fits d v := by
  obtain ⟨⟨w, u⟩, hmem, hu⟩ := List.exists_of_findSome?_eq_some h
  obtain ⟨r, -, he⟩ := Option.map_eq_some_iff.mp hu
  obtain ⟨rfl, rfl⟩ := Prod.mk.inj he
  simp only [wordValues, List.mem_cons, Prod.mk.injEq, List.not_mem_nil, or_false] at hmem
  rcases hmem with ⟨-, rfl⟩ | ⟨-, rfl⟩ | ⟨-, rfl⟩ | ⟨-, rfl⟩ | ⟨-, rfl⟩ | ⟨-, rfl⟩
  · exact .null
  · exact .bool true
  · exact .bool false
  · exact .double _
  · exact .double _
  · exact .double _

theorem isDigits_wholePart {ds : List CodePoint} (h : wholePart cs = some (ds, rest)) :
    IsDigits ds := by
  unfold wholePart at h
  split at h
  · cases h
  · split at h
    · cases h
      exact isDigits_zero
    · split at h
      · rename_i hc
        cases h
        constructor
        · exact List.cons_ne_nil _ _
        · intro c hmem
          rcases List.mem_cons.mp hmem with rfl | hmem
          · exact hc
          · exact List.mem_takeWhile_imp hmem
      · cases h

theorem fits_number {negative : Bool} {start : List CodePoint}
    (h : number negative start cs = .ok (v, rest)) (d : Nat) : Fits d v := by
  unfold number at h
  split at h
  · cases h
  · rename_i whole r hwhole
    have hdigits := isDigits_wholePart hwhole
    dsimp only at h
    split at h
    · cases h
    · rename_i u hvalue
      cases h
      unfold NumberParts.value at hvalue
      split at hvalue
      · split at hvalue
        · cases hvalue
        · rename_i hlimit
          dsimp only at hlimit
          cases hvalue
          have hlength := Text.length_digits_ofDigits hdigits
          have habs : Int.natAbs (if negative then -(Text.ofDigits whole : Int)
              else Text.ofDigits whole) = Text.ofDigits whole := by
            cases negative <;> simp
          refine .int ?_
          rw [habs]
          omega
      · cases hvalue
        exact .double _

theorem fits_plainValue (h : plainValue cs = .ok (v, rest)) (d : Nat) : Fits d v := by
  unfold plainValue at h
  split at h
  · rename_i hword
    cases h
    exact fits_wordValue hword d
  · split at h
    · exact fits_number h d
    · exact fits_number h d

/-! ## Values -/

/-- What a value is, by its first character: a text, a list, an object, or none of them. -/
theorem value_eq_ok (h : value d (fuel + 1) cs = .ok (v, rest)) :
    (∃ s, v = .text s) ∨ plainValue cs = .ok (v, rest) ∨
    (∃ e vs, d = e + 1 ∧ v = .list vs ∧ (vs = [] ∨ ∃ r, items e fuel r = .ok (vs, rest))) ∨
    (∃ e ms, d = e + 1 ∧ v = .object (Association.ofList ms) ∧
      (ms = [] ∨ ∃ r, members e fuel r = .ok (ms, rest))) := by
  unfold value at h
  split at h
  · contradiction
  · split at h
    · cases h
    · cases h
      exact .inl ⟨_, rfl⟩
  · split at h
    · cases h
    · rename_i e
      split at h
      · cases h
        exact .inr (.inr (.inl ⟨e, [], rfl, rfl, .inl rfl⟩))
      · split at h
        · cases h
        · rename_i n hn _ _ _ _ vs u hitems
          cases h
          obtain rfl := Nat.succ.inj hn
          exact .inr (.inr (.inl ⟨e, vs, rfl, rfl, .inr ⟨_, hitems⟩⟩))
  · split at h
    · cases h
    · rename_i e
      split at h
      · cases h
        exact .inr (.inr (.inr ⟨e, [], rfl, rfl, .inl rfl⟩))
      · split at h
        · cases h
        · rename_i n hn _ _ _ _ ms u hmembers
          cases h
          obtain rfl := Nat.succ.inj hn
          exact .inr (.inr (.inr ⟨e, ms, rfl, rfl, .inr ⟨_, hmembers⟩⟩))
  · exact .inr (.inl h)

/-- The items of a list are a value and further items, if there are any. -/
theorem items_eq_ok {vs : List Value} (h : items d (fuel + 1) cs = .ok (vs, rest)) :
    ∃ v ws, (∃ r₁ r₂, value d fuel r₁ = .ok (v, r₂)) ∧ vs = v :: ws ∧
      (ws = [] ∨ ∃ r, items d fuel r = .ok (ws, rest)) := by
  rw [items] at h
  split at h
  · cases h
  · rename_i v r hv
    refine ⟨v, ?_⟩
    split at h
    · cases h
      exact ⟨[], ⟨_, _, hv⟩, rfl, .inl rfl⟩
    · split at h
      · cases h
      · rename_i ws u hws
        cases h
        exact ⟨ws, ⟨_, _, hv⟩, rfl, .inr ⟨_, hws⟩⟩
    · cases h

/-- The members of an object are a name with a value and further members, if there are any. -/
theorem members_eq_ok {ms : List (Text × Value)}
    (h : members d (fuel + 1) cs = .ok (ms, rest)) :
    ∃ k v ns, (∃ r₁ r₂, value d fuel r₁ = .ok (v, r₂)) ∧ ms = (k, v) :: ns ∧
      (ns = [] ∨ ∃ r, members d fuel r = .ok (ns, rest)) := by
  unfold members at h
  split at h
  · contradiction
  · rename_i n r hn
    obtain rfl := Nat.succ.inj hn
    split at h
    · cases h
    · rename_i k r₀ hk
      split at h
      · split at h
        · cases h
        · rename_i v r₂ hv
          refine ⟨k, v, ?_⟩
          split at h
          · cases h
            exact ⟨[], ⟨_, _, hv⟩, rfl, .inl rfl⟩
          · split at h
            · cases h
            · rename_i ns u hns
              cases h
              exact ⟨ns, ⟨_, _, hv⟩, rfl, .inr ⟨_, hns⟩⟩
          · cases h
      · cases h
  · cases h

/-- Each step of reading keeps the bounds; by induction on the bound of the characters left. -/
theorem fits_of_steps (fuel : Nat) :
    (∀ {d cs v r}, value d fuel cs = .ok (v, r) → Fits d v) ∧
    (∀ {d cs vs r}, items d fuel cs = .ok (vs, r) → ∀ v ∈ vs, Fits d v) ∧
    (∀ {d cs ms r}, members d fuel cs = .ok (ms, r) → ∀ m ∈ ms, Fits d m.2) := by
  induction fuel with
  | zero =>
    refine ⟨?_, ?_, ?_⟩
    · intro d cs v r h
      rw [value] at h
      cases h
    · intro d cs vs r h
      rw [items] at h
      cases h
    · intro d cs ms r h
      rw [members] at h
      cases h
  | succ fuel ih =>
    obtain ⟨hvalue, hitems, hmembers⟩ := ih
    refine ⟨?_, ?_, ?_⟩
    · intro d cs v r h
      rcases value_eq_ok h with ⟨s, rfl⟩ | h | ⟨e, vs, rfl, rfl, hvs⟩ | ⟨e, ms, rfl, rfl, hms⟩
      · exact .text s
      · exact fits_plainValue h _
      · refine .list ?_
        intro v hv
        rcases hvs with rfl | ⟨r, hr⟩
        · cases hv
        · exact hitems hr v hv
      · refine .object (Association.nodup_keys_ofList ms) ?_
        intro m hm
        have hm := Association.mem_of_mem_ofList hm
        rcases hms with rfl | ⟨r, hr⟩
        · cases hm
        · exact hmembers hr m hm
    · intro d cs vs r h u hu
      obtain ⟨v, ws, ⟨r₁, r₂, hv⟩, rfl, hws⟩ := items_eq_ok h
      rcases List.mem_cons.mp hu with rfl | hu
      · exact hvalue hv
      · rcases hws with rfl | ⟨r, hr⟩
        · cases hu
        · exact hitems hr u hu
    · intro d cs ms r h m hm
      obtain ⟨k, v, ns, ⟨r₁, r₂, hv⟩, rfl, hns⟩ := members_eq_ok h
      rcases List.mem_cons.mp hm with rfl | hm
      · exact hvalue hv
      · rcases hns with rfl | ⟨r, hr⟩
        · cases hm
        · exact hmembers hr m hm

/-- **What was read keeps the bounds.** -/
theorem fits_of_read (h : read cs = .ok v) : Fits nestingLimit v := by
  unfold read at h
  split at h
  · cases h
  · split at h
    · cases h
    · rename_i hdocument
      cases h
      unfold document at hdocument
      split at hdocument
      · cases hdocument
      · rename_i hvalue
        split at hdocument
        · cases hdocument
          exact (fits_of_steps _).1 hvalue
        · cases hdocument

end ModelBindings.Json
