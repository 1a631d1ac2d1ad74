import ModelBindings.Value

/-!
# Parts of values

* `Value.at?` : what stands behind names of members.
* `Value.IsExact` : no double stands anywhere in a value, so that its text says all of it.
-/

set_option autoImplicit false

namespace ModelBindings.Value

/-! ## Members -/

/-- What stands in a value behind names of members, one after another. -/
def at? (v : Value) : List Text → Option Value
  | [] => some v
  | k :: r => (v.member? k).bind fun w => w.at? r

variable {v w : Value} {k : Text}

theorem member?_eq_some (h : v.member? k = some w) :
    ∃ ms, v = .object ms ∧ Association.get? k ms = some w := by
  cases v with
  | object ms => exact ⟨ms, rfl, h⟩
  | _ => cases h

theorem at?_cons {r : List Text} (h : v.at? (k :: r) = some w) :
    ∃ ms u, v = .object ms ∧ Association.get? k ms = some u ∧ u.at? r = some w := by
  obtain ⟨u, hu, hw⟩ := Option.bind_eq_some_iff.mp h
  obtain ⟨ms, rfl, hget⟩ := member?_eq_some hu
  exact ⟨ms, u, rfl, hget, hw⟩

theorem memberD_of_get {ms : Members} (h : Association.get? k ms = some v) (missing : Value) :
    (Value.object ms).memberD k missing = v :=
  congrArg (fun w => w.getD missing) h

theorem object_of_memberD_text {s : Text} (h : v.memberD k .null = .text s) :
    ∃ ms, v = .object ms := by
  cases v with
  | object ms => exact ⟨ms, rfl⟩
  | _ => cases h

/-! ## Exact values -/

/-- No double stands anywhere in the value. -/
inductive IsExact : Value → Prop where
  | null : IsExact .null
  | bool (b : Bool) : IsExact (.bool b)
  | int (n : Int) : IsExact (.int n)
  | text (s : Text) : IsExact (.text s)
  | list {items : List Value} (h : ∀ v ∈ items, IsExact v) : IsExact (.list items)
  | object {ms : Members} (h : ∀ m ∈ ms, IsExact m.2) : IsExact (.object ms)

end ModelBindings.Value
