import ModelBindings.Proofs.Json.Extent

/-!
# Halves of pairs in texts and values

The two halves of a surrogate pair next to each other in a text are two code points. Written by
their units they cannot be told from the character that they spell, so they are one character where
the text is read back.

* `Text.joinHalves`, `Value.joined` : a text or a value with such halves put together.
* `Text.IsWhole`, `Value.IsWhole` : no two halves of a pair are next to each other.
* `Value.joined_of_isWhole` : a value without such halves stays as it is.
-/

set_option autoImplicit false

namespace ModelBindings

/-! ## Texts -/

/-- The two halves of a pair, the high one first. -/
def CodePoint.ArePair (c d : CodePoint) : Prop :=
  Json.isHighSurrogate c.toNat = true ∧ Json.isLowSurrogate d.toNat = true

instance (c d : CodePoint) : Decidable (c.ArePair d) := instDecidableAnd

/-- The character that the two halves of a pair spell. -/
def CodePoint.join (c d : CodePoint) : CodePoint :=
  .ofNat (0x10000 + (c.toNat - 0xd800) * 0x400 + (d.toNat - 0xdc00))

namespace Text

/-- Code points with the halves of pairs that are next to each other put together. -/
def joinHalves : List CodePoint → List CodePoint
  | c :: d :: r => if c.ArePair d then c.join d :: joinHalves r else c :: joinHalves (d :: r)
  | cs => cs

/-- A text with the halves of pairs that are next to each other put together. -/
def joined (s : Text) : Text := ofList (joinHalves s.toList)

/-- No two halves of a pair are next to each other in the text. -/
def IsWhole (s : Text) : Prop :=
  s.toList.IsChain fun c d => ¬ c.ArePair d

instance (s : Text) : Decidable s.IsWhole :=
  inferInstanceAs (Decidable (s.toList.IsChain fun c d => ¬ c.ArePair d))

theorem joinHalves_of_isChain {cs : List CodePoint} (h : cs.IsChain fun c d => ¬ c.ArePair d) :
    joinHalves cs = cs := by
  induction cs with
  | nil => rfl
  | cons c r ih =>
    cases r with
    | nil => rfl
    | cons d r =>
      rw [List.isChain_cons_cons] at h
      rw [joinHalves, if_neg h.1, ih h.2]

theorem joined_of_isWhole {s : Text} (h : s.IsWhole) : s.joined = s :=
  congrArg ofList (joinHalves_of_isChain h)

end Text

/-! ## Values -/

namespace Value

mutual

/-- A value with the halves of pairs put together in its texts and names of members. -/
def joined : Value → Value
  | .text s => .text s.joined
  | .list items => .list (joinedItems items)
  | .object ms => .object (Association.ofList (joinedMembers ms))
  | v => v

/-- The items of a list, each with its halves put together. -/
def joinedItems : List Value → List Value
  | [] => []
  | v :: r => joined v :: joinedItems r

/-- The members of an object, each with its halves put together. -/
def joinedMembers : List (Text × Value) → List (Text × Value)
  | [] => []
  | (k, v) :: r => (k.joined, joined v) :: joinedMembers r

end

theorem joinedItems_eq_map (items : List Value) : joinedItems items = items.map joined := by
  induction items with
  | nil => rfl
  | cons v r ih => rw [joinedItems, ih, List.map_cons]

theorem joinedMembers_eq_map (ms : List (Text × Value)) :
    joinedMembers ms = ms.map fun m => (m.1.joined, m.2.joined) := by
  induction ms with
  | nil => rfl
  | cons m r ih => rw [joinedMembers, ih, List.map_cons]

/-- No two halves of a pair are next to each other in a text or a name of a member of the value. -/
inductive IsWhole : Value → Prop where
  | null : IsWhole .null
  | bool (b : Bool) : IsWhole (.bool b)
  | int (n : Int) : IsWhole (.int n)
  | double (x : Double) : IsWhole (.double x)
  | text {s : Text} (h : s.IsWhole) : IsWhole (.text s)
  | list {items : List Value} (h : ∀ v ∈ items, IsWhole v) : IsWhole (.list items)
  | object {ms : Members} (hnames : ∀ m ∈ ms, m.1.IsWhole) (h : ∀ m ∈ ms, IsWhole m.2) :
    IsWhole (.object ms)

/-- **A value without halves of pairs next to each other stays as it is.** -/
theorem joined_of_isWhole {v : Value} {depth : Nat} (hfits : Json.Fits depth v) (h : v.IsWhole) :
    v.joined = v := by
  induction hfits with
  | null | bool | int | double => rfl
  | text s =>
    cases h with
    | text h => rw [joined, Text.joined_of_isWhole h]
  | @list _ items _ ih =>
    cases h with
    | list h =>
      have hitems : items.map joined = items :=
        (List.map_congr_left fun v hv => ih v hv (h v hv)).trans (List.map_id items)
      rw [joined, joinedItems_eq_map, hitems]
  | @object _ ms hkeys _ ih =>
    cases h with
    | object hnames h =>
      have hmember : ∀ m ∈ ms, (m.1.joined, m.2.joined) = m := fun m hm => by
        rw [Text.joined_of_isWhole (hnames m hm), ih m hm (h m hm)]
      have hms : joinedMembers ms = ms := by
        rw [joinedMembers_eq_map]
        exact (List.map_congr_left hmember).trans (List.map_id ms)
      rw [joined, hms, Association.ofList_of_nodup hkeys]

end Value

end ModelBindings
