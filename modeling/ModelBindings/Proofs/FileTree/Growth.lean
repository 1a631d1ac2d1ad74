import ModelBindings.FileTree

/-!
# Where paths lead, and what making directories changes

A path is followed without a look at the tree: `..` goes up, any other name goes down. Where the
tree lets a path be followed at all, this is where it leads, so the place of a path is known before
anything on the way exists.

* `FileTree.placeOf` : the place that a path spells; `placeOf_of_resolve` : a path that can be
  followed leads there.
* `FileTree.IsOnWay` : the places that a path passes, as it is written.
* `FileTree.GrownBy` : a tree with further directories at some places where nothing stood.
* `makeDirectories_grownBy` : making directories adds directories on the way, at places where
  nothing stood, and changes nothing else, whether or not it comes to its end.
-/

set_option autoImplicit false

namespace ModelBindings

/-! ## Places that paths spell -/

namespace Location

/-- The place that a name spells from a place on. -/
def step (l : Location) (n : Text) : Location :=
  if n = "." then l else if n = ".." then l.parent else l.child n

/-- The place that names spell one after another. -/
def walk (l : Location) (names : List Text) : Location :=
  names.foldl step l

theorem walk_append (l : Location) (a b : List Text) : l.walk (a ++ b) = (l.walk a).walk b := by
  simp [walk]

theorem child_inj {l : Location} {a b : Text} : l.child a = l.child b ↔ a = b := by
  refine ⟨fun h => ?_, fun h => by rw [h]⟩
  simpa using congrArg names h

theorem child_ne_root (l : Location) (n : Text) : l.child n ≠ root := by
  intro h
  have := congrArg names h
  simp at this

end Location

namespace FileTree

/-- The place that a path spells. -/
def placeOf (t : FileTree) (p : Path) : Location :=
  (t.startOf p).walk p.names

/-- The place lies on the way of a path, as the path is written; its end is on its way. -/
def IsOnWay (t : FileTree) (p : Path) (k : Location) : Prop :=
  ∃ names, names <+: p.names ∧ k = (t.startOf p).walk names

theorem step_of_child {t : FileTree} {l k : Location} {n : Text} (h : t.child l n = .ok k) :
    k = l.step n ∧ t.lookup? l = some .directory := by
  unfold child at h
  split at h
  · cases h
  · cases h
  · rename_i hl
    refine ⟨?_, hl⟩
    unfold Location.step
    split at h
    · rename_i e
      cases h
      rw [if_pos e]
    · rename_i e
      rw [if_neg e]
      split at h
      · rename_i e2
        cases h
        rw [if_pos e2]
      · rename_i e2
        rw [if_neg e2]
        split at h
        · cases h
        · cases h
          rfl

theorem walk_of_follow {t : FileTree} {l k : Location} {names : List Text}
    (h : t.follow l names = .ok k) : k = l.walk names := by
  induction names generalizing l with
  | nil => cases h; rfl
  | cons n r ih =>
    unfold follow at h
    split at h
    · cases h
    · rename_i m hm
      obtain ⟨rfl, _⟩ := step_of_child hm
      exact ih h

/-- A path that was given as a text is resolved when the text can be given and the path followed. -/
theorem resolveAs_eq_ok_iff {t : FileTree} {given : Text} {p : Path} {l : Location} :
    t.resolveAs given p = .ok l ↔
      checkPath given = .ok () ∧ t.follow (t.startOf p) p.names = .ok l := by
  unfold resolveAs
  cases checkPath given with
  | error e => simp
  | ok _ => cases t.follow (t.startOf p) p.names <;> simp

/-- A path that can be followed leads to the place that it spells. -/
theorem placeOf_of_resolve {t : FileTree} {p : Path} {l : Location} (h : t.resolve p = .ok l) :
    l = t.placeOf p :=
  walk_of_follow (resolveAs_eq_ok_iff.mp h).2

/-- Following a path needs directories only, so it can be done also where there are more. -/
theorem follow_of_directories {t t' : FileTree} {l k : Location} {names : List Text}
    (hd : ∀ j, t.lookup? j = some .directory → t'.lookup? j = some .directory)
    (h : t.follow l names = .ok k) : t'.follow l names = .ok k := by
  induction names generalizing l with
  | nil => exact h
  | cons n r ih =>
    unfold follow at h ⊢
    split at h
    · cases h
    · rename_i m hm
      have hl := (step_of_child hm).2
      have hm' : t'.child l n = .ok m := by
        unfold child at hm ⊢
        rw [hd l hl]
        rw [hl] at hm
        exact hm
      rw [hm']
      exact ih h

theorem resolve_of_directories {t t' : FileTree} {p : Path} {l : Location}
    (hc : t'.current = t.current)
    (hd : ∀ j, t.lookup? j = some .directory → t'.lookup? j = some .directory)
    (h : t.resolve p = .ok l) : t'.resolve p = .ok l := by
  obtain ⟨hcheck, hfollow⟩ := resolveAs_eq_ok_iff.mp h
  have hstart : t'.startOf p = t.startOf p := by
    unfold startOf
    rw [hc]
  refine resolveAs_eq_ok_iff.mpr ⟨hcheck, ?_⟩
  rw [hstart]
  exact follow_of_directories hd hfollow

theorem advance_spec {t : FileTree} {l k : Location} {names missing : List Text}
    (h : t.advance l names = .ok (k, missing)) :
    ∃ done, names = done ++ missing ∧ k = l.walk done := by
  induction names generalizing l with
  | nil =>
    cases h
    exact ⟨[], rfl, rfl⟩
  | cons n r ih =>
    unfold advance at h
    split at h
    · cases h
    · rename_i m hm
      obtain ⟨rfl, _⟩ := step_of_child hm
      split at h
      · obtain ⟨done, hr, hk⟩ := ih h
        exact ⟨n :: done, by rw [hr]; rfl, hk⟩
      · cases h
        exact ⟨[], rfl, rfl⟩

/-! ## Growth -/

/-- A tree with further directories at places where nothing stood. -/
structure GrownBy (S : Location → Prop) (t t' : FileTree) : Prop where
  current_eq : t'.current = t.current
  lookup : ∀ k, t'.lookup? k = t.lookup? k ∨
    (t.lookup? k = none ∧ t'.lookup? k = some .directory ∧ S k)

namespace GrownBy

variable {S : Location → Prop} {t t' t'' : FileTree}

theorem refl (S : Location → Prop) (t : FileTree) : GrownBy S t t :=
  ⟨rfl, fun _ => .inl rfl⟩

theorem trans (h : GrownBy S t t') (h' : GrownBy S t' t'') : GrownBy S t t'' := by
  refine ⟨h'.current_eq.trans h.current_eq, fun k => ?_⟩
  rcases h.lookup k with e | ⟨hn, hd, hs⟩
  · rcases h'.lookup k with e' | ⟨hn', hd', hs'⟩
    · exact .inl (e'.trans e)
    · exact .inr ⟨e ▸ hn', hd', hs'⟩
  · rcases h'.lookup k with e' | ⟨hn', _, _⟩
    · exact .inr ⟨hn, e'.trans hd, hs⟩
    · rw [hd] at hn'
      cases hn'

/-- One more directory where nothing stood. -/
theorem put {k : Location} (hk : S k) (h : t.lookup? k = none) :
    GrownBy S t (t.put k .directory) := by
  refine ⟨rfl, fun j => ?_⟩
  rw [lookup?_put]
  split
  · rename_i e
    subst e
    exact .inl (by simp [lookup?])
  · split
    · rename_i e
      subst e
      exact .inr ⟨h, rfl, hk⟩
    · exact .inl rfl

/-- What stood anywhere stands there still. -/
theorem lookup_of_some (h : GrownBy S t t') {k : Location} {e : Entry}
    (hk : t.lookup? k = some e) : t'.lookup? k = some e := by
  rcases h.lookup k with heq | ⟨hn, _, _⟩
  · rw [heq, hk]
  · rw [hk] at hn
    cases hn

/-- Files are those that were there. -/
theorem lookup_file_iff (h : GrownBy S t t') (k : Location) (c : Content) :
    t'.lookup? k = some (.file c) ↔ t.lookup? k = some (.file c) := by
  refine ⟨fun hk => ?_, h.lookup_of_some⟩
  rcases h.lookup k with heq | ⟨_, hd, _⟩
  · rw [← heq, hk]
  · rw [hd] at hk
    cases hk

theorem placeOf_eq (h : GrownBy S t t') (p : Path) : t'.placeOf p = t.placeOf p := by
  unfold placeOf startOf
  rw [h.current_eq]

end GrownBy

/-! ## Making directories -/

theorem makeBelow_grownBy {S : Location → Prop} {t : FileTree} {p : Path} {l : Location}
    {names : List Text} (hS : ∀ r, r <+: names → S (l.walk r)) :
    GrownBy S t (t.makeBelow p l names).1 := by
  induction names generalizing t p l with
  | nil => exact .refl S t
  | cons n r ih =>
    unfold makeBelow
    dsimp only
    split
    · exact .refl S t
    · rename_i k hk
      obtain ⟨rfl, _⟩ := step_of_child hk
      have hS' : ∀ q, q <+: r → S ((l.step n).walk q) := fun q hq =>
        hS (n :: q) (List.cons_prefix_cons.mpr ⟨rfl, hq⟩)
      split
      · rename_i hn
        exact (GrownBy.put (hS' [] (List.nil_prefix)) hn).trans (ih hS')
      · exact ih hS'
      · exact .refl S t

theorem makeMissing_grownBy (t : FileTree) (p : Path) :
    GrownBy (t.IsOnWay p) t (t.makeMissing p).1 := by
  unfold makeMissing
  split
  · exact .refl _ t
  · split <;> exact .refl _ t
  · rename_i l missing _ hadv
    split
    · exact .refl _ t
    · obtain ⟨done, hnames, rfl⟩ := advance_spec hadv
      refine makeBelow_grownBy fun r hr => ⟨done ++ r, ?_, (Location.walk_append _ _ _).symm⟩
      rw [hnames]
      exact (List.prefix_append_right_inj done).mpr hr

/-- **Making directories adds directories on the way and changes nothing else.** -/
theorem makeDirectories_grownBy (t : FileTree) (p : Path) :
    GrownBy (t.IsOnWay p) t (t.makeDirectories p).1 := by
  unfold makeDirectories
  split
  · exact .refl _ t
  · exact makeMissing_grownBy t p

end FileTree

end ModelBindings
