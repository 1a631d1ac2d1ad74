import ModelBindings.Proofs.FileTree.Overwrite
import ModelBindings.Proofs.Path

/-!
# Paths from the root

A path from the current directory can be written as one from the root, if the current directory
stands where it says: all the directories above it are there, and their names can be names.

* `FileTree.Reached` : a place that can be reached from the root by its names.
* `FileTree.Rooted` : the current directory is such a place, and is there.
* `FileTree.fromRoot` : a path as one from the root; `follow_fromRoot`, `advance_fromRoot` : it
  leads to the same place.
* `reached_of_follow` : following a path leads to places that can be reached from the root.
-/

set_option autoImplicit false

namespace ModelBindings

/-- A code point that a path can hold: it has a form in bytes, and is not the null character. -/
def CodePoint.IsNameable (c : CodePoint) : Prop :=
  c ≠ '\x00' ∧ (c.isSurrogate = true → c.isByte = true)

instance (c : CodePoint) : Decidable c.IsNameable := instDecidableAnd

/-- A text that a path can hold. -/
def Text.IsNameable (s : Text) : Prop :=
  ∀ c ∈ s.toList, c.IsNameable

instance (s : Text) : Decidable s.IsNameable :=
  inferInstanceAs (Decidable (∀ c ∈ s.toList, _))

theorem Path.isNameable_toString (p : Path) :
    p.toString.IsNameable ↔ ∀ n ∈ p.names, n.IsNameable :=
  Path.forall_mem_toString (by decide) (by decide) p

/-- A text that a directory can have as a name in it. -/
structure IsProperName (s : Text) : Prop extends IsPlainName s where
  nameable : s.IsNameable
  short : s.byteSize ≤ FileTree.nameLimit

namespace FileTree

/-! ## Trees that keep their directories -/

/-- A tree with the same current directory and all the directories of another. -/
structure KeepsDirectories (t t' : FileTree) : Prop where
  current_eq : t'.current = t.current
  directory : ∀ k, t.lookup? k = some .directory → t'.lookup? k = some .directory

namespace KeepsDirectories

variable {t t' t'' : FileTree}

theorem refl (t : FileTree) : KeepsDirectories t t :=
  ⟨rfl, fun _ h => h⟩

theorem trans (h : KeepsDirectories t t') (h' : KeepsDirectories t' t'') :
    KeepsDirectories t t'' :=
  ⟨h'.current_eq.trans h.current_eq, fun k hk => h'.directory k (h.directory k hk)⟩

/-- A file where nothing stands. -/
theorem put {l : Location} (hn : t.lookup? l = none) (e : Entry) :
    KeepsDirectories t (t.put l e) := by
  refine ⟨rfl, fun k hk => ?_⟩
  rw [lookup?_put]
  split
  · rfl
  · split
    · rename_i hkl
      rw [hkl, hn] at hk
      cases hk
    · exact hk

end KeepsDirectories

theorem GrownBy.keeps {S : Location → Prop} {t t' : FileTree} (h : GrownBy S t t') :
    KeepsDirectories t t' :=
  ⟨h.current_eq, fun _ hk => h.lookup_of_some hk⟩

theorem Overwritten.keeps {S : Location → Prop} {ws : List (Location × Text)} {t t' : FileTree}
    (h : Overwritten S ws t t') : KeepsDirectories t t' := by
  refine ⟨h.current_eq, fun k hk => ?_⟩
  have hother : ∀ w ∈ ws, w.1 ≠ k := by
    rintro w hw rfl
    exact (h.written w hw).2 hk
  rcases h.other k hother with e | ⟨hn, -, -⟩
  · rw [e, hk]
  · rw [hk] at hn
    cases hn

/-! ## Places that can be reached -/

variable {t t' : FileTree} {l k : Location}

/-- The place can be reached from the root by its names: each is a proper name, and above the place
there are only directories. -/
structure Reached (t : FileTree) (l : Location) : Prop where
  proper : ∀ n ∈ l.names, IsProperName n
  above : ∀ a b, l.names = a ++ b → b ≠ [] → t.lookup? (.ofNames a) = some .directory

/-- The current directory is there and can be reached from the root. -/
structure Rooted (t : FileTree) : Prop where
  reached : Reached t t.current
  directory : t.lookup? t.current = some .directory

theorem lookup?_root (t : FileTree) : t.lookup? .root = some .directory :=
  if_pos rfl

theorem reached_root (t : FileTree) : Reached t .root := by
  refine ⟨fun n hn => (nomatch hn), fun a b h hb => ?_⟩
  exact absurd (List.append_eq_nil_iff.mp h.symm).2 hb

theorem Reached.of_keeps (h : Reached t l) (hk : KeepsDirectories t t') : Reached t' l :=
  ⟨h.proper, fun a b hab hb => hk.directory _ (h.above a b hab hb)⟩

theorem Rooted.of_keeps (h : Rooted t) (hk : KeepsDirectories t t') : Rooted t' := by
  refine ⟨?_, ?_⟩
  · rw [hk.current_eq]
    exact h.reached.of_keeps hk
  · rw [hk.current_eq]
    exact hk.directory _ h.directory

theorem Reached.parent (h : Reached t l) : Reached t l.parent := by
  refine ⟨fun n hn => h.proper n (List.dropLast_subset _ hn), fun a b hab hb => ?_⟩
  rcases List.eq_nil_or_concat l.names with hl | ⟨front, n, hl⟩
  · rw [Location.names_parent, hl] at hab
    exact absurd (List.append_eq_nil_iff.mp hab.symm).2 hb
  · rw [Location.names_parent, hl, List.concat_eq_append, List.dropLast_concat] at hab
    refine h.above a (b ++ [n]) ?_ (by simp)
    rw [hl, hab, List.concat_eq_append, List.append_assoc]

theorem Reached.child {n : Text} (h : Reached t l) (hd : t.lookup? l = some .directory)
    (hn : IsProperName n) : Reached t (l.child n) := by
  refine ⟨fun m hm => ?_, fun a b hab hb => ?_⟩
  · rcases List.mem_append.mp hm with hm | hm
    · exact h.proper m hm
    · obtain rfl := List.mem_singleton.mp hm
      exact hn
  · rw [Location.names_child] at hab
    rcases List.eq_nil_or_concat b with rfl | ⟨b', m, rfl⟩
    · exact absurd rfl hb
    · rw [List.concat_eq_append, ← List.append_assoc] at hab
      obtain ⟨hab, -⟩ := List.append_inj' hab rfl
      by_cases hb' : b' = []
      · rw [hb', List.append_nil] at hab
        have hl : Location.ofNames a = l := Location.ext hab.symm
        rw [hl, hd]
      · exact h.above a b' hab hb'

/-- Following a path leads to places that can be reached from the root. -/
theorem reached_of_follow {names : List Text} (hl : Reached t l)
    (hnames : ∀ n ∈ names, .char '/' ∉ n.toList ∧ n.IsNameable ∧ n ≠ "")
    (h : t.follow l names = .ok k) : Reached t k := by
  induction names generalizing l with
  | nil =>
    cases h
    exact hl
  | cons n r ih =>
    obtain ⟨hslash, hnameable, hne⟩ := hnames n List.mem_cons_self
    unfold follow at h
    split at h
    · cases h
    · rename_i m hm
      refine ih ?_ (fun n hn => hnames n (List.mem_cons_of_mem _ hn)) h
      unfold FileTree.child at hm
      split at hm
      · cases hm
      · cases hm
      · rename_i hd
        split at hm
        · cases hm
          exact hl
        · rename_i hself
          split at hm
          · cases hm
            exact hl.parent
          · rename_i habove
            split at hm
            · cases hm
            · rename_i hshort
              cases hm
              exact hl.child hd ⟨⟨hslash, hne, hself, habove⟩, hnameable,
                Nat.le_of_not_lt hshort⟩

/-! ## Following paths from the root -/

theorem child_of_proper {n : Text} (hd : t.lookup? l = some .directory) (hn : IsProperName n) :
    t.child l n = .ok (l.child n) := by
  unfold FileTree.child
  rw [hd]
  dsimp only
  rw [if_neg hn.ne_self, if_neg hn.ne_above, if_neg (Nat.not_lt.mpr hn.short)]

theorem ofNames_child (a : List Text) (n : Text) :
    (Location.ofNames a).child n = .ofNames (a ++ [n]) :=
  Location.ext rfl

theorem ofNames_eq {a : List Text} (h : l.names = a ++ []) : Location.ofNames a = l :=
  Location.ext (by rw [h, List.append_nil]; rfl)

/-- The next name on the way to a place leads one directory further down. -/
theorem Reached.child_ofNames (h : Reached t l) {a r : List Text} {n : Text}
    (hab : l.names = a ++ n :: r) :
    t.child (.ofNames a) n = .ok (.ofNames (a ++ [n])) := by
  have hn := h.proper n (by rw [hab]; simp)
  have hd := h.above a (n :: r) hab (List.cons_ne_nil n r)
  rw [child_of_proper hd hn, ofNames_child]

/-- The names of a place lead to it, from wherever above it. -/
theorem Reached.follow_append (h : Reached t l) {a b : List Text} (hab : l.names = a ++ b)
    (names : List Text) : t.follow (.ofNames a) (b ++ names) = t.follow l names := by
  induction b generalizing a with
  | nil => rw [ofNames_eq hab, List.nil_append]
  | cons n r ih =>
    rw [List.cons_append, follow, h.child_ofNames hab]
    exact ih (hab.trans (List.append_cons a n r))

/-- The same as far as something stands on the way. -/
theorem Reached.advance_append (h : Reached t l) (hl : (t.lookup? l).isSome = true)
    {a b : List Text} (hab : l.names = a ++ b) (names : List Text) :
    t.advance (.ofNames a) (b ++ names) = t.advance l names := by
  induction b generalizing a with
  | nil => rw [ofNames_eq hab, List.nil_append]
  | cons n r ih =>
    have hab' : l.names = (a ++ [n]) ++ r := hab.trans (List.append_cons a n r)
    have hthere : (t.lookup? (.ofNames (a ++ [n]))).isSome = true := by
      cases r with
      | nil => rw [ofNames_eq hab', hl]
      | cons m r =>
        rw [h.above _ _ hab' (List.cons_ne_nil m r)]
        rfl
    rw [List.cons_append, advance, h.child_ofNames hab]
    dsimp only
    rw [if_pos hthere]
    exact ih hab'

/-- A path as one from the root. -/
def fromRoot (t : FileTree) (p : Path) : Path :=
  { anchor := .root, names := (t.startOf p).names ++ p.names }

theorem Rooted.startOf (h : Rooted t) (p : Path) :
    Reached t (t.startOf p) ∧ t.lookup? (t.startOf p) = some .directory := by
  unfold FileTree.startOf
  split
  · exact ⟨h.reached, h.directory⟩
  · exact ⟨reached_root t, lookup?_root t⟩

/-- **A path leads where it leads as one from the root.** -/
theorem Rooted.follow_fromRoot (h : Rooted t) (p : Path) :
    t.follow (t.startOf (t.fromRoot p)) (t.fromRoot p).names = t.follow (t.startOf p) p.names :=
  (h.startOf p).1.follow_append (a := []) rfl p.names

theorem Rooted.advance_fromRoot (h : Rooted t) (p : Path) :
    t.advance (t.startOf (t.fromRoot p)) (t.fromRoot p).names = t.advance (t.startOf p) p.names :=
  (h.startOf p).1.advance_append (by rw [(h.startOf p).2]; rfl) (a := []) rfl p.names

/-! ## Making directories -/

/-- Where the first name is missing, it is made, whatever becomes of the others. -/
theorem makeBelow_first {n : Text} (hk : t.child l n = .ok k) (hn : t.lookup? k = none)
    (p : Path) (names : List Text) :
    (t.makeBelow p l (n :: names)).1.lookup? k = some .directory := by
  have hroot : k ≠ .root := by
    rintro rfl
    simp [lookup?] at hn
  have hmade : (t.put k .directory).lookup? k = some .directory := by
    rw [lookup?_put, if_neg hroot, if_pos rfl]
  unfold makeBelow
  dsimp only
  rw [hk]
  dsimp only
  rw [hn]
  exact (makeBelow_grownBy (S := fun _ => True) fun _ _ => trivial).lookup_of_some hmade

/-- Nothing is made where the path cannot be given. -/
theorem makeDirectories_refused {p : Path} {e : FileFault}
    (h : checkPath p.toString = .error e) : t.makeDirectories p = (t, .error e) := by
  unfold makeDirectories
  rw [h]

/-- The first directory that is missing on the way of a path is made. -/
theorem makeDirectories_first {p : Path} {n : Text} {names : List Text}
    (hcheck : checkPath p.toString = .ok ())
    (hadvance : t.advance (t.startOf p) p.names = .ok (l, n :: names))
    (hk : t.child l n = .ok k) (hn : t.lookup? k = none) (hlevels : names.length < levelLimit) :
    (t.makeDirectories p).1.lookup? k = some .directory := by
  unfold makeDirectories
  rw [hcheck]
  dsimp only
  unfold makeMissing
  rw [hadvance]
  dsimp only
  rw [List.length_cons, if_neg (Nat.not_lt.mpr hlevels)]
  exact makeBelow_first hk hn _ names

end FileTree

end ModelBindings
