import ModelBindings.FileTree.AtomicWrite
import ModelBindings.Proofs.Association
import ModelBindings.Proofs.FileTree.Growth

/-!
# Atomic writes are all or nothing

* `replace_eq_ok_iff` : a temporary file takes the place of the target, and leaves nothing behind.
* `writeAtomically_ends` : a write that stops leaves the tree as it was but for further directories
  on the way to the target; one that comes to its end has put the text where the path leads, and
  has done nothing else.
* `writeAtomically_all_or_nothing` : the same, place by place.
* `stopped_write_changes_target` : a path may pass the place that it leads to (`a/../a`); a write
  that stops may then have made a directory there.
-/

set_option autoImplicit false

namespace ModelBindings.FileTree

/-- A name of a temporary file is one at whose place nothing stands. -/
theorem lookup?_freshName {t : FileTree} {d : Location} {name fresh : Text}
    (h : t.freshName? d name = some fresh) : t.lookup? (d.child fresh) = none := by
  unfold freshName? at h
  simpa using List.find?_some h

/-- What is put where nothing stands and is removed again leaves no trace. -/
theorem erase_put {t : FileTree} {l : Location} (hn : t.lookup? l = none) (e : Entry) :
    (t.put l e).erase l = t := by
  have hl : l ∉ Association.keys t.entries := by
    unfold lookup? at hn
    split at hn
    · cases hn
    · exact Association.get?_eq_none.mp hn
  unfold put erase
  dsimp only
  rw [Association.erase_put hl]

/-- A file in place of no directory makes no difference to the directories. -/
theorem lookup?_put_file_eq_directory {t : FileTree} {l : Location}
    (hl : t.lookup? l ≠ some .directory) (c : Content) (k : Location) :
    (t.put l (.file c)).lookup? k = some .directory ↔ t.lookup? k = some .directory := by
  rw [lookup?_put]
  split
  · rename_i hk
    rw [hk]
    exact iff_of_true rfl (if_pos rfl)
  · split
    · rename_i hk
      rw [hk]
      exact iff_of_false (fun h => nomatch h) hl
    · exact Iff.rfl

/-- Nor to where a path leads. -/
theorem resolve_put_file {t : FileTree} {l : Location} (hl : t.lookup? l ≠ some .directory)
    (c : Content) {p : Path} {k : Location} :
    (t.put l (.file c)).resolve p = .ok k ↔ t.resolve p = .ok k :=
  ⟨resolve_of_directories rfl fun j => (lookup?_put_file_eq_directory hl c j).mp,
    resolve_of_directories rfl fun j => (lookup?_put_file_eq_directory hl c j).mpr⟩

theorem checkText_ok {p : Path} {text : Text} {validate : Bool}
    (h : checkText p text validate = .ok ()) (hv : validate = true) (hp : p.suffix = ".py") :
    checkSource text = .ok () := by
  unfold checkText at h
  rw [hv, hp] at h
  cases hencoding : checkEncoding text with
  | error e =>
    rw [hencoding] at h
    cases h
  | ok u =>
    rw [hencoding] at h
    exact h

variable {S : Location → Prop} {t t' : FileTree} {p : Path} {c : Content} {text : Text}
  {validate : Bool}

/-- One file holds a content, and nothing else differs. -/
structure HasPut (t t' : FileTree) (p : Path) (c : Content) : Prop where
  current_eq : t'.current = t.current
  notDirectory : t.lookup? (t.placeOf p) ≠ some .directory
  lookup : ∀ k, t'.lookup? k = if k = t.placeOf p then some (.file c) else t.lookup? k
  resolve : t'.resolve p = .ok (t.placeOf p)

/-- A path leads to a place where a file can be put. -/
structure CanHold (t : FileTree) (p : Path) : Prop where
  replaceable : isReplaceable p = true
  resolve : t.resolve p = .ok (t.placeOf p)
  notDirectory : t.lookup? (t.placeOf p) ≠ some .directory

theorem CanHold.ne_root (h : CanHold t p) : t.placeOf p ≠ .root := by
  intro e
  refine h.notDirectory ?_
  rw [e]
  exact if_pos rfl

/-- A temporary file takes the place of the target, and leaves nothing behind. -/
theorem replace_eq_ok_iff {source : Location} (hn : t.lookup? source = none) :
    (t.put source (.file c)).replace source c p = .ok t' ↔
      CanHold t p ∧ t' = t.put (t.placeOf p) (.file c) := by
  have hsource : t.lookup? source ≠ some .directory := by
    rw [hn]
    exact fun h => nomatch h
  unfold replace
  rw [erase_put hn]
  constructor
  · intro h
    split at h
    · rename_i hreplaceable
      split at h
      · cases h
      · rename_i l hl
        have hl : t.resolve p = .ok l := (resolve_put_file hsource c).mp hl
        obtain rfl := placeOf_of_resolve hl
        split at h
        · cases h
        · rename_i hd
          cases h
          refine ⟨⟨hreplaceable, hl, fun hdir => hd ?_⟩, rfl⟩
          exact decide_eq_true ((lookup?_put_file_eq_directory hsource c _).mpr hdir)
    · cases h
  · rintro ⟨⟨hreplaceable, hresolve, hdir⟩, rfl⟩
    have hnot : ¬ (t.put source (.file c)).isDirectory (t.placeOf p) = true := fun hd =>
      hdir ((lookup?_put_file_eq_directory hsource c _).mp (of_decide_eq_true hd))
    rw [if_pos hreplaceable, (resolve_put_file hsource c).mpr hresolve]
    dsimp only
    rw [if_neg hnot]

theorem CanHold.hasPut (h : CanHold t p) (c : Content) :
    HasPut t (t.put (t.placeOf p) (.file c)) p c := by
  refine ⟨rfl, h.notDirectory, fun k => ?_, (resolve_put_file h.notDirectory c).mpr h.resolve⟩
  rw [lookup?_put]
  split
  · rename_i hk
    rw [hk, if_neg (Ne.symm h.ne_root)]
    exact (if_pos rfl).symm
  · rfl

/-- How a write to a path may end: it stopped, with nothing changed but for further directories; or
the text is where the path leads. -/
def Ends (S : Location → Prop) (t : FileTree) (p : Path) (text : Text) (validate : Bool)
    (x : FileTree × Except Fault Unit) : Prop :=
  match x.2 with
  | .error _ => GrownBy S t x.1
  | .ok () => checkText p text validate = .ok () ∧ ∃ g, GrownBy S t g ∧ HasPut g x.1 p (.text text)

/-- Directories that were made before a write count as made by it. -/
theorem Ends.after {x : FileTree × Except Fault Unit} (hg : GrownBy S t t')
    (h : Ends S t' p text validate x) : Ends S t p text validate x := by
  unfold Ends at h ⊢
  split at h
  · exact hg.trans h
  · obtain ⟨hc, g, hgrown, hput⟩ := h
    exact ⟨hc, g, hg.trans hgrown, hput⟩

/-- Through a temporary file at a place where nothing stands. -/
theorem writeThrough_ends {source : Location} (hn : t.lookup? source = none) :
    Ends S t p text validate (t.writeThrough source p text validate) := by
  unfold writeThrough
  dsimp only
  rw [erase_put hn]
  split
  · exact .refl S t
  · rename_i hc
    split
    · exact .refl S t
    · rename_i t' ht'
      obtain ⟨hhold, rfl⟩ := (replace_eq_ok_iff hn).mp ht'
      exact ⟨hc, t, .refl S t, hhold.hasPut _⟩

theorem writeBeside_ends (t : FileTree) (directory : Location) :
    Ends S t p text validate (t.writeBeside directory p text validate) := by
  unfold writeBeside
  split
  · exact .refl S t
  · rename_i name hname
    split
    · exact .refl S t
    · exact writeThrough_ends (lookup?_freshName hname)

/-- **A write stops with nothing but directories made, or puts the text in its place.** -/
theorem writeAtomically_ends (t : FileTree) (p : Path) (text : Text) (validate : Bool) :
    Ends (t.IsOnWay p.parent) t p text validate (t.writeAtomically p text validate) := by
  have hg := makeDirectories_grownBy t p.parent
  unfold writeAtomically
  split
  · rename_i t' e h
    rw [h] at hg
    exact hg
  · rename_i t' h
    rw [h] at hg
    split
    · exact hg
    · exact (writeBeside_ends t' _).after hg

/-! ## Place by place -/

/-- **Atomic writes are all or nothing.** -/
theorem writeAtomically_all_or_nothing (t : FileTree) (p : Path) (text : Text)
    (validate : Bool) :
    let target := t.placeOf p
    let t' := (t.writeAtomically p text validate).1
    let isNewOnWay (k : Location) : Prop :=
      t.lookup? k = none ∧ t'.lookup? k = some .directory ∧ t.IsOnWay p.parent k
    (match (t.writeAtomically p text validate).2 with
      | .ok () => t'.resolve p = .ok target ∧ t'.lookup? target = some (.file (.text text)) ∧
          (validate = true → p.suffix = ".py" → checkSource text = .ok ())
      | .error _ => t'.lookup? target = t.lookup? target ∨ isNewOnWay target) ∧
    ∀ k, k ≠ target → t'.lookup? k = t.lookup? k ∨ isNewOnWay k := by
  intro target t' isNewOnWay
  have h := writeAtomically_ends t p text validate
  unfold Ends at h
  cases hr : (t.writeAtomically p text validate).2 with
  | error f =>
    rw [hr] at h
    exact ⟨h.lookup target, fun k _ => h.lookup k⟩
  | ok u =>
    rw [hr] at h
    obtain ⟨hc, g, hg, hput⟩ := h
    have hplace : g.placeOf p = target := hg.placeOf_eq p
    have hlook : ∀ k, t'.lookup? k = if k = target then some (.file (.text text)) else
        g.lookup? k := by
      rw [← hplace]
      exact hput.lookup
    refine ⟨⟨hplace ▸ hput.resolve, ?_, checkText_ok hc⟩, fun k hk => ?_⟩
    · rw [hlook, if_pos rfl]
    · have hk' : t'.lookup? k = g.lookup? k := by rw [hlook, if_neg hk]
      rcases hg.lookup k with e | ⟨hn, hd, hs⟩
      · exact .inl (hk'.trans e)
      · exact .inr ⟨hn, hk'.trans hd, hs⟩

/-- A path may pass the place that it leads to, and a write that stops may have made a directory
there. -/
theorem stopped_write_changes_target :
    ¬ ∀ (t : FileTree) (p : Path) (text : Text) (validate : Bool),
      (t.writeAtomically p text validate).2.isOk = false →
        (t.writeAtomically p text validate).1.lookup? (t.placeOf p) = t.lookup? (t.placeOf p) := by
  intro h
  have := h (.empty "work") (.ofString "a/../a") "x" false (by decide +kernel)
  revert this
  decide +kernel

end ModelBindings.FileTree
