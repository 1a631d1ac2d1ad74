import ModelBindings.Proofs.FileTree.AtomicWrite

/-!
# Trees whose files were replaced

A run may only put texts where they belong. What belongs where is a parameter; the relation is kept
from step to step, so it holds over runs of any length.

* `FileTree.UpdatedBy` : each file is as it was or holds a text that belongs there, and no file is
  gone.
* `updatedBy_writeAtomically` : an atomic write puts its text where its path leads.
-/

set_option autoImplicit false

namespace ModelBindings.FileTree

/-- Each file is as it was or holds a text that belongs where it stands, and no file is gone. -/
structure UpdatedBy (B : Location → Text → Prop) (t t' : FileTree) : Prop where
  current_eq : t'.current = t.current
  kept : ∀ k c, t.lookup? k = some (.file c) → ∃ c', t'.lookup? k = some (.file c')
  files : ∀ k c, t'.lookup? k = some (.file c) →
    t.lookup? k = some (.file c) ∨ ∃ s, c = .text s ∧ B k s

namespace UpdatedBy

variable {B B' : Location → Text → Prop} {t t' t'' : FileTree}

theorem refl (B : Location → Text → Prop) (t : FileTree) : UpdatedBy B t t :=
  ⟨rfl, fun _ c h => ⟨c, h⟩, fun _ _ h => .inl h⟩

theorem trans (h : UpdatedBy B t t') (h' : UpdatedBy B t' t'') : UpdatedBy B t t'' := by
  refine ⟨h'.current_eq.trans h.current_eq, fun k c hk => ?_, fun k c hk => ?_⟩
  · obtain ⟨c', hk'⟩ := h.kept k c hk
    exact h'.kept k c' hk'
  · rcases h'.files k c hk with hk' | hb
    · exact h.files k c hk'
    · exact .inr hb

theorem mono (hB : ∀ k s, B k s → B' k s) (h : UpdatedBy B t t') : UpdatedBy B' t t' := by
  refine ⟨h.current_eq, h.kept, fun k c hk => ?_⟩
  rcases h.files k c hk with hk' | ⟨s, hc, hb⟩
  · exact .inl hk'
  · exact .inr ⟨s, hc, hB k s hb⟩

end UpdatedBy

/-- Directories are no files. -/
theorem GrownBy.updatedBy {S : Location → Prop} {t t' : FileTree} (h : GrownBy S t t')
    (B : Location → Text → Prop) : UpdatedBy B t t' :=
  ⟨h.current_eq, fun _ c hk => ⟨c, h.lookup_of_some hk⟩,
    fun k c hk => .inl ((h.lookup_file_iff k c).mp hk)⟩

theorem HasPut.updatedBy {t t' : FileTree} {p : Path} {s : Text}
    (h : HasPut t t' p (.text s)) : UpdatedBy (fun k x => k = t.placeOf p ∧ x = s) t t' := by
  refine ⟨h.current_eq, fun k c hk => ?_, fun k c hk => ?_⟩
  · rw [h.lookup]
    split
    · exact ⟨_, rfl⟩
    · exact ⟨c, hk⟩
  · rw [h.lookup] at hk
    split at hk
    · rename_i e
      cases hk
      exact .inr ⟨s, rfl, e, rfl⟩
    · exact .inl hk

/-- **An atomic write puts its text where its path leads, or nothing anywhere.** -/
theorem updatedBy_writeAtomically (t : FileTree) (p : Path) (text : Text) (validate : Bool) :
    UpdatedBy (fun k s => k = t.placeOf p ∧ s = text) t
      (t.writeAtomically p text validate).1 := by
  have h := writeAtomically_ends t p text validate
  unfold Ends at h
  split at h
  · exact h.updatedBy _
  · obtain ⟨_, g, hg, hput⟩ := h
    have hu := hput.updatedBy
    rw [hg.placeOf_eq] at hu
    exact (hg.updatedBy _).trans hu

theorem placeOf_of_current {t t' : FileTree} (h : t'.current = t.current) (p : Path) :
    t'.placeOf p = t.placeOf p := by
  unfold placeOf startOf
  rw [h]

end ModelBindings.FileTree
