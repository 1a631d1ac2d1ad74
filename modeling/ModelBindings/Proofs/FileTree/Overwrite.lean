import ModelBindings.Proofs.FileTree.AtomicWrite

/-!
# Trees with some files overwritten

* `FileTree.Overwritten` : a tree after texts were put at some places, and after directories were
  made at further places where nothing stood; all else is as it was.
* `Overwritten.trans` : texts at other places come on top.
* `overwritten_writeAtomically` : an atomic write overwrites one file, or none.
-/

set_option autoImplicit false

namespace ModelBindings.FileTree

/-- Texts were put at places, and directories were made at further places where nothing stood. -/
structure Overwritten (S : Location → Prop) (ws : List (Location × Text)) (t t' : FileTree) :
    Prop where
  current_eq : t'.current = t.current
  /-- Each text is at its place, where no directory was. -/
  written : ∀ w ∈ ws, t'.lookup? w.1 = some (.file (.text w.2)) ∧ t.lookup? w.1 ≠ some .directory
  other : ∀ k, (∀ w ∈ ws, w.1 ≠ k) → t'.lookup? k = t.lookup? k ∨
    (t.lookup? k = none ∧ t'.lookup? k = some .directory ∧ S k)

variable {S : Location → Prop} {t t' t'' : FileTree} {ws vs : List (Location × Text)}

theorem GrownBy.overwritten (h : GrownBy S t t') : Overwritten S [] t t' :=
  ⟨h.current_eq, fun _ hw => (nomatch hw), fun k _ => h.lookup k⟩

namespace Overwritten

/-- Texts at other places come on top. -/
theorem trans (h : Overwritten S ws t t') (h' : Overwritten S vs t' t'')
    (hne : ∀ w ∈ ws, ∀ v ∈ vs, v.1 ≠ w.1) : Overwritten S (ws ++ vs) t t'' := by
  refine ⟨h'.current_eq.trans h.current_eq, fun w hw => ?_, fun k hk => ?_⟩
  · rcases List.mem_append.mp hw with hw | hw
    · obtain ⟨hfile, hold⟩ := h.written w hw
      refine ⟨?_, hold⟩
      rcases h'.other w.1 (hne w hw) with e | ⟨hn, -, -⟩
      · rw [e, hfile]
      · rw [hfile] at hn
        cases hn
    · obtain ⟨hfile, hmid⟩ := h'.written w hw
      refine ⟨hfile, fun hdir => ?_⟩
      rcases h.other w.1 (fun v hv e => hne v hv w hw e.symm) with e | ⟨hn, -, -⟩
      · exact hmid (e.trans hdir)
      · rw [hdir] at hn
        cases hn
  · have hws := h.other k fun w hw => hk w (List.mem_append_left _ hw)
    have hvs := h'.other k fun v hv => hk v (List.mem_append_right _ hv)
    rcases hws with e | ⟨hn, hd, hs⟩
    · rcases hvs with e' | ⟨hn', hd', hs'⟩
      · exact .inl (e'.trans e)
      · exact .inr ⟨e ▸ hn', hd', hs'⟩
    · rcases hvs with e' | ⟨hn', -, -⟩
      · exact .inr ⟨hn, e'.trans hd, hs⟩
      · rw [hd] at hn'
        cases hn'

end Overwritten

theorem HasPut.overwritten {p : Path} {text : Text} (h : HasPut t t' p (.text text)) :
    Overwritten S [(t.placeOf p, text)] t t' := by
  refine ⟨h.current_eq, fun w hw => ?_, fun k hk => .inl ?_⟩
  · obtain rfl := List.mem_singleton.mp hw
    exact ⟨by rw [h.lookup, if_pos rfl], h.notDirectory⟩
  · have hne : k ≠ t.placeOf p := (hk _ List.mem_cons_self).symm
    rw [h.lookup, if_neg hne]

/-- **An atomic write overwrites one file, or none.** -/
theorem overwritten_writeAtomically (t : FileTree) (p : Path) (text : Text) (validate : Bool) :
    Overwritten (t.IsOnWay p.parent)
      (match (t.writeAtomically p text validate).2 with
        | .error _ => []
        | .ok () => [(t.placeOf p, text)])
      t (t.writeAtomically p text validate).1 := by
  have h := writeAtomically_ends t p text validate
  unfold Ends at h
  cases he : (t.writeAtomically p text validate).2 with
  | error e =>
    rw [he] at h
    exact h.overwritten
  | ok _ =>
    rw [he] at h
    obtain ⟨-, g, hg, hput⟩ := h
    have hboth := hg.overwritten.trans (hput.overwritten (S := t.IsOnWay p.parent)) fun _ hw =>
      nomatch hw
    rwa [hg.placeOf_eq] at hboth

end ModelBindings.FileTree
