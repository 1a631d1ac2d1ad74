import ModelBindings.Proofs.FileTree.Reach

/-!
# Two paths that lead alike

What is done with a path depends on where it leads and on whether its text can be given. Of two
paths that agree in this, each can stand for the other: only the texts of faults differ.

* `FileTree.Twins` : two paths that a tree cannot tell apart.
* `FileTree.SameEnd` : two runs that leave the same tree, with results both or faults both.
* `writeAtomically_sameEnd` : atomic writes to two such paths end alike.
* `Rooted.twins` : a path and the same path from the root are twins, if both or neither of them are
  too long.
-/

set_option autoImplicit false

namespace ModelBindings.FileTree

/-- Two runs end alike: the same tree, and results both or faults both. -/
structure SameEnd {ε α : Type} (x y : FileTree × Except ε α) : Prop where
  tree_eq : x.1 = y.1
  isOk_eq : x.2.isOk = y.2.isOk

/-- Two paths that a tree cannot tell apart. -/
structure Twins (t : FileTree) (p q : Path) : Prop where
  follow : t.follow (t.startOf p) p.names = t.follow (t.startOf q) q.names
  advance : t.advance (t.startOf p) p.names = t.advance (t.startOf q) q.names
  check : (checkPath p.toString).isOk = (checkPath q.toString).isOk

/-- Two paths that cannot be told apart as long as the directories stay. -/
def LastingTwins (t : FileTree) (p q : Path) : Prop :=
  ∀ t', KeepsDirectories t t' → Twins t' p q

variable {t t' : FileTree} {p q : Path}

/-- Two results that are results both or faults both. -/
theorem isOk_cases {ε α : Type} {x y : Except ε α} (h : x.isOk = y.isOk) :
    (∃ e f, x = .error e ∧ y = .error f) ∨ ∃ a b, x = .ok a ∧ y = .ok b := by
  cases x with
  | error e =>
    cases y with
    | error f => exact .inl ⟨e, f, rfl, rfl⟩
    | ok b => cases h
  | ok a =>
    cases y with
    | error f => cases h
    | ok b => exact .inr ⟨a, b, rfl, rfl⟩

theorem SameEnd.cases {ε α : Type} {x y : FileTree × Except ε α} (h : SameEnd x y) :
    (∃ t e f, x = (t, .error e) ∧ y = (t, .error f)) ∨
      ∃ t a b, x = (t, .ok a) ∧ y = (t, .ok b) := by
  obtain ⟨t, r⟩ := x
  obtain ⟨t', s⟩ := y
  obtain rfl : t = t' := h.tree_eq
  rcases isOk_cases h.isOk_eq with ⟨e, f, hr, hs⟩ | ⟨a, b, hr, hs⟩
  · exact .inl ⟨t, e, f, congrArg _ hr, congrArg _ hs⟩
  · exact .inr ⟨t, a, b, congrArg _ hr, congrArg _ hs⟩

theorem Twins.refl (t : FileTree) (p : Path) : Twins t p p :=
  ⟨rfl, rfl, rfl⟩

/-- Two paths to a file that cannot be told apart, nor the paths to its directory. -/
structure FileTwins (t : FileTree) (p q : Path) : Prop where
  parent : LastingTwins t p.parent q.parent
  self : LastingTwins t p q
  name_eq : p.name = q.name

theorem LastingTwins.refl (t : FileTree) (p : Path) : LastingTwins t p p :=
  fun t' _ => .refl t' p

theorem LastingTwins.of_keeps (h : LastingTwins t p q) (hk : KeepsDirectories t t') :
    LastingTwins t' p q :=
  fun _ hk' => h _ (hk.trans hk')

theorem FileTwins.refl (t : FileTree) (p : Path) : FileTwins t p p :=
  ⟨.refl t p.parent, .refl t p, rfl⟩

theorem FileTwins.of_keeps (h : FileTwins t p q) (hk : KeepsDirectories t t') :
    FileTwins t' p q :=
  ⟨h.parent.of_keeps hk, h.self.of_keeps hk, h.name_eq⟩

/-! ## Directories -/

theorem makeBelow_sameEnd (t : FileTree) (p q : Path) (l : Location) (names : List Text) :
    SameEnd (t.makeBelow p l names) (t.makeBelow q l names) := by
  induction names generalizing t p q l with
  | nil => exact ⟨rfl, rfl⟩
  | cons n r ih =>
    unfold makeBelow
    dsimp only
    cases t.child l n with
    | error e => exact ⟨rfl, rfl⟩
    | ok k =>
      dsimp only
      cases t.lookup? k with
      | none => exact ih _ _ _ _
      | some e =>
        cases e with
        | directory => exact ih _ _ _ _
        | file c => exact ⟨rfl, rfl⟩

theorem makeMissing_sameEnd (h : Twins t p q) : SameEnd (t.makeMissing p) (t.makeMissing q) := by
  unfold makeMissing
  rw [h.advance]
  split
  · exact ⟨rfl, rfl⟩
  · split <;> exact ⟨rfl, rfl⟩
  · split
    · exact ⟨rfl, rfl⟩
    · exact makeBelow_sameEnd _ _ _ _ _

theorem makeDirectories_sameEnd (h : Twins t p q) :
    SameEnd (t.makeDirectories p) (t.makeDirectories q) := by
  unfold makeDirectories
  rcases isOk_cases h.check with ⟨e, f, hp, hq⟩ | ⟨_, _, hp, hq⟩
  · rw [hp, hq]
    exact ⟨rfl, rfl⟩
  · rw [hp, hq]
    exact makeMissing_sameEnd h

/-! ## Files -/

/-- Twins lead to the same place, if they lead anywhere. -/
theorem resolve_twins (h : Twins t p q) : (t.resolve p).toOption = (t.resolve q).toOption := by
  unfold resolve resolveAs
  rw [h.follow]
  rcases isOk_cases h.check with ⟨e, f, hp, hq⟩ | ⟨_, _, hp, hq⟩
  · rw [hp, hq]
    rfl
  · rw [hp, hq]
    dsimp only
    split <;> rfl

/-- What two faultless results have in common. -/
theorem toOption_cases {ε α : Type} {x y : Except ε α} (h : x.toOption = y.toOption) :
    (∃ e f, x = .error e ∧ y = .error f) ∨ ∃ a, x = .ok a ∧ y = .ok a := by
  cases x with
  | error e =>
    cases y with
    | error f => exact .inl ⟨e, f, rfl, rfl⟩
    | ok b => cases h
  | ok a =>
    cases y with
    | error f => cases h
    | ok b =>
      cases h
      exact .inr ⟨a, rfl, rfl⟩

theorem replace_twins (h : Twins t p q) (hname : p.name = q.name) (source : Location)
    (c : Content) : (t.replace source c p).toOption = (t.replace source c q).toOption := by
  have hplace : isReplaceable p = isReplaceable q := by
    unfold isReplaceable
    rw [hname]
  unfold replace
  rw [hplace]
  split
  · rcases toOption_cases (resolve_twins h) with ⟨e, f, hp, hq⟩ | ⟨l, hp, hq⟩
    · rw [hp, hq]
      rfl
    · rw [hp, hq]
      dsimp only
      split <;> rfl
  · rfl

theorem checkText_of_name (hname : p.name = q.name) (text : Text) (validate : Bool) :
    checkText p text validate = checkText q text validate := by
  unfold checkText Path.suffix
  rw [hname]

theorem writeThrough_sameEnd {source : Location} {text : Text}
    (h : Twins (t.put source (.file (.text text))) p q) (hname : p.name = q.name)
    (validate : Bool) :
    SameEnd (t.writeThrough source p text validate) (t.writeThrough source q text validate) := by
  unfold writeThrough
  rw [checkText_of_name hname]
  dsimp only
  split
  · exact ⟨rfl, rfl⟩
  · rcases toOption_cases (replace_twins h hname source (.text text)) with
      ⟨e, f, hp, hq⟩ | ⟨t', hp, hq⟩
    · rw [hp, hq]
      exact ⟨rfl, rfl⟩
    · rw [hp, hq]
      exact ⟨rfl, rfl⟩

theorem writeBeside_sameEnd (h : LastingTwins t p q) (hname : p.name = q.name)
    (directory : Location) (text : Text) (validate : Bool) :
    SameEnd (t.writeBeside directory p text validate)
      (t.writeBeside directory q text validate) := by
  unfold writeBeside
  rw [hname]
  split
  · exact ⟨rfl, rfl⟩
  · rename_i name hfresh
    split
    · exact ⟨rfl, rfl⟩
    · have hkeeps := KeepsDirectories.put (lookup?_freshName hfresh) (.file (.text text))
      exact writeThrough_sameEnd (h _ hkeeps) hname validate

/-- **Atomic writes to two paths that cannot be told apart end alike.** -/
theorem writeAtomically_sameEnd (h : FileTwins t p q) (text : Text) (validate : Bool) :
    SameEnd (t.writeAtomically p text validate) (t.writeAtomically q text validate) := by
  have hkeeps := (makeDirectories_grownBy t p.parent).keeps
  unfold writeAtomically
  rcases (makeDirectories_sameEnd (h.parent t (.refl t))).cases with
    ⟨t₁, e, f, hp, hq⟩ | ⟨t₁, _, _, hp, hq⟩
  · rw [hp, hq]
    exact ⟨rfl, rfl⟩
  · rw [hp] at hkeeps
    rw [hp, hq]
    dsimp only
    rcases toOption_cases (resolve_twins (h.parent t₁ hkeeps)) with
      ⟨e, f, hp, hq⟩ | ⟨directory, hp, hq⟩
    · rw [hp, hq]
      exact ⟨rfl, rfl⟩
    · rw [hp, hq]
      exact writeBeside_sameEnd (h.self.of_keeps hkeeps) h.name_eq directory text validate

theorem writeAtomically_keeps (t : FileTree) (p : Path) (text : Text) (validate : Bool) :
    KeepsDirectories t (t.writeAtomically p text validate).1 :=
  (overwritten_writeAtomically t p text validate).keeps

theorem Ends.keeps {S : Location → Prop} {text : Text} {validate : Bool}
    {x : FileTree × Except Fault Unit} (h : Ends S t p text validate x) :
    KeepsDirectories t x.1 := by
  unfold Ends at h
  split at h
  · exact h.keeps
  · obtain ⟨-, g, hg, hput⟩ := h
    exact hg.keeps.trans (hput.overwritten (S := S)).keeps

/-- The directories that were made for a file stay, whether or not the file is written. -/
theorem writeAtomically_made (t : FileTree) (p : Path) (text : Text) (validate : Bool) :
    KeepsDirectories (t.makeDirectories p.parent).1 (t.writeAtomically p text validate).1 := by
  unfold writeAtomically
  generalize t.makeDirectories p.parent = made
  obtain ⟨t', _ | _⟩ := made
  · exact .refl t'
  · dsimp only
    split
    · exact .refl t'
    · exact (writeBeside_ends (S := fun _ => True) t' _).keeps

/-! ## Paths from the root -/

/-- Both or neither of two paths are too long. -/
def Alike (p q : Path) : Prop :=
  pathLimit < p.toString.byteSize ↔ pathLimit < q.toString.byteSize

instance (p q : Path) : Decidable (Alike p q) :=
  inferInstanceAs (Decidable (_ ↔ _))

/-- A text can be given to the file system if and only if a path can hold it. -/
theorem pathFault?_eq_none_iff {s : Text} : pathFault? s = none ↔ s.IsNameable := by
  unfold pathFault?
  split
  · rename_i e he
    refine iff_of_false (fun h => nomatch h) fun h => ?_
    rw [Text.nameFault?_eq_none_iff.mpr fun c hc => (h c hc).2] at he
    cases he
  · rename_i hname
    have hbytes := Text.nameFault?_eq_none_iff.mp hname
    constructor
    · intro hnull c hc
      refine ⟨?_, hbytes c hc⟩
      rintro rfl
      simp [hc] at hnull
    · intro h
      have hnull : .char '\x00' ∉ s.toList := fun hc => (h _ hc).1 rfl
      simp [hnull]

theorem checkPath_eq_ok {s : Text} :
    checkPath s = .ok () ↔ s.IsNameable ∧ s.byteSize ≤ pathLimit := by
  rw [← pathFault?_eq_none_iff]
  unfold checkPath
  cases pathFault? s with
  | some e => simp
  | none =>
    by_cases hlong : pathLimit < s.byteSize
    · simp [hlong]
    · simp [hlong, Nat.le_of_not_lt hlong]

theorem checkPath_isOk (s : Text) :
    (checkPath s).isOk = true ↔ s.IsNameable ∧ s.byteSize ≤ pathLimit := by
  rw [← checkPath_eq_ok]
  cases checkPath s with
  | error e => exact iff_of_false Bool.false_ne_true (fun h => nomatch h)
  | ok u => exact iff_of_true rfl rfl

/-- **A path and the same path from the root cannot be told apart**, if both or neither of them are
too long. -/
theorem Rooted.twins (h : Rooted t) (hlength : Alike p (t.fromRoot p)) :
    Twins t p (t.fromRoot p) := by
  refine ⟨(h.follow_fromRoot p).symm, (h.advance_fromRoot p).symm, ?_⟩
  have hnameable : p.toString.IsNameable ↔ (t.fromRoot p).toString.IsNameable := by
    rw [Path.isNameable_toString, Path.isNameable_toString]
    refine ⟨fun hp n hn => ?_, fun hp n hn => hp n (List.mem_append_right _ hn)⟩
    rcases List.mem_append.mp hn with hn | hn
    · exact ((h.startOf p).1.proper n hn).nameable
    · exact hp n hn
  unfold Alike at hlength
  rw [Bool.eq_iff_iff, checkPath_isOk, checkPath_isOk, hnameable, ← Nat.not_lt, ← Nat.not_lt,
    hlength]

theorem fromRoot_of_current (h : t'.current = t.current) (p : Path) :
    t'.fromRoot p = t.fromRoot p := by
  unfold fromRoot startOf
  rw [h]

theorem Rooted.lastingTwins (h : Rooted t) (hlength : Alike p (t.fromRoot p)) :
    LastingTwins t p (t.fromRoot p) := by
  intro t' hk
  have he := fromRoot_of_current hk.current_eq p
  rw [← he] at hlength ⊢
  exact (h.of_keeps hk).twins hlength

/-- A path to a file behind a directory, and behind the same directory from the root. -/
theorem Rooted.fileTwins (h : Rooted t) {f : Path} (hf : f.names ≠ [])
    (hlength : Alike (p.join f) ((t.fromRoot p).join f))
    (hparent : Alike (p.join f).parent ((t.fromRoot p).join f).parent) :
    FileTwins t (p.join f) ((t.fromRoot p).join f) := by
  by_cases hanchor : f.anchor = .current
  · have hjoin : (t.fromRoot p).join f = t.fromRoot (p.join f) := by
      unfold Path.join fromRoot
      rw [if_pos hanchor, if_pos hanchor]
      dsimp only
      rw [List.append_assoc]
      rfl
    have hnames : (p.join f).names ≠ [] := by
      unfold Path.join
      rw [if_pos hanchor]
      exact List.append_ne_nil_of_right_ne_nil _ hf
    have hup : (t.fromRoot (p.join f)).parent = t.fromRoot (p.join f).parent := by
      unfold Path.parent fromRoot
      dsimp only
      rw [List.dropLast_append_of_ne_nil hnames]
      rfl
    have hname : (p.join f).name = (t.fromRoot (p.join f)).name := by
      unfold Path.name fromRoot
      dsimp only
      rw [List.getLast?_append, List.getLast?_eq_some_getLast hnames]
      rfl
    rw [hjoin] at hlength hparent ⊢
    rw [hup] at hparent
    exact ⟨hup ▸ h.lastingTwins hparent, h.lastingTwins hlength, hname⟩
  · have hjoin : ∀ r : Path, r.join f = f := fun r => if_neg hanchor
    rw [hjoin, hjoin]
    exact .refl t f

end ModelBindings.FileTree
