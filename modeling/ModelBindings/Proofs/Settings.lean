import Mathlib.Data.List.Induction
import Mathlib.Data.List.TakeWhile
import ModelBindings.Proofs.Naming
import ModelBindings.Settings

/-!
# The settings that members give

The members of an object are read one after another, and each sets one setting at most. So what a
setting has in the end is what the last member with its name gives to it. The options of a generator
block and a configuration file differ in how a member finds its setting, and in what a text says to
a setting that is answered by yes or no.

* `saysYes_iff` : the texts that say yes.
* `get_foldl_setOption` : what the members of a generator block give to a setting.
* `read_eq_readOptions` : members that say the same in both forms.
* `read_toMembers` : the settings by name are read back as they are.
* `readOptions_eq` : the options of a generator block, and a configuration file beside them.
-/

set_option autoImplicit false

namespace ModelBindings

/-! ## Texts that say yes -/

namespace Text

variable {front word back cs : List CodePoint}

/-- A text is what is left of it between the blank characters at its ends. -/
theorem exists_strip (cs : List CodePoint) :
    ∃ front back, cs = front ++ strip cs ++ back ∧ ∀ c ∈ front ++ back, isBlank c = true := by
  let rest := cs.dropWhile isBlank
  refine ⟨cs.takeWhile isBlank, (rest.reverse.takeWhile isBlank).reverse, ?_, ?_⟩
  · have hrest : rest = strip cs ++ (rest.reverse.takeWhile isBlank).reverse := by
      rw [strip, ← List.reverse_append, List.takeWhile_append_dropWhile, List.reverse_reverse]
    rw [List.append_assoc, ← hrest, List.takeWhile_append_dropWhile]
  · rw [List.forall_mem_append]
    exact ⟨fun c hc => List.mem_takeWhile_imp hc,
      fun c hc => List.mem_takeWhile_imp (List.mem_reverse.mp hc)⟩

/-- The blank characters around a text that has none. -/
theorem strip_append (hblank : ∀ c ∈ front ++ back, isBlank c = true)
    (hword : ∀ c ∈ word, isBlank c = false) : strip (front ++ word ++ back) = word := by
  rw [List.forall_mem_append] at hblank
  obtain ⟨hfront, hback⟩ := hblank
  rw [strip, List.append_assoc, List.dropWhile_append_of_pos hfront]
  cases hw : word with
  | nil =>
    rw [List.nil_append, List.dropWhile_eq_nil_iff.mpr hback]
    rfl
  | cons c r =>
    rw [hw] at hword
    have hfirst : ¬ isBlank c = true := by simp [hword c List.mem_cons_self]
    rw [List.cons_append, List.dropWhile_cons_of_neg hfirst, ← List.cons_append,
      List.reverse_append,
      List.dropWhile_append_of_pos fun d hd => hback d (List.mem_reverse.mp hd)]
    have hkeep : (c :: r).reverse.dropWhile isBlank = (c :: r).reverse := by
      rw [List.dropWhile_eq_self_iff]
      intro hlength hlast
      have hmem := List.mem_reverse.mp (List.getElem_mem hlength)
      rw [hword _ hmem] at hlast
      cases hlast
    rw [hkeep, List.reverse_reverse]

/-- The characters of a text whose lowercase is of ASCII without a `k` are of ASCII. -/
theorem ascii_of_lowerFrom {b : Bool} (h : ∀ d ∈ lowerFrom b cs, d.toNat < 128 ∧ d ≠ 'k') :
    ∀ c ∈ cs, c.toNat < 128 := by
  induction cs generalizing b with
  | nil => exact List.forall_mem_nil _
  | cons c r ih =>
    simp only [lowerFrom, List.forall_mem_append] at h
    obtain ⟨hc, hr⟩ := h
    refine List.forall_mem_cons.mpr ⟨?_, ih hr⟩
    split at hc
    · -- both forms of a sigma are beyond ASCII
      have hsigma := (hc _ (List.mem_singleton.mpr rfl)).1
      split at hsigma <;> exact absurd hsigma (by decide)
    · split at hc
      · exact absurd (hc '\u0307' (by decide)).1 (by decide)
      · obtain ⟨hascii, hk⟩ := hc _ (List.mem_singleton.mpr rfl)
        exact (ascii_of_lowerChar hascii).resolve_right hk

end Text

/-- In ASCII, the lowercase of a character is the same in every language. -/
theorem toLower_eq_lowerChar {c : CodePoint} (h : c.toNat < 128) :
    c.toLower = Text.lowerChar c := by
  have hall : ∀ n < 128, (CodePoint.ofNat n).toLower = Text.lowerChar (CodePoint.ofNat n) := by
    decide +kernel
  have hc := hall c.toNat h
  rwa [CodePoint.ofNat_toNat] at hc

namespace Settings

/-- The text is the word `true` in any case, with blank characters around it. -/
def IsTrueWord (s : Text) : Prop :=
  ∃ front word back, s.toList = front ++ word ++ back ∧
    (∀ c ∈ front ++ back, Text.isBlank c = true) ∧
      word.map CodePoint.toLower = ("true" : Text).toList

/-- The characters of the word `true` in any case. -/
theorem ascii_of_toLower {c : CodePoint} (h : c.toLower ∈ ("true" : Text).toList) :
    c.toNat < 128 ∧ Text.isBlank c = false := by
  have hall : ∀ n < 128, (CodePoint.ofNat n).toLower ∈ ("true" : Text).toList →
      Text.isBlank (CodePoint.ofNat n) = false := by
    decide +kernel
  have hsmall : ∀ d ∈ ("true" : Text).toList, d.toNat < 128 := by decide
  have hc : c.toNat < 128 := by
    by_cases hupper : c.isUpper = true
    · have hle := (isUpper_iff.mp hupper).2
      omega
    · have hsame : c.toLower = c := by
        cases c with
        | char c =>
          refine congrArg CodePoint.char ?_
          unfold Char.toLower
          rw [dif_neg]
          exact fun hr => hupper (isUpper_iff.mpr hr)
        | surrogate n => rfl
      rw [hsame] at h
      exact hsmall c h
  refine ⟨hc, ?_⟩
  have hblank := hall c.toNat hc
  rw [CodePoint.ofNat_toNat] at hblank
  exact hblank h

/-- **The texts that say yes.** -/
theorem saysYes_iff (s : Text) : saysYes s = true ↔ IsTrueWord s := by
  rw [saysYes, beq_iff_eq]
  constructor
  · intro h
    obtain ⟨front, back, hs, hblank⟩ := Text.exists_strip s.toList
    have hascii : ∀ c ∈ Text.strip s.toList, c.toNat < 128 := by
      refine Text.ascii_of_lowerFrom (b := false) ?_
      rw [show Text.lowerFrom false _ = _ from h]
      simp
    refine ⟨front, _, back, hs, hblank, ?_⟩
    rw [← h, Text.lower, lowerFrom_of_ascii hascii]
    exact List.map_congr_left fun c hc => toLower_eq_lowerChar (hascii c hc)
  · rintro ⟨front, word, back, hs, hblank, hword⟩
    have hchars : ∀ c ∈ word, c.toNat < 128 ∧ Text.isBlank c = false :=
      fun c hc => ascii_of_toLower (hword ▸ List.mem_map_of_mem hc)
    rw [hs, Text.strip_append hblank fun c hc => (hchars c hc).2, Text.lower,
      lowerFrom_of_ascii fun c hc => (hchars c hc).1, ← hword]
    exact List.map_congr_left fun c hc => (toLower_eq_lowerChar (hchars c hc).1).symm

/-! ## Options of a generator block -/

theorem ofKey?_eq_some_iff {k : Text} {s : Setting} : Setting.ofKey? k = some s ↔ k = s.key := by
  have hkeys : ∀ s : Setting, Setting.ofKey? s.key = some s := by
    intro s
    cases s <;> decide
  refine ⟨fun h => ?_, fun h => h ▸ hkeys s⟩
  have hfound := List.find?_some h
  exact (beq_iff_eq.mp hfound).symm

theorem ofKey?_eq_none_iff {k : Text} : Setting.ofKey? k = none ↔ ∀ s : Setting, k ≠ s.key := by
  rw [Option.eq_none_iff_forall_ne_some]
  exact forall_congr' fun s => not_congr ofKey?_eq_some_iff

/-- One member gives a value to the setting that it names, and to no other. -/
theorem get_setOption (c : Settings) (m : Text × Value) (s : Setting) :
    (c.setOption m).get s = if snakeCase m.1 = s.key then optionValue s m.2 else c.get s := by
  unfold setOption
  split
  · rename_i named hnamed
    have hkey := ofKey?_eq_some_iff.mp hnamed
    rw [get_set]
    by_cases h : named = s
    · rw [if_pos h, if_pos (h ▸ hkey), h]
    · rw [if_neg h, if_neg fun hs => h (Option.some.inj (hnamed ▸ ofKey?_eq_some_iff.mpr hs))]
  · rename_i hnone
    rw [if_neg (ofKey?_eq_none_iff.mp hnone s)]

/-- The last member whose name in snake case is that of the setting. -/
def lastNamed? (ms : Members) (s : Setting) : Option (Text × Value) :=
  (ms.filter fun m => snakeCase m.1 = s.key).getLast?

/-- **What the last member with its name gives to a setting**, or what it had before. -/
theorem get_foldl_setOption (c : Settings) (ms : Members) (s : Setting) :
    (ms.foldl setOption c).get s
      = match lastNamed? ms s with
        | some m => optionValue s m.2
        | none => c.get s := by
  unfold lastNamed?
  induction ms using List.reverseRecOn with
  | nil => rfl
  | append_singleton r m ih =>
    rw [List.foldl_append, List.foldl_cons, List.foldl_nil, get_setOption, List.filter_append]
    by_cases h : snakeCase m.1 = s.key
    · rw [if_pos h, List.filter_cons_of_pos (by simpa using h), List.filter_nil,
        List.getLast?_concat]
    · rw [if_neg h, List.filter_cons_of_neg (by simpa using h), List.filter_nil, List.append_nil,
        ih]

/-- What an option gives to a setting: a text given for a yes-or-no setting says yes or no, and any
other value is kept as it is. -/
inductive Gives (s : Setting) : Value → Value → Prop where
  | yes {t : Text} (hs : s.isYesNo = true) (ht : IsTrueWord t) : Gives s (.text t) (.bool true)
  | no {t : Text} (hs : s.isYesNo = true) (ht : ¬ IsTrueWord t) : Gives s (.text t) (.bool false)
  | kept {v : Value} (hv : s.isYesNo = true → ∀ t, v ≠ .text t) : Gives s v v

theorem gives_optionValue (s : Setting) (v : Value) : Gives s v (optionValue s v) := by
  unfold optionValue
  split
  · rename_i t
    split
    · rename_i hs
      cases ht : saysYes t with
      | true => exact .yes hs ((saysYes_iff t).mp ht)
      | false =>
        refine .no hs fun hword => ?_
        rw [(saysYes_iff t).mpr hword] at ht
        cases ht
    · rename_i hs
      exact .kept fun hyes => absurd hyes hs
  · rename_i hv
    exact .kept fun _ t ht => hv t ht

theorem optionValue_of_not_text {s : Setting} {v : Value}
    (h : s.isYesNo = true → ∀ t, v ≠ .text t) : optionValue s v = v := by
  unfold optionValue
  split
  · rename_i t
    rw [if_neg fun hs => h hs t rfl]
  · rfl

/-! ## Members of a configuration file -/

/-- The names that belong to the settings as a whole. -/
def ownNames : List Text :=
  ["__dict__", "__class__", "__weakref__"]

theorem readMember_eq {c : Settings} {m : Text × Value} (h : m.1 ∉ ownNames) :
    c.readMember m = .ok (c.setKey m) := by
  simp only [ownNames, List.mem_cons, List.not_mem_nil, or_false, not_or] at h
  obtain ⟨hall, hclass, hweak⟩ := h
  rw [readMember, if_neg hall, if_neg hclass, if_neg hweak]

/-- The member is named in snake case and by none of the names of the settings as a whole, and it
gives no text to a yes-or-no setting. -/
structure IsPlainMember (m : Text × Value) : Prop where
  snake : snakeCase m.1 = m.1
  notOwn : m.1 ∉ ownNames
  notText : ∀ s : Setting, m.1 = s.key → s.isYesNo = true → ∀ t, m.2 ≠ .text t

/-- Such a member says the same in both forms. -/
theorem readMember_eq_setOption (c : Settings) {m : Text × Value} (h : IsPlainMember m) :
    c.readMember m = .ok (c.setOption m) := by
  rw [readMember_eq h.notOwn, setOption, h.snake, setKey]
  split
  · rename_i s hs
    rw [optionValue_of_not_text (h.notText s (ofKey?_eq_some_iff.mp hs))]
  · rfl

/-- **Members that say the same in both forms.** -/
theorem read_eq_readOptions {ms : Members} (h : ∀ m ∈ ms, IsPlainMember m) :
    read (.object ms) = readOptions (.object ms) := by
  have hfold : ∀ c : Settings, ms.foldlM readMember c = .ok (ms.foldl setOption c) := by
    induction ms with
    | nil => exact fun c => rfl
    | cons m r ih =>
      intro c
      rw [List.foldlM_cons, readMember_eq_setOption c (h m List.mem_cons_self), List.foldl_cons]
      exact ih (fun n hn => h n (List.mem_cons_of_mem m hn)) _
  exact hfold defaults

/-- **The settings by name are read back as they are.** -/
theorem read_toMembers (c : Settings) : read (.object c.toMembers) = .ok c := by
  have hstep : ∀ (d : Settings) (s : Setting),
      d.readMember (s.key, c.get s) = .ok (d.set s (c.get s)) := by
    intro d s
    have hown : s.key ∉ ownNames := by cases s <;> decide
    rw [readMember_eq hown, setKey, ofKey?_eq_some_iff.mpr rfl]
  have hfold : ∀ (ss : List Setting) (d : Settings),
      (ss.map fun s => (s.key, c.get s)).foldlM readMember d
        = .ok (ss.foldl (fun d s => d.set s (c.get s)) d) := by
    intro ss
    induction ss with
    | nil => exact fun d => rfl
    | cons s r ih =>
      intro d
      rw [List.map_cons, List.foldlM_cons, hstep, List.foldl_cons]
      exact ih _
  exact (hfold Setting.all defaults).trans rfl

/-! ## Both forms -/

/-- **The options of a generator block**: each setting has what the last member with its name in
snake case gives to it, and else its default. A configuration file that says the same by the
settings' own names gives the same settings, and one that says all of them gives them back. -/
theorem readOptions_eq (ms : Members) :
    (∃ c, readOptions (.object ms) = .ok c ∧ ∀ s : Setting,
      match lastNamed? ms s with
      | some m => Gives s m.2 (c.get s)
      | none => c.get s = defaults.get s) ∧
    ((∀ m ∈ ms, IsPlainMember m) → read (.object ms) = readOptions (.object ms)) ∧
    ∀ c : Settings, read (.object c.toMembers) = .ok c := by
  refine ⟨⟨_, rfl, fun s => ?_⟩, read_eq_readOptions, read_toMembers⟩
  rw [get_foldl_setOption]
  cases lastNamed? ms s with
  | none => rfl
  | some m => exact gives_optionValue s m.2

/-- A directory, a setting that is switched off, and a name that says nothing. -/
def plainMembers : Members :=
  [("output_dir", .text "models"), ("write_py_typed", .bool false), ("colour", .text "true")]

theorem read_plainMembers :
    (∀ m ∈ plainMembers, IsPlainMember m) ∧
      read (.object plainMembers) = readOptions (.object plainMembers) := by
  have hsnake : ∀ m ∈ plainMembers, snakeCase m.1 = m.1 := by decide +kernel
  have hown : ∀ m ∈ plainMembers, m.1 ∉ ownNames := by decide
  have htext : ∀ m ∈ plainMembers, ∀ s : Setting, m.1 = s.key → s.isYesNo = true →
      ∀ t, m.2 ≠ .text t := by
    simp only [plainMembers, List.forall_mem_cons]
    refine ⟨?_, fun _ _ _ _ => (nomatch ·), ?_, List.forall_mem_nil _⟩
    · intro s hs hyes
      cases s <;> simp_all [Setting.key, Setting.isYesNo]
    · intro s hs
      cases s <;> simp [Setting.key] at hs
  have hplain : ∀ m ∈ plainMembers, IsPlainMember m :=
    fun m hm => ⟨hsnake m hm, hown m hm, htext m hm⟩
  exact ⟨hplain, (readOptions_eq plainMembers).2.1 hplain⟩

/-- Of two spellings of one option the last one counts, and a third one is none. -/
example : (readOptions (.object [("writePyTyped", .text "no"), ("write_py_typed", .text " TRUE\n"),
    ("WRITE_PY_TYPED", .text "no")])).toOption.map (·.writeMarker.isTruthy) = some true := by
  decide +kernel

end Settings

end ModelBindings
