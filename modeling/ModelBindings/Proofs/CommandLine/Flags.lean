import ModelBindings.CommandLine
import ModelBindings.Proofs.Association
import ModelBindings.Proofs.Outcome

/-!
# Flags on the command line

An argument stands on its own unless it is the value of the option in front of it or comes behind
two dashes. Whether the command is enabled hangs on two flags among the arguments that stand on
their own, and where there is none of them on the surroundings.

* `CommandLine.standing` : the arguments that stand on their own.
* `CommandLine.enable_readMore` : what the arguments say about enabling.
* `CommandLine.enabled_invocation` : a run that nothing enables is not enabled.
-/

set_option autoImplicit false

namespace ModelBindings.CommandLine

variable {a a' : Arguments} {s : Text} {args : List Text}

/-! ## Arguments that stand on their own -/

/-- The argument behind this one is its value: it is a long option that takes one, or letters of
which the last is the only one that takes one. -/
def takesNext (s : Text) : Bool :=
  s == "--config" || s == "--enums-module" ||
    match s.toList with
    | .char '-' :: letters => letters.dropWhile (· == .char 'v') == [.char 'c']
    | _ => false

/-- The arguments that are no values of options, up to two dashes on their own. -/
def standing : List Text → List Text
  | [] => []
  | s :: r =>
    if s = "--" then []
    else if takesNext s then
      match r with
      | [] => [s]
      | _ :: r => s :: standing r
    else s :: standing r

example : standing ["-vc", "--disable", "--disable", "--", "--disable"] = ["-vc", "--disable"] := by
  decide

/-! ## What one argument says -/

/-- What was given so far. -/
def Reading.arguments : Reading → Arguments
  | .complete a => a
  | .awaiting _ _ a => a

/-- The next argument is a value. -/
def Reading.isAwaiting : Reading → Bool
  | .complete _ => false
  | .awaiting _ _ _ => true

@[simp] theorem enable_note (a : Arguments) (p : Parameter) : (a.note p).enable = a.enable := by
  unfold Arguments.note
  split <;> rfl

@[simp] theorem enable_setValue (a : Arguments) (o : ValueOption) (v : Text) :
    (a.setValue o v).enable = a.enable := by
  cases o <;> simp [Arguments.setValue]

@[simp] theorem enable_addPositional (a : Arguments) (l : List Text) :
    (a.addPositional l).enable = a.enable := rfl

/-- Letters say nothing about enabling. -/
theorem readLetters_eq_ok {cs : List CodePoint} {r : Reading} (h : readLetters a cs = .ok r) :
    r.arguments.enable = a.enable ∧
      r.isAwaiting = (cs.dropWhile (· == .char 'v') == [.char 'c']) := by
  induction cs generalizing a with
  | nil =>
    cases h
    exact ⟨rfl, rfl⟩
  | cons c cs ih =>
    rw [readLetters] at h
    unfold shortOption? at h
    by_cases hc : c = 'c'
    · rw [if_pos hc] at h
      dsimp only at h
      subst hc
      cases cs with
      | nil =>
        cases h
        exact ⟨rfl, rfl⟩
      | cons d cs =>
        cases h
        exact ⟨enable_setValue a .config _, by simp [Reading.isAwaiting]⟩
    · rw [if_neg hc] at h
      by_cases hv : c = 'v'
      · rw [if_pos hv] at h
        subst hv
        obtain ⟨henable, hawaiting⟩ := ih h
        refine ⟨?_, hawaiting⟩
        rw [henable]
        exact enable_note _ _
      · rw [if_neg hv] at h
        cases h

/-- Without an equals sign the whole text is the name of an option; with one, a name is cut off. -/
theorem splitAtEquals_cases (cs : List CodePoint) :
    splitAtEquals cs = (cs, none) ∨
      ∃ name value, splitAtEquals cs = (name, some value) ∧ cs = name ++ .char '=' :: value := by
  unfold splitAtEquals
  cases hdrop : cs.dropWhile (· != .char '=') with
  | nil => exact .inl rfl
  | cons c value =>
    refine .inr ⟨_, value, rfl, ?_⟩
    have hc : c = '=' := by
      have hhead := List.head?_dropWhile_not (· != .char '=') cs
      simpa [hdrop] using hhead
    rw [hc] at hdrop
    rw [← hdrop, List.takeWhile_append_dropWhile]

/-- What an option is: a long one that awaits its value, one that stands for itself, one that has
its value behind an equals sign, or letters. -/
theorem readOption_eq_ok {r : Reading} (h : readOption a s = .ok r) :
    (∃ o, (s, .value o) ∈ longOptions ∧ r = .awaiting s o a) ∨
    (∃ o, (s, .flag o) ∈ longOptions ∧ r = .complete (a.setFlag o)) ∨
    (∃ o v name value, name ∈ Association.keys longOptions ∧
      s.toList = name.toList ++ .char '=' :: value ∧ r = .complete (a.setValue o v)) ∨
    ((∀ rest, s.toList ≠ .char '-' :: .char '-' :: rest) ∧
      readLetters a (s.toList.drop 1) = .ok r) := by
  unfold readOption at h
  rcases splitAtEquals_cases s.toList with hsplit | ⟨name, value, hsplit, hs⟩
  · rw [hsplit] at h
    dsimp only at h
    rw [Text.ofList_toList] at h
    split at h
    · rename_i o hget
      have hmem := Association.mem_of_get?_eq_some hget
      cases o with
      | value o =>
        cases h
        exact .inl ⟨o, hmem, rfl⟩
      | flag o =>
        cases h
        exact .inr (.inl ⟨o, hmem, rfl⟩)
    · split at h
      · cases h
      · rename_i hdashes
        exact .inr (.inr (.inr ⟨hdashes, h⟩))
  · rw [hsplit] at h
    dsimp only at h
    split at h
    · rename_i o hget
      have hmem := List.mem_map_of_mem (f := Prod.fst) (Association.mem_of_get?_eq_some hget)
      cases o with
      | value o =>
        cases h
        exact .inr (.inr (.inl ⟨o, _, _, value, hmem, by rw [Text.toList_ofList, hs], rfl⟩))
      | flag o => cases h
    · split at h
      · cases h
      · rename_i hdashes
        exact .inr (.inr (.inr ⟨hdashes, h⟩))

/-- A name with an equals sign behind it is not the name of an option. -/
theorem takesNext_of_equals {name : Text} {value : List CodePoint}
    (hname : name ∈ Association.keys longOptions)
    (hs : s.toList = name.toList ++ .char '=' :: value) :
    takesNext s = false ∧ s ≠ "--disable" := by
  have hkeys : ∀ k ∈ Association.keys longOptions,
      .char '=' ∉ k.toList ∧ ∃ rest, k.toList = .char '-' :: .char '-' :: rest := by
    simp only [longOptions, Association.keys, List.map_cons, List.map_nil, List.mem_cons,
      List.not_mem_nil, or_false]
    rintro k (rfl | rfl | rfl | rfl | rfl | rfl) <;> exact ⟨by decide, _, rfl⟩
  have hother : ∀ k ∈ Association.keys longOptions, s ≠ k := by
    rintro k hk rfl
    exact (hkeys s hk).1 (by simp [hs])
  obtain ⟨-, rest, hrest⟩ := hkeys name hname
  have hconfig := hother "--config" (by decide)
  have hmodule := hother "--enums-module" (by decide)
  refine ⟨?_, hother "--disable" (by decide)⟩
  rw [takesNext, hs, hrest]
  simp [hconfig, hmodule]

/-- Letters take the next argument where they end with the one that takes a value. -/
theorem takesNext_of_letters {letters : List CodePoint} (hs : s.toList = .char '-' :: letters)
    (hdashes : ∀ rest, s.toList ≠ .char '-' :: .char '-' :: rest) :
    takesNext s = (letters.dropWhile (· == .char 'v') == [.char 'c']) ∧ s ≠ "--disable" := by
  have hother : ∀ k : Text, (∃ rest, k.toList = .char '-' :: .char '-' :: rest) → s ≠ k := by
    rintro k ⟨rest, hk⟩ rfl
    exact hdashes rest hk
  have hconfig := hother "--config" ⟨_, rfl⟩
  have hmodule := hother "--enums-module" ⟨_, rfl⟩
  refine ⟨?_, hother "--disable" ⟨_, rfl⟩⟩
  rw [takesNext, hs]
  simp [hconfig, hmodule]

/-- What is no option takes no value. -/
theorem takesNext_of_not_isOption (h : isOption s ≠ true) :
    takesNext s = false ∧ s ≠ "--disable" := by
  have hother : ∀ k : Text, isOption k = true → s ≠ k := by
    rintro k hk rfl
    exact h hk
  have hconfig := hother "--config" rfl
  have hmodule := hother "--enums-module" rfl
  refine ⟨?_, hother "--disable" rfl⟩
  have hletters : ∀ letters, s.toList = .char '-' :: letters → letters = [] := by
    intro letters hs
    cases letters with
    | nil => rfl
    | cons c r => exact absurd (by simp [isOption, hs]) h
  unfold takesNext
  split
  · rename_i letters hs
    simp [hconfig, hmodule, hletters letters hs]
  · simp [hconfig, hmodule]

/-- What an argument says about enabling, and whether the next one is its value. -/
theorem readOne_eq_ok {r : Reading} (h : readOne a s = .ok r) (hs : s ≠ "--enable") :
    r.isAwaiting = takesNext s ∧
      r.arguments.enable = if s = "--disable" then some false else a.enable := by
  unfold readOne at h
  by_cases hoption : isOption s = true
  · rw [if_pos hoption] at h
    rcases readOption_eq_ok h with ⟨o, hmem, rfl⟩ | ⟨o, hmem, rfl⟩ |
      ⟨o, v, name, value, hname, hsplit, rfl⟩ | ⟨hdashes, hletters⟩
    · simp only [longOptions, List.mem_cons, Prod.mk.injEq, List.not_mem_nil, or_false,
        reduceCtorEq, and_false] at hmem
      rcases hmem with ⟨rfl, -⟩ | ⟨rfl, -⟩ <;> exact ⟨rfl, rfl⟩
    · simp only [longOptions, List.mem_cons, Prod.mk.injEq, List.not_mem_nil, or_false,
        reduceCtorEq, and_false, false_or, CommandOption.flag.injEq] at hmem
      rcases hmem with ⟨rfl, -⟩ | ⟨rfl, rfl⟩ | ⟨rfl, rfl⟩ | ⟨rfl, rfl⟩
      · exact absurd rfl hs
      · exact ⟨rfl, enable_note _ _⟩
      · exact ⟨rfl, enable_note _ _⟩
      · exact ⟨rfl, rfl⟩
    · obtain ⟨htakes, hdisable⟩ := takesNext_of_equals hname hsplit
      rw [htakes, if_neg hdisable]
      exact ⟨rfl, enable_setValue _ _ _⟩
    · unfold isOption at hoption
      split at hoption
      · rename_i c rest hs
        obtain ⟨htakes, hdisable⟩ := takesNext_of_letters hs hdashes
        obtain ⟨henable, hawaiting⟩ := readLetters_eq_ok hletters
        rw [hs, List.drop_one, List.tail_cons] at hawaiting
        rw [htakes, if_neg hdisable]
        exact ⟨hawaiting, henable⟩
      · cases hoption
  · rw [if_neg hoption] at h
    cases h
    obtain ⟨htakes, hdisable⟩ := takesNext_of_not_isOption hoption
    rw [htakes, if_neg hdisable]
    exact ⟨rfl, rfl⟩

/-! ## What all arguments say -/

theorem standing_dashes (r : List Text) : standing (("--" : Text) :: r) = [] := by
  unfold standing
  exact if_pos rfl

theorem standing_cons {r : List Text} (hdashes : s ≠ "--") (hs : takesNext s = false) :
    standing (s :: r) = s :: standing r := by
  conv_lhs => unfold standing
  rw [if_neg hdashes, if_neg (by simp [hs])]

theorem standing_cons_value {v : Text} {r : List Text} (hdashes : s ≠ "--")
    (hs : takesNext s = true) : standing (s :: v :: r) = s :: standing r := by
  conv_lhs => unfold standing
  rw [if_neg hdashes, if_pos hs]

/-- An argument that stands on its own, and those behind it. -/
theorem enable_step {b c : Option Bool} {r : List Text}
    (hb : b = if s = "--disable" then some false else c) :
    (if ("--disable" : Text) ∈ standing r then some false else b) =
      if ("--disable" : Text) ∈ s :: standing r then some false else c := by
  rw [hb]
  by_cases hs : s = "--disable" <;> by_cases hr : ("--disable" : Text) ∈ standing r <;>
    simp [hs, hr, eq_comm]

/-- Without the flag that enables, the arguments say nothing about enabling, unless the flag that
disables stands among them on its own. -/
theorem enable_readMore (h : a.readMore args = .ok a') (hargs : ("--enable" : Text) ∉ args) :
    a'.enable = if ("--disable" : Text) ∈ standing args then some false else a.enable := by
  fun_induction Arguments.readMore a args with
  | case1 a =>
    cases h
    simp [standing]
  | case2 a r =>
    cases h
    simp [standing_dashes]
  | case3 => cases h
  | case4 a s r hdashes a₁ hone ih =>
    have hs : s ≠ "--enable" := by
      rintro rfl
      exact hargs List.mem_cons_self
    obtain ⟨htakes, henable⟩ := readOne_eq_ok hone hs
    have hr : ("--enable" : Text) ∉ r := fun hmem => hargs (List.mem_cons_of_mem s hmem)
    rw [ih h hr, standing_cons hdashes htakes.symm]
    exact enable_step henable
  | case5 => cases h
  | case6 a s hdashes name o a₁ hone v r ih =>
    have hs : s ≠ "--enable" := by
      rintro rfl
      exact hargs List.mem_cons_self
    obtain ⟨htakes, henable⟩ := readOne_eq_ok hone hs
    have hr : ("--enable" : Text) ∉ r := by
      intro hmem
      exact hargs (List.mem_cons_of_mem s (List.mem_cons_of_mem v hmem))
    rw [ih h hr, standing_cons_value hdashes htakes.symm, enable_setValue]
    exact enable_step henable

/-! ## What a run is told -/

/-- Neither a flag nor the surroundings enable the command. -/
def Disabled (setting : Option Text) (a : Arguments) : Prop :=
  a.enable = some false ∨ (a.enable = none ∧ setting = none)

theorem disabled_of_args {setting : Option Text} (h : Arguments.read args = .ok a)
    (hargs : ("--enable" : Text) ∉ args)
    (hdisable : ("--disable" : Text) ∈ standing args ∨ setting = none) :
    Disabled setting a := by
  have henable := enable_readMore h hargs
  by_cases hmem : ("--disable" : Text) ∈ standing args
  · rw [if_pos hmem] at henable
    exact .inl henable
  · rw [if_neg hmem] at henable
    exact .inr ⟨henable, hdisable.resolve_left hmem⟩

/-- No parameter enables the command. -/
theorem enabled_read {setting : Option Text} {t : FileTree} {p : Parameter} {i j : Invocation}
    (ha : Disabled setting a) (h : p.read setting t a i = .ok j) (hi : i.enabled = false) :
    j.enabled = false := by
  cases p with
  | config =>
    simp only [Parameter.read] at h
    split at h
    · cases h
      exact hi
    · obtain ⟨path, -, rfl⟩ := map_eq_ok.mp h
      exact hi
  | enumsModule =>
    cases h
    exact hi
  | enabled =>
    rcases ha with ha | ⟨ha, rfl⟩ <;> simp only [Parameter.read, ha] at h <;> cases h <;> rfl
  | verbose =>
    cases h
    exact hi
  | path =>
    simp only [Parameter.read] at h
    split at h
    · cases h
    · obtain ⟨path, -, rfl⟩ := map_eq_ok.mp h
      exact hi
  | output =>
    simp only [Parameter.read] at h
    split at h
    · obtain ⟨path, -, rfl⟩ := map_eq_ok.mp h
      exact hi
    · cases h

/-- Nothing that a run is told enables the command. -/
theorem enabled_invocation {setting : Option Text} {t : FileTree} {i : Invocation}
    (ha : Disabled setting a) (h : a.invocation setting t = .ok i) : i.enabled = false := by
  have hfold : ∀ (ps : List Parameter) (i j : Invocation), i.enabled = false →
      ps.foldlM (fun i p => p.read setting t a i) i = .ok j → j.enabled = false := by
    intro ps
    induction ps with
    | nil =>
      intro i j hi h
      cases h
      exact hi
    | cons p ps ih =>
      intro i j hi h
      rw [List.foldlM_cons] at h
      cases hp : p.read setting t a i with
      | error e =>
        rw [hp] at h
        cases h
      | ok k =>
        rw [hp] at h
        exact ih k j (enabled_read ha hp hi) h
  unfold Arguments.invocation at h
  split at h
  · cases h
  · rename_i j hj
    split at h
    · cases h
      exact hfold _ _ _ rfl hj
    · cases h

end ModelBindings.CommandLine
