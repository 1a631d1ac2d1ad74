import Mathlib.Tactic.IntervalCases
import ModelBindings.Json.Writer
import ModelBindings.Proofs.Decimal.Notation
import ModelBindings.Proofs.Text.Segments

/-!
# Written JSON texts

* `IsWritten` : the four ways in which a character is written.
* `isPrintable_write` : the text of a value holds printable ASCII characters only, so that it stands
  on one line.
-/

set_option autoImplicit false

namespace ModelBindings.Json

/-! ## Characters -/

/-- The letters behind a backslash, with the characters that they stand for. -/
def namedEscapes : List (CodePoint × CodePoint) :=
  [('"', '"'), ('\\', '\\'), ('n', '\n'), ('r', '\r'), ('t', '\t'), ('f', '\x0c'), ('b', '\x08')]

/-- How a character is written: behind a backslash, as it is, or by one or two units. -/
inductive IsWritten : CodePoint → List CodePoint → Prop where
  | named {c e : CodePoint} (h : (e, c) ∈ namedEscapes) : IsWritten c [.char '\\', e]
  | plain {c : CodePoint} (hquote : c ≠ '"') (hback : c ≠ '\\') (hlow : ' ' ≤ c) (hhigh : c ≤ '~') :
    IsWritten c [c]
  | unit {c : CodePoint} (h : c.toNat < 0x10000) : IsWritten c (unitEscape c.toNat)
  | pair {n : Nat} (h : n < 0x100000) : IsWritten (CodePoint.ofNat (0x10000 + n))
      (unitEscape (0xd800 + n / 0x400) ++ unitEscape (0xdc00 + n % 0x400))

theorem isWritten_writtenChar (c : CodePoint) : IsWritten c (writtenChar c) := by
  by_cases hquote : c = '"'
  · subst hquote
    exact .named (by decide)
  by_cases hback : c = '\\'
  · subst hback
    exact .named (by decide)
  by_cases hfeed : c = '\n'
  · subst hfeed
    exact .named (by decide)
  by_cases hreturn : c = '\r'
  · subst hreturn
    exact .named (by decide)
  by_cases htab : c = '\t'
  · subst htab
    exact .named (by decide)
  by_cases hpage : c = '\x0c'
  · subst hpage
    exact .named (by decide)
  by_cases hdelete : c = '\x08'
  · subst hdelete
    exact .named (by decide)
  simp only [writtenChar, hquote, hback, hfeed, hreturn, htab, hpage, hdelete, if_false]
  split
  · rename_i h
    exact .plain hquote hback h.1 h.2
  · split
    · rename_i h
      exact .unit h
    · rename_i h
      have hvalid : c.toNat < 0x110000 := c.toNat_lt
      have hc : c = CodePoint.ofNat (0x10000 + (c.toNat - 0x10000)) := by
        rw [Nat.add_sub_cancel' (Nat.not_lt.mp h), CodePoint.ofNat_toNat]
      have hpair := IsWritten.pair (n := c.toNat - 0x10000) (by omega)
      rw [← hc] at hpair
      exact hpair

/-! ## Printable texts -/

/-- All characters are printable ones of ASCII. -/
def IsPrintable (cs : List CodePoint) : Prop :=
  ∀ c ∈ cs, .char ' ' ≤ c ∧ c ≤ .char '~'

instance (cs : List CodePoint) : Decidable (IsPrintable cs) :=
  List.decidableBAll (fun c : CodePoint => .char ' ' ≤ c ∧ c ≤ .char '~') cs

namespace IsPrintable

variable {a b : List CodePoint}

theorem append (ha : IsPrintable a) (hb : IsPrintable b) : IsPrintable (a ++ b) := by
  intro c hc
  rcases List.mem_append.mp hc with hc | hc
  · exact ha c hc
  · exact hb c hc

theorem cons {c : CodePoint} (hc : ' ' ≤ c ∧ c ≤ '~') (h : IsPrintable a) :
    IsPrintable (c :: a) := by
  intro e he
  rcases List.mem_cons.mp he with rfl | he
  · exact hc
  · exact h e he

/-- A printable text has no line end. -/
theorem newline_not_mem (h : IsPrintable a) : .char '\n' ∉ a := by
  intro hn
  exact absurd (h '\n' hn).1 (by decide)

end IsPrintable

theorem isPrintable_of_isDigit {cs : List CodePoint} (h : ∀ c ∈ cs, Text.isDigit c = true) :
    IsPrintable cs := by
  have hdigit : ∀ c, Text.isDigit c = true → ' ' ≤ c ∧ c ≤ '~' := Text.forall_isDigit (by decide)
  intro c hc
  exact hdigit c (h c hc)

theorem isPrintable_hexDigits (width n : Nat) : IsPrintable (Text.hexDigits width n) := by
  have hdigit : ∀ k < 16, ' ' ≤ Text.hexDigit k ∧ Text.hexDigit k ≤ '~' := by decide
  induction width generalizing n with
  | zero =>
    intro c hc
    cases hc
  | succ width ih =>
    refine (ih (n / 16)).append ?_
    intro c hc
    rw [List.mem_singleton.mp hc]
    exact hdigit (n % 16) (Nat.mod_lt n (by decide))

theorem isPrintable_unitEscape (n : Nat) : IsPrintable (unitEscape n) :=
  .cons (by decide) (.cons (by decide) (isPrintable_hexDigits 4 n))

theorem isPrintable_of_isWritten {c : CodePoint} {w : List CodePoint} (h : IsWritten c w) :
    IsPrintable w := by
  cases h with
  | named h =>
    have hletters : ∀ p ∈ namedEscapes, IsPrintable [.char '\\', p.1] := by
      simp only [namedEscapes, List.forall_mem_cons]
      decide
    exact hletters _ h
  | plain hquote hback hlow hhigh =>
    intro e he
    rw [List.mem_singleton.mp he]
    exact ⟨hlow, hhigh⟩
  | unit h => exact isPrintable_unitEscape _
  | pair h => exact (isPrintable_unitEscape _).append (isPrintable_unitEscape _)

theorem toList_writeText (s : Text) :
    (writeText s).toList = .char '"' :: (s.toList.flatMap writtenChar ++ [.char '"']) := by
  rw [writeText, Text.toList_ofList, List.cons_append]

theorem isPrintable_writeText (s : Text) : IsPrintable (writeText s).toList := by
  have hchars : IsPrintable (s.toList.flatMap writtenChar) := by
    intro c hc
    obtain ⟨e, -, hce⟩ := List.mem_flatMap.mp hc
    exact isPrintable_of_isWritten (isWritten_writtenChar e) c hce
  rw [toList_writeText]
  exact .cons (by decide) (hchars.append (by decide))

theorem isPrintable_integer (n : Int) : IsPrintable (Text.integer n) := by
  cases n with
  | ofNat n => exact isPrintable_of_isDigit (Text.isDigits_digits n).digit
  | negSucc n =>
    exact .cons (by decide) (isPrintable_of_isDigit (Text.isDigits_digits (n + 1)).digit)

theorem isPrintable_decimal {cs : List CodePoint} (h : IsDecimal cs) : IsPrintable cs := by
  have hsign : ∀ {s : CodePoint}, s = '-' ∨ s = '+' → ' ' ≤ s ∧ s ≤ '~' := by
    intro s hs
    rcases hs with rfl | rfl <;> decide
  have hfirst : ∀ d, Text.isDigit d = true → ' ' ≤ d ∧ d ≤ '~' := Text.forall_isDigit (by decide)
  cases h with
  | plain ha hb =>
    exact (isPrintable_of_isDigit ha.digit).append
      (.cons (by decide) (isPrintable_of_isDigit hb.digit))
  | exponent hd hs he =>
    exact .cons (hfirst _ hd) (.cons (by decide)
      (.cons (hsign hs) (isPrintable_of_isDigit he.digit)))
  | fraction hd hb hs he =>
    refine .cons (hfirst _ hd) (.cons (by decide) ?_)
    exact (isPrintable_of_isDigit hb.digit).append (.cons (by decide)
      (.cons (hsign hs) (isPrintable_of_isDigit he.digit)))

theorem isPrintable_double (x : Double) : IsPrintable (doubleFormat.text x) := by
  obtain ⟨sign, body, htext, hsign, hbody⟩ := DecimalFormat.text_shape doubleFormat x
  rw [htext]
  refine IsPrintable.append ?_ ?_
  · rcases hsign with rfl | rfl <;> decide
  · rcases hbody with rfl | rfl | hdecimal
    · decide
    · decide
    · exact isPrintable_decimal hdecimal

/-! ## Values -/

/-- Texts with commas between them stay printable. -/
theorem isPrintable_join {l : List Text} (h : ∀ s ∈ l, IsPrintable s.toList) :
    IsPrintable (Text.join ", " l).toList := by
  intro c hc
  by_cases hsep : c ∈ (", " : Text).toList
  · have hall : IsPrintable (", " : Text).toList := by decide
    exact hall c hsep
  · obtain ⟨s, hs, hcs⟩ := (Text.mem_toList_join hsep l).mp hc
    exact h s hs c hcs

mutual

/-- **The text of a value is printable.** -/
theorem isPrintable_write : ∀ v : Value, IsPrintable (write v).toList
  | .null => by decide
  | .bool b => by cases b <;> decide
  | .int n => by
    rw [write, writeScalar, Text.toList_ofList]
    · exact isPrintable_integer n
    all_goals
      intro _ h
      cases h
  | .double x => by
    rw [write, writeScalar, Text.toList_ofList]
    · exact isPrintable_double x
    all_goals
      intro _ h
      cases h
  | .text s => by
    rw [write, writeScalar]
    · exact isPrintable_writeText s
    all_goals
      intro _ h
      cases h
  | .list items => by
    rw [write, Text.toList_append, Text.toList_append]
    exact (IsPrintable.append (by decide)
      (isPrintable_join (isPrintable_writeItems items))).append (by decide)
  | .object ms => by
    rw [write, Text.toList_append, Text.toList_append]
    exact (IsPrintable.append (by decide)
      (isPrintable_join (isPrintable_writeMembers ms))).append (by decide)

theorem isPrintable_writeItems : ∀ l : List Value, ∀ s ∈ writeItems l, IsPrintable s.toList
  | [], s, h => by cases h
  | v :: r, s, h => by
    rw [writeItems] at h
    rcases List.mem_cons.mp h with rfl | h
    · exact isPrintable_write v
    · exact isPrintable_writeItems r s h

theorem isPrintable_writeMembers :
    ∀ l : List (Text × Value), ∀ s ∈ writeMembers l, IsPrintable s.toList
  | [], s, h => by cases h
  | (k, v) :: r, s, h => by
    rw [writeMembers] at h
    rcases List.mem_cons.mp h with rfl | h
    · rw [Text.toList_append, Text.toList_append]
      exact ((isPrintable_writeText k).append (by decide)).append (isPrintable_write v)
    · exact isPrintable_writeMembers r s h

end

end ModelBindings.Json
