import ModelBindings.Proofs.Source.Token.Docstring

/-!
# What literals stand for

A literal closes at the first quotes in it that are not escaped. What stands in front of them gives
the text that the literal stands for when its escapes are undone.

* `closeAt` : where a literal closes.
* `decode` : the text that the content of a literal stands for.
* `closeAt_of_isContent`, `append_quotes_inj` : a content is read up to the quotes behind it, so
  that they tell it from what follows.
* `decode_escapeChars`, `decode_escapeTriple` : escaping is undone.
* `escape_reads_back` : a text between double quotes.
* `decode_guardEnd`, `closeAt_guardEnd_of_threes` : the last quote of a line, and where escaping it
  goes wrong.
-/

set_option autoImplicit false

namespace ModelBindings.Source

open Scan (IsContent readText foldlM_cons_eq_some)

/-- The text in front of the first closing quotes that are not escaped, and the text behind them. -/
def closeAt (quotes : List CodePoint) : List CodePoint → Option (List CodePoint × List CodePoint)
  | [] => none
  | .char '\\' :: c :: r => (closeAt quotes r).map fun p => (.char '\\' :: c :: p.1, p.2)
  | c :: r =>
    if quotes.isPrefixOf (c :: r) then some ([], (c :: r).drop quotes.length)
    else (closeAt quotes r).map fun p => (c :: p.1, p.2)

/-- The character that an escape stands for. -/
def escaped? : CodePoint → Option CodePoint
  | .char '\\' => some (.char '\\')
  | .char '"' => some (.char '"')
  | .char 'n' => some (.char '\n')
  | .char 'r' => some (.char '\r')
  | _ => none

/-- The text that the content of a literal stands for. -/
def decode : List CodePoint → Option (List CodePoint)
  | [] => some []
  | .char '\\' :: c :: r => (escaped? c).bind fun d => (decode r).map (d :: ·)
  | c :: r => if c = '\\' then none else (decode r).map (c :: ·)

/-- The quotes around a literal. -/
def quotesOf (triple : Bool) : List CodePoint :=
  if triple then tripleQuote else [.char '"']

/-! ## Decoding -/

theorem decode_escape (c : CodePoint) (r : List CodePoint) :
    decode (.char '\\' :: c :: r) = (escaped? c).bind fun d => (decode r).map (d :: ·) := rfl

theorem decode_cons {c : CodePoint} (h : c ≠ '\\') (r : List CodePoint) :
    decode (c :: r) = (decode r).map (c :: ·) := by
  rw [decode.eq_3 _ _ fun d s hc _ => h hc, if_neg h]

/-- What is decoded in front of a text stays in front of what the text stands for. -/
theorem decode_append {a x : List CodePoint} (h : decode a = some x) (b : List CodePoint) :
    decode (a ++ b) = (decode b).map (x ++ ·) := by
  fun_induction decode a generalizing x with
  | case1 =>
    cases h
    simp
  | case2 c r ih =>
    obtain ⟨d, hd, h⟩ := Option.bind_eq_some_iff.mp h
    obtain ⟨y, hy, rfl⟩ := Option.map_eq_some_iff.mp h
    rw [List.cons_append, List.cons_append, decode_escape, ih hy, hd, Option.bind_some,
      Option.map_map]
    rfl
  | case3 => cases h
  | case4 c r _ hc ih =>
    obtain ⟨y, hy, rfl⟩ := Option.map_eq_some_iff.mp h
    rw [List.cons_append, decode_cons hc, ih hy, Option.map_map]
    rfl

theorem decode_append_of_some {a b x y : List CodePoint} (ha : decode a = some x)
    (hb : decode b = some y) : decode (a ++ b) = some (x ++ y) := by
  rw [decode_append ha, hb]
  rfl

theorem decode_flatMap {α : Type} {f g : α → List CodePoint} {as : List α}
    (h : ∀ a ∈ as, decode (f a) = some (g a)) : decode (as.flatMap f) = some (as.flatMap g) := by
  induction as with
  | nil => rfl
  | cons a as ih =>
    exact decode_append_of_some (h a List.mem_cons_self)
      (ih fun b hb => h b (List.mem_cons_of_mem a hb))

/-- A text without backslashes stands for itself. -/
theorem decode_of_plain {cs : List CodePoint} (h : .char '\\' ∉ cs) : decode cs = some cs := by
  induction cs with
  | nil => rfl
  | cons c r ih =>
    simp only [List.mem_cons, not_or] at h
    rw [decode_cons (Ne.symm h.1), ih h.2]
    rfl

/-! ## Reading -/

section Reading

variable {triple : Bool} {n m : Nat} {c : CodePoint} {cs r : List CodePoint} {w : Scan.Within}

theorem read_escape (h : (.char '\\' :: c :: r).foldlM (readText triple) (.quotes n) = some w) :
    c ∈ (['\\', '"', 'n', 'r'] : List CodePoint) ∧
      r.foldlM (readText triple) (.quotes 0) = some w := by
  obtain ⟨v, hv, h⟩ := foldlM_cons_eq_some h
  obtain rfl : .escape = v := by simpa [readText] using hv
  obtain ⟨u, hu, h⟩ := foldlM_cons_eq_some h
  have hc : c ∈ (['\\', '"', 'n', 'r'] : List CodePoint) := by
    by_contra hc
    simp [readText, hc] at hu
  obtain rfl : .quotes 0 = u := by simpa [readText, hc] using hu
  exact ⟨hc, h⟩

/-- A backslash at the end of a text leaves it within an escape. -/
theorem not_read_backslash (hpair : ∀ d s, r = d :: s → False)
    (h : (.char '\\' :: r).foldlM (readText triple) (.quotes n) = some (.quotes m)) : False := by
  cases r with
  | nil => simp [readText] at h
  | cons d s => exact hpair d s rfl

theorem read_cons (hc : c ≠ '\\')
    (h : (c :: r).foldlM (readText triple) (.quotes n) = some w) :
    ∃ k, r.foldlM (readText triple) (.quotes k) = some w ∧
      (c = '"' ∧ k = n + 1 ∧ k < (quotesOf triple).length ∨ c ≠ '"' ∧ k = 0) := by
  obtain ⟨v, hv, h⟩ := foldlM_cons_eq_some h
  by_cases hq : c = '"'
  · subst hq
    cases triple with
    | false => simp [readText] at hv
    | true =>
      by_cases hn : n < 2
      · obtain rfl : .quotes (n + 1) = v := by simpa [readText, hn] using hv
        exact ⟨n + 1, h, .inl ⟨rfl, rfl, Nat.succ_lt_succ hn⟩⟩
      · simp [readText, hn] at hv
  · obtain ⟨-, rfl⟩ : _ ∧ .quotes 0 = v := by simpa [readText, hq, hc] using hv
    exact ⟨0, h, .inr ⟨hq, rfl⟩⟩

/-- What is read outside of escapes can be decoded. -/
theorem exists_decode (h : cs.foldlM (readText triple) (.quotes n) = some (.quotes m)) :
    ∃ x, decode cs = some x := by
  fun_induction decode cs generalizing n with
  | case1 => exact ⟨[], rfl⟩
  | case2 c r ih =>
    obtain ⟨hc, h⟩ := read_escape h
    obtain ⟨x, hx⟩ := ih h
    simp only [List.mem_cons, List.not_mem_nil, or_false] at hc
    rcases hc with rfl | rfl | rfl | rfl <;> exact ⟨_, by rw [hx]; rfl⟩
  | case3 r hpair => exact (not_read_backslash (fun d s => hpair d s rfl) h).elim
  | case4 c r hpair hc ih =>
    obtain ⟨k, h, -⟩ := read_cons hc h
    obtain ⟨x, hx⟩ := ih h
    exact ⟨c :: x, by rw [hx]; rfl⟩

end Reading

/-! ## Escaping is undone -/

theorem decode_escapeChar (c : CodePoint) : decode (escapeChar c) = some [c] := by
  unfold escapeChar
  split
  · next h => rw [h]; rfl
  · rename_i hb
    split
    · next h => rw [h]; rfl
    · split
      · next h => rw [h]; rfl
      · split
        · next h => rw [h]; rfl
        · exact decode_of_plain (by simpa using Ne.symm hb)

/-- **What is escaped between quotes is decoded to itself.** -/
theorem decode_escapeChars (cs : List CodePoint) : decode (escapeChars cs) = some cs := by
  have h : decode (cs.flatMap escapeChar) = some (cs.flatMap fun c => [c]) :=
    decode_flatMap fun c _ => decode_escapeChar c
  rwa [List.flatMap_singleton'] at h

/-- Texts that are the same when escaped are the same. -/
theorem escape_inj {s t : Text} (h : escape s = escape t) : s = t := by
  have hchars : escapeChars s.toList = escapeChars t.toList := Text.ofList_injective h
  have hdecoded := decode_escapeChars s.toList
  rw [hchars, decode_escapeChars] at hdecoded
  exact Text.toList_injective (Option.some.inj hdecoded).symm

/-- **What is escaped between three quotes is decoded to itself.** -/
theorem decode_escapeTriple (cs : List CodePoint) : decode (escapeTriple cs) = some cs := by
  fun_induction escapeTriple cs with
  | case1 => rfl
  | case2 r ih =>
    simp only [decode_escape, ih]
    rfl
  | case3 r hthree ih =>
    rw [decode_escape, ih]
    rfl
  | case4 c r hthree hc ih =>
    rw [decode_cons hc, ih]
    rfl

/-! ## Where a literal closes -/

theorem closeAt_escape (quotes : List CodePoint) (c : CodePoint) (r : List CodePoint) :
    closeAt quotes (.char '\\' :: c :: r)
      = (closeAt quotes r).map fun p => (.char '\\' :: c :: p.1, p.2) := rfl

theorem closeAt_quotesOf (triple : Bool) (r : List CodePoint) :
    closeAt (quotesOf triple) (quotesOf triple ++ r) = some ([], r) := by
  cases triple <;> rfl

/-- Quotes in front of another character are not enough to close a literal. -/
theorem closeAt_replicate {triple : Bool} {n : Nat} (hn : n < (quotesOf triple).length)
    {c : CodePoint}
    (hc : c ≠ '"') (r : List CodePoint) :
    closeAt (quotesOf triple) (List.replicate n (.char '"') ++ c :: r)
      = (closeAt (quotesOf triple) (c :: r)).map fun p =>
        (List.replicate n (.char '"') ++ p.1, p.2) := by
  have hq : .char '"' ≠ c := Ne.symm hc
  match triple, n, hn with
  | _, 0, _ => simp
  | true, 1, _ => simp [closeAt, quotesOf, tripleQuote, hq]
  | true, 2, _ => simp [closeAt, quotesOf, tripleQuote, hq, Function.comp_def]

theorem closeAt_cons {triple : Bool} {c : CodePoint} (hq : c ≠ '"') (hb : c ≠ '\\')
    (r : List CodePoint) :
    closeAt (quotesOf triple) (c :: r)
      = (closeAt (quotesOf triple) r).map fun p => (c :: p.1, p.2) := by
  have hpre : (quotesOf triple).isPrefixOf (c :: r) = false := by
    have hq' : (.char '"' == c) = false := beq_false_of_ne (Ne.symm hq)
    cases triple <;> simp only [quotesOf, tripleQuote, Bool.false_eq_true, if_true, if_false,
      List.isPrefixOf, hq', Bool.false_and]
  rw [closeAt.eq_3 _ _ _ fun d s hc _ => hb hc, hpre]
  rfl

/-- A content is read up to the quotes behind it, also where quotes stand in front of it. -/
theorem closeAt_of_read {triple : Bool} {n : Nat} {cs : List CodePoint}
    (hn : n < (quotesOf triple).length)
    (h : cs.foldlM (readText triple) (.quotes n) = some (.quotes 0)) (r : List CodePoint) :
    closeAt (quotesOf triple) (List.replicate n (.char '"') ++ (cs ++ (quotesOf triple ++ r)))
      = some (List.replicate n (.char '"') ++ cs, r) := by
  have hzero : 0 < (quotesOf triple).length := by cases triple <;> decide
  fun_induction decode cs generalizing n with
  | case1 =>
    obtain rfl : n = 0 := by simpa using h
    exact closeAt_quotesOf triple r
  | case2 c s ih =>
    have hs := ih hzero (read_escape h).2
    simp only [List.replicate_zero, List.nil_append] at hs
    rw [List.cons_append, List.cons_append, closeAt_replicate hn (by decide), closeAt_escape, hs]
    rfl
  | case3 s hpair => exact (not_read_backslash (fun d s => hpair d s rfl) h).elim
  | case4 c s hpair hb ih =>
    obtain ⟨k, h, ⟨rfl, rfl, hk⟩ | ⟨hq, rfl⟩⟩ := read_cons hb h
    · have hs := ih hk h
      rwa [List.replicate_succ', List.append_assoc, List.append_assoc] at hs
    · have hs := ih hzero h
      simp only [List.replicate_zero, List.nil_append] at hs
      rw [List.cons_append, closeAt_replicate hn hq, closeAt_cons hq hb, hs]
      rfl

/-- **A literal closes at the quotes behind its content.** -/
theorem closeAt_of_isContent {triple : Bool} {cs : List CodePoint} (h : IsContent triple cs)
    (r : List CodePoint) :
      closeAt (quotesOf triple) (cs ++ (quotesOf triple ++ r)) = some (cs, r) :=
  closeAt_of_read (n := 0) (by cases triple <;> decide) h r

/-- The quotes behind a content tell it from what follows. -/
theorem append_quotes_inj {triple : Bool} {a b r s : List CodePoint} (ha : IsContent triple a)
    (hb : IsContent triple b)
    (h : a ++ (quotesOf triple ++ r) = b ++ (quotesOf triple ++ s)) : a = b ∧ r = s := by
  have hclose := closeAt_of_isContent ha r
  rw [h, closeAt_of_isContent hb s] at hclose
  simpa using hclose.symm

/-! ## Texts between double quotes -/

/-- The line ends of a text are escaped. -/
theorem lineEnd_not_mem_escapeChars (cs : List CodePoint) :
    (CodePoint.char '\n') ∉ escapeChars cs ∧ (CodePoint.char '\r') ∉ escapeChars cs := by
  have hplain : ∀ c, c = .char '\n' ∨ c = .char '\r' → c ∉ escapeChars cs := by
    intro c hc hmem
    obtain ⟨d, -, hd⟩ := List.mem_flatMap.mp hmem
    rcases Scan.mem_escapeChar hd with hmark | ⟨rfl, hfeed, hreturn⟩
    · rcases hc with rfl | rfl <;> exact absurd hmark (by decide)
    · exact hc.elim hfeed hreturn
  exact ⟨hplain _ (.inl rfl), hplain _ (.inr rfl)⟩

/-- Texts are escaped one after another. -/
theorem escape_append (s t : Text) : escape (s ++ t) = escape s ++ escape t := by
  unfold escape
  rw [Text.toList_append, ← Text.ofList_append, escapeChars, List.flatMap_append]
  rfl

/-- **A text between double quotes reads back as itself**: it stays on its line, the first quote
that is not escaped is the closing one, and the escapes stand for the text. -/
theorem escape_reads_back :
    (∀ s, let content := (escape s).toList
      (.char '\n' ∉ content ∧ .char '\r' ∉ content) ∧
        closeAt [.char '"'] (content ++ [.char '"']) = some (content, []) ∧
        decode content = some s.toList) ∧
      Function.Injective escape ∧ ∀ s t, escape (s ++ t) = escape s ++ escape t := by
  refine ⟨fun s => ?_, fun s t h => escape_inj h, escape_append⟩
  have hcontent : (escape s).toList = escapeChars s.toList := rfl
  dsimp only
  rw [hcontent]
  have hclose := closeAt_of_isContent (Scan.isContent_escapeChars s.toList) []
  exact ⟨lineEnd_not_mem_escapeChars s.toList, hclose, decode_escapeChars s.toList⟩

/-! ## The last quote of a line -/

/-- A line keeps apart from the quotes behind it and stands for itself, unless the quotes at its end
come in threes. -/
theorem decode_guardEnd {line : List CodePoint}
    (h : trailingQuotes line % 3 = 0 → trailingQuotes line = 0) :
    decode (guardEnd (escapeTriple line)) = some line := by
  by_cases hzero : trailingQuotes line = 0
  · rw [Scan.guardEnd_of_no_quote hzero, decode_escapeTriple]
  · obtain ⟨y, v, hy, hguard, hread, hv⟩ := Scan.exists_last_quote hzero
    cases v with
    | escape =>
      have hthrees : trailingQuotes line % 3 = 0 := by simpa [readText, eq_comm] using hv
      exact absurd (h hthrees) hzero
    | quotes n =>
      obtain ⟨x, hx⟩ := exists_decode hread
      have hline := decode_escapeTriple line
      rw [hy, decode_append_of_some hx (y := [.char '"']) rfl] at hline
      rw [hguard, decode_append_of_some hx (y := [.char '"']) rfl, hline]

/-- Where the quotes at the end of a line come in threes, the literal closes one quote early. -/
theorem closeAt_guardEnd_of_threes {line : List CodePoint} (hzero : trailingQuotes line ≠ 0)
    (hthrees : trailingQuotes line % 3 = 0) :
    ∃ y, guardEnd (escapeTriple line) = y ++ [.char '"'] ∧
      closeAt tripleQuote (guardEnd (escapeTriple line) ++ tripleQuote)
        = some (y, [.char '"']) := by
  obtain ⟨y, v, -, hguard, hread, hv⟩ := Scan.exists_last_quote hzero
  cases v with
  | quotes n =>
    rw [hthrees] at hv
    by_cases hn : n < 2 <;> simp [readText, hn] at hv
  | escape =>
    -- the backslash that is to escape the last quote is escaped itself
    have hcontent : IsContent true (y ++ [.char '\\']) := by
      unfold IsContent
      rw [List.foldlM_append, hread]
      rfl
    refine ⟨y ++ [.char '\\'], by simp [hguard], ?_⟩
    have hclose := closeAt_of_isContent hcontent [.char '"']
    rw [List.append_assoc] at hclose
    rw [hguard, List.append_assoc]
    exact hclose

end ModelBindings.Source
