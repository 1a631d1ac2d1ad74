import Mathlib.Data.List.Forall2
import ModelBindings.Proofs.Datamodel.Reading
import ModelBindings.Proofs.Source.ModuleOutline
import ModelBindings.Proofs.Source.Names
import ModelBindings.Proofs.Source.Stop

/-!
# Reading enums back

The module of the enums tells which enums it was made from: their names, and the names of their
values. A documentation may look like members, classes or quotes; its docstring is still left at
the right line, since no line of it holds three quotes and nothing else.

* `readEnums` : the names of the enums and of their values, from the text.
* `behindDocstring_docBlock` : a docstring is left where it ends.
* `readEnums_enumsFile` : reading gives the names that were written.
* `eq_newline_of_isLineBoundary` : nothing but a line feed ends a line.
* `enumsFile_names` : the text fixes the names, and its outline shows the classes.
-/

set_option autoImplicit false

namespace ModelBindings.Source

open Text (IsLine IsUncut cut lines segments isLineBoundary)

/-! ## Reading -/

/-- The lines that open a statement, each with the lines up to the next one. -/
def statements : List Text → List (Text × List Text)
  | [] => []
  | l :: r =>
    if opensStatement l then (l, r.takeWhile fun k => !opensStatement k) :: statements r
    else statements r

/-- The line that opens a docstring of several lines, and the line that closes it. -/
def quotesLine : Text :=
  bodyIndent ++ "\"\"\""

/-- The line opens a docstring. -/
def opensDocstring (line : Text) : Bool :=
  quotesLine.toList.isPrefixOf line.toList

/-- The lines of a class body behind its docstring. A docstring ends in the line that opens it,
unless that line holds nothing else; then it ends in the next line of this kind. -/
def behindDocstring : List Text → List Text
  | [] => []
  | l :: r =>
    if l = quotesLine then (r.dropWhile (· != quotesLine)).tail
    else if opensDocstring l then r
    else l :: r

/-- What stands between the first two quotes of a line. -/
def quoted? (line : Text) : Option Text :=
  match segments '"' line.toList with
  | _ :: value :: _ => some (Text.ofList value)
  | _ => none

/-- The name in a line that opens a class. -/
def className (line : Text) : Text :=
  Text.ofList ((line.toList.drop 6).takeWhile (· != .char '('))

/-- The name of a class and the values of its members. -/
def readClass (s : Text × List Text) : Text × List Text :=
  (className s.1, (behindDocstring s.2).filterMap quoted?)

/-- The names of the enums of a module and of their values. -/
def readEnums (text : Text) : List (Text × List Text) :=
  (statements (cut text)).tail.map readClass

/-- The line that opens the class of an enum. -/
def classLine (e : Enum) : Text :=
  "class " ++ e.name ++ "(str, Enum):"

/-- The lines behind the line that opens the class of an enum. -/
def classBody (e : Enum) : List Text :=
  docBlock [] (shownText e.documentation) ++ bodyBlock (e.values.map memberText)

theorem enumLines_eq (e : Enum) : enumLines e = classLine e :: classBody e := rfl

/-! ## Statements -/

theorem opensStatement_classLine (e : Enum) : opensStatement (classLine e) = true := by
  unfold opensStatement classLine
  simp only [Text.toList_append]
  rfl

theorem opensStatement_ofList {c : CodePoint} {cs : List CodePoint} (h : c ≠ ' ') :
    opensStatement (Text.ofList (c :: cs)) = true := by
  rw [opensStatement, Text.toList_ofList]
  exact bne_iff_ne.mpr h

theorem statements_append {b : List Text} (hb : ∀ l ∈ b, IsInner l) (r : List Text) :
    statements (b ++ r) = statements r := by
  induction b with
  | nil => rfl
  | cons l b ih =>
    have hl := (hb l List.mem_cons_self).opens
    rw [List.cons_append, statements, if_neg (by simp [hl])]
    exact ih fun k hk => hb k (List.mem_cons_of_mem l hk)

theorem takeWhile_inner {b : List Text} (hb : ∀ l ∈ b, IsInner l) (r : List Text) :
    (b ++ r).takeWhile (fun k => !opensStatement k)
      = b ++ r.takeWhile fun k => !opensStatement k := by
  apply List.takeWhile_append_of_pos
  intro l hl
  rw [(hb l hl).opens]
  rfl

/-- A statement takes the inner lines behind it. -/
theorem statements_cons {l : Text} (hl : opensStatement l = true) {b : List Text}
    (hb : ∀ k ∈ b, IsInner k) (r : List Text) :
    statements (l :: (b ++ r))
      = (l, b ++ r.takeWhile fun k => !opensStatement k) :: statements r := by
  rw [statements, if_pos hl, takeWhile_inner hb, statements_append hb]

/-- The outline of a text are its statements. -/
theorem filter_opensStatement (ls : List Text) :
    ls.filter opensStatement = (statements ls).map (·.1) := by
  induction ls with
  | nil => rfl
  | cons l r ih =>
    rw [List.filter_cons, statements, ih]
    split
    · rfl
    · rfl

/-! ## Names -/

theorem not_mem_of_isName {s : Text} (h : IsName s) {c : CodePoint} (hc : Scan.inWord c = false) :
    c ∉ s.toList := by
  intro hmem
  rw [inWord_of_isIdentifier h c hmem] at hc
  cases hc

theorem className_classLine {e : Enum} (h : IsName e.name) : className (classLine e) = e.name := by
  have hopen : ("(str, Enum):" : Text).toList = .char '(' :: ("str, Enum):" : Text).toList := rfl
  have hdrop : (classLine e).toList.drop 6
      = e.name.toList ++ .char '(' :: ("str, Enum):" : Text).toList := by
    simp only [classLine, Text.toList_append, hopen]
    rfl
  have hname : ∀ c ∈ e.name.toList, (c != '(') = true := by
    intro c hc
    rw [bne_iff_ne]
    rintro rfl
    exact not_mem_of_isName h (by decide) hc
  rw [className, hdrop, List.takeWhile_append_of_pos hname, List.takeWhile_cons_of_neg (by simp),
    List.append_nil, Text.ofList_toList]

theorem isName_memberName {s : Text} (h : IsName s) : IsName (memberName s) := by
  unfold memberName
  split
  · exact isName_append_underscore h
  · exact h

theorem toList_memberText (v : EnumValue) :
    (memberText v).toList
      = (bodyIndent.toList ++ (memberName v.name).toList ++ (" = " : Text).toList)
      ++ .char '"' :: (v.name.toList ++ .char '"' :: []) := by
  have hopen : (" = \"" : Text).toList = (" = " : Text).toList ++ [.char '"'] := rfl
  have hclose : ("\"" : Text).toList = [.char '"'] := rfl
  simp only [memberText, Text.toList_append, hopen, hclose, List.append_assoc, List.cons_append,
    List.nil_append]

/-- A member is read as its value. -/
theorem quoted?_memberText {v : EnumValue} (h : IsName v.name) :
    quoted? (memberText v) = some v.name := by
  have hquote : Scan.inWord '"' = false := by decide
  have hfront :
      .char '"' ∉ bodyIndent.toList ++ (memberName v.name).toList ++ (" = " : Text).toList := by
    rw [toList_bodyIndent]
    simp [not_mem_of_isName (isName_memberName h) hquote]
  unfold quoted?
  rw [toList_memberText, Text.segments_append_cons hfront,
    Text.segments_append_cons (not_mem_of_isName h hquote)]

theorem quoted?_of_not_mem {line : Text} (h : .char '"' ∉ line.toList) : quoted? line = none := by
  rw [quoted?, Text.segments_of_not_mem h]

theorem toList_pass :
    (bodyIndent ++ "pass").toList = bodyIndent.toList ++ ("pass" : Text).toList :=
  rfl

theorem filterMap_quoted?_bodyBlock {vs : List EnumValue} (h : ∀ v ∈ vs, IsName v.name) :
    (bodyBlock (vs.map memberText)).filterMap quoted? = vs.map (·.name) := by
  unfold bodyBlock
  split
  · rename_i hempty
    rw [List.isEmpty_iff, List.map_eq_nil_iff] at hempty
    have hpass : quoted? (bodyIndent ++ "pass") = none := by
      apply quoted?_of_not_mem
      rw [toList_pass, toList_bodyIndent]
      decide
    rw [hempty, List.filterMap_cons_none hpass]
    rfl
  · rw [List.filterMap_map, ← List.filterMap_eq_map]
    apply List.filterMap_congr
    intro v hv
    exact quoted?_memberText (h v hv)

/-! ## Docstrings -/

/-- A quote at the front of an escaped text is one that was left as it is. -/
theorem of_escapeTriple_eq_quote {cs t : List CodePoint} (h : escapeTriple cs = .char '"' :: t) :
    ∃ r, cs = .char '"' :: r ∧ escapeTriple r = t ∧ ∀ u, r ≠ .char '"' :: .char '"' :: u := by
  fun_cases escapeTriple cs with
  | case1 => cases h
  | case2 r => simp [escapeTriple] at h
  | case3 r hthree => simp [escapeTriple] at h
  | case4 c r hthree hc =>
    rw [escapeTriple.eq_3 c r hthree, if_neg hc] at h
    obtain ⟨rfl, htail⟩ := List.cons.inj h
    exact ⟨r, rfl, htail, fun u hu => hthree u rfl hu⟩

/-- No line is three quotes once three quotes in it are escaped. -/
theorem escapeTriple_ne_tripleQuote (cs : List CodePoint) : escapeTriple cs ≠ tripleQuote := by
  intro h
  obtain ⟨r, rfl, hr, hthree⟩ := of_escapeTriple_eq_quote h
  obtain ⟨r, rfl, hr, -⟩ := of_escapeTriple_eq_quote hr
  obtain ⟨r, rfl, -, -⟩ := of_escapeTriple_eq_quote hr
  exact hthree r rfl

theorem toList_quotesLine : quotesLine.toList = bodyIndent.toList ++ tripleQuote := by
  have hquotes : ("\"\"\"" : Text).toList = tripleQuote := rfl
  rw [quotesLine, Text.toList_append, hquotes]

/-- A line within a docstring does not close it. -/
theorem docLine_ne_quotesLine (l : List CodePoint) :
    Text.ofList (docLine bodyIndent.toList (escapeTriple l)) ≠ quotesLine := by
  intro h
  have hlist := congrArg Text.toList h
  rw [Text.toList_ofList, toList_quotesLine, docLine] at hlist
  split at hlist
  · rw [toList_bodyIndent] at hlist
    cases hlist
  · exact escapeTriple_ne_tripleQuote l (List.append_cancel_left hlist)

/-- A docstring of one line ends in this line. -/
theorem behindDocstring_line {t : List CodePoint} (ht : t ≠ []) (r : List Text) :
    behindDocstring (Text.ofList (bodyIndent.toList ++ (tripleQuote ++ t)) :: r) = r := by
  have hopens :
      opensDocstring (Text.ofList (bodyIndent.toList ++ (tripleQuote ++ t))) = true := by
    unfold opensDocstring
    rw [toList_quotesLine, Text.toList_ofList, ← List.append_assoc, List.isPrefixOf_iff_prefix]
    exact List.prefix_append _ _
  have hne : Text.ofList (bodyIndent.toList ++ (tripleQuote ++ t)) ≠ quotesLine := by
    intro h
    have hlist := congrArg Text.toList h
    rw [Text.toList_ofList, toList_quotesLine, List.append_cancel_left_eq] at hlist
    exact ht (List.append_right_eq_self.mp hlist)
  rw [behindDocstring, if_neg hne, if_pos hopens]

/-- A docstring of several lines ends in the first line that closes it. -/
theorem behindDocstring_lines {b : List Text} (hb : ∀ l ∈ b, l ≠ quotesLine) (r : List Text) :
    behindDocstring (quotesLine :: (b ++ quotesLine :: r)) = r := by
  have hopen : ∀ l ∈ b, (l != quotesLine) = true := fun l hl => bne_iff_ne.mpr (hb l hl)
  rw [behindDocstring, if_pos rfl, List.dropWhile_append_of_pos hopen,
    List.dropWhile_cons_of_neg (by simp), List.tail_cons]

theorem ofList_quotes : Text.ofList (bodyIndent.toList ++ tripleQuote) = quotesLine := by
  rw [← toList_quotesLine, Text.ofList_toList]

/-- **A docstring is left where it ends, whatever it says.** -/
theorem behindDocstring_docBlock (d : Option Text) {r : List Text}
    (hr : ∀ l ∈ r, opensDocstring l = false) : behindDocstring (docBlock [] d ++ r) = r := by
  cases d with
  | none =>
    cases r with
    | nil => rfl
    | cons l r =>
      have hl := hr l List.mem_cons_self
      have hne : l ≠ quotesLine := by
        rintro rfl
        have hself : opensDocstring quotesLine = true :=
          List.isPrefixOf_iff_prefix.mpr (List.prefix_refl _)
        rw [hself] at hl
        cases hl
      rw [docBlock, List.nil_append, behindDocstring, if_neg hne, hl, if_neg Bool.false_ne_true]
  | some s =>
    rw [docBlock, List.append_nil]
    unfold docLines
    -- escaping cuts no line, so the lines shown are the escaped lines of the text
    rw [Scan.lines_escapeTriple]
    rcases lines s.toList with _ | ⟨l, _ | ⟨k, ls⟩⟩
    · simp only [List.map_nil, List.map_cons, List.cons_append, List.nil_append, List.append_assoc]
      exact behindDocstring_line (by decide) r
    · simp only [List.map_nil, List.map_cons, List.cons_append, List.nil_append, List.append_assoc]
      exact behindDocstring_line (by simp [tripleQuote]) r
    · -- two lines or more: the first line that holds three quotes and nothing else is the last
      have hlines : ∀ m ∈ (l :: k :: ls).map fun m =>
          Text.ofList (docLine bodyIndent.toList (escapeTriple m)), m ≠ quotesLine := by
        intro m hm
        obtain ⟨n, -, rfl⟩ := List.mem_map.mp hm
        exact docLine_ne_quotesLine n
      have hread := behindDocstring_lines hlines r
      simpa only [List.map_cons, List.map_append, List.map_map, List.map_nil, Function.comp_def,
        ofList_quotes, List.cons_append, List.nil_append, List.append_assoc] using hread

/-! ## Classes -/

/-- A line whose fifth character is no quote opens no docstring. -/
theorem opensDocstring_eq_false {line : Text} (h : line.toList[4]? ≠ some (.char '"')) :
    opensDocstring line = false := by
  rw [← Bool.not_eq_true]
  intro hopens
  unfold opensDocstring at hopens
  obtain ⟨r, hr⟩ := List.isPrefixOf_iff_prefix.mp hopens
  rw [← hr, toList_quotesLine, toList_bodyIndent] at h
  exact h rfl

theorem opensDocstring_memberText {v : EnumValue} (h : IsName v.name) :
    opensDocstring (memberText v) = false := by
  apply opensDocstring_eq_false
  have hname := isName_memberName h
  have hquote := not_mem_of_isName hname (c := '"') (by decide)
  rw [toList_memberText, toList_bodyIndent]
  -- the name of the member has a first character, which stands behind the indentation
  cases hl : (memberName v.name).toList with
  | nil =>
    unfold IsName at hname
    rw [hl] at hname
    cases hname
  | cons c r =>
    rw [hl, List.mem_cons, not_or] at hquote
    simpa using Ne.symm hquote.1

theorem opensDocstring_bodyBlock {vs : List EnumValue} (h : ∀ v ∈ vs, IsName v.name) :
    ∀ l ∈ bodyBlock (vs.map memberText), opensDocstring l = false := by
  unfold bodyBlock
  split
  · intro l hl
    rw [List.mem_singleton.mp hl]
    apply opensDocstring_eq_false
    rw [toList_pass, toList_bodyIndent]
    decide
  · intro l hl
    obtain ⟨v, hv, rfl⟩ := List.mem_map.mp hl
    exact opensDocstring_memberText (h v hv)

/-- The statement is the class of the enum, with blank lines behind it. -/
def IsClassOf (e : Enum) (s : Text × List Text) : Prop :=
  ∃ blanks : List Text, s = (classLine e, classBody e ++ blanks) ∧ ∀ l ∈ blanks, l = ""

/-- **The class of an enum is read as the enum.** -/
theorem IsClassOf.readClass_eq {e : Enum} {s : Text × List Text} (h : IsClassOf e s)
    (hname : IsName e.name) (hvalues : ∀ v ∈ e.values, IsName v.name) : readClass s = e.names := by
  obtain ⟨blanks, rfl, hblanks⟩ := h
  have hrest : ∀ l ∈ bodyBlock (e.values.map memberText) ++ blanks, opensDocstring l = false := by
    intro l hl
    rcases List.mem_append.mp hl with hl | hl
    · exact opensDocstring_bodyBlock hvalues l hl
    · rw [hblanks l hl]
      exact opensDocstring_eq_false (by simp)
  have hnone : blanks.filterMap quoted? = [] := by
    rw [List.filterMap_eq_nil_iff]
    intro l hl
    rw [hblanks l hl]
    rfl
  unfold readClass classBody Enum.names
  dsimp only
  rw [className_classLine hname, List.append_assoc, behindDocstring_docBlock _ hrest,
    List.filterMap_append, filterMap_quoted?_bodyBlock hvalues, hnone, List.append_nil]

/-! ## The module -/

theorem exists_intercalate_cons (l : Text) (b : List Text) (bs : List (List Text)) :
    ∃ r, [("" : Text), ""].intercalate ((l :: b) :: bs) = l :: r := by
  cases bs with
  | nil => exact ⟨b, List.intercalate_singleton⟩
  | cons b' bs => exact ⟨_, by rw [List.intercalate_cons_cons]; rfl⟩

theorem isInner_blanks : ∀ l ∈ [("" : Text), ""], IsInner l := by
  intro l hl
  rw [show l = "" by simpa using hl]
  exact isInner_empty

variable {enums : List Enum}

/-- Classes with blank lines between them are statements, one by one. -/
theorem statements_intercalate (h : ∀ e ∈ enums, ∀ v ∈ e.values, IsName v.name) :
    List.Forall₂ IsClassOf enums
      (statements ([("" : Text), ""].intercalate (enums.map enumLines) ++ [("" : Text)])) := by
  induction enums with
  | nil => exact .nil
  | cons e r ih =>
    have hrest := ih fun k hk => h k (List.mem_cons_of_mem e hk)
    have hinner : ∀ l ∈ classBody e, IsInner l := isInner_enumBody (h e List.mem_cons_self)
    have hopens := opensStatement_classLine e
    cases r with
    | nil =>
      rw [List.map_singleton, List.intercalate_singleton, enumLines_eq, List.cons_append,
        statements_cons hopens hinner]
      exact .cons ⟨[""], rfl, by decide⟩ .nil
    | cons e' r =>
      obtain ⟨t, ht⟩ := exists_intercalate_cons (classLine e') (classBody e') (r.map enumLines)
      rw [List.map_cons, enumLines_eq, ht] at hrest
      rw [List.map_cons, List.map_cons, List.intercalate_cons_cons, enumLines_eq, enumLines_eq, ht,
        List.append_assoc, List.append_assoc, List.cons_append, statements_cons hopens hinner,
        takeWhile_inner isInner_blanks, statements_append isInner_blanks]
      -- the next class ends the blank lines
      have hstop :
          (classLine e' :: t ++ [("" : Text)]).takeWhile (fun k => !opensStatement k) = [] :=
        List.takeWhile_cons_of_neg (by simp [opensStatement_classLine])
      rw [hstop]
      exact .cons ⟨["", ""], rfl, by decide⟩ hrest

theorem isLine_of_mem_enumsLines
    (h : ∀ e ∈ enums, IsName e.name ∧ ∀ v ∈ e.values, IsName v.name) :
    ∀ l ∈ enumsLines enums, IsLine l :=
  fun l hl => (enumsLines_isPlain h l hl).isLine

/-- **The statements of the module of the enums are an import and their classes.** -/
theorem statements_enumsFile (h : ∀ e ∈ enums, IsName e.name ∧ ∀ v ∈ e.values, IsName v.name)
    (hne : enums ≠ []) {text : Text} (htext : enumsFile enums = .ok text) :
    ∃ blanks classes,
      statements (cut text) = (("from enum import Enum" : Text), blanks) :: classes ∧
      List.Forall₂ IsClassOf enums classes := by
  have hhead : opensStatement "from enum import Enum" = true := opensStatement_ofList (by decide)
  rw [enumsFile_eq hne htext, Text.cut_closed (isLine_of_mem_enumsLines h), enumsLines,
    List.append_assoc, List.cons_append, statements_cons hhead isInner_blanks]
  exact ⟨_, _, rfl, statements_intercalate fun e he => (h e he).2⟩

theorem map_eq_of_forall₂ {α β γ : Type} {R : α → β → Prop} {f : α → γ} {g : β → γ}
    {as : List α} {bs : List β} (h : List.Forall₂ R as bs)
    (hR : ∀ a ∈ as, ∀ b, R a b → g b = f a) : bs.map g = as.map f := by
  induction h with
  | nil => rfl
  | cons hab _ ih =>
    rw [List.map_cons, List.map_cons, hR _ List.mem_cons_self _ hab,
      ih fun a ha => hR a (List.mem_cons_of_mem _ ha)]

/-- **Reading the module of the enums gives their names.** -/
theorem readEnums_enumsFile (h : ∀ e ∈ enums, IsName e.name ∧ ∀ v ∈ e.values, IsName v.name)
    {text : Text} (htext : enumsFile enums = .ok text) :
    readEnums text = enums.map Enum.names := by
  by_cases hne : enums = []
  · subst hne
    cases htext
    rfl
  · obtain ⟨blanks, classes, hclasses, hall⟩ := statements_enumsFile h hne htext
    rw [readEnums, hclasses, List.tail_cons]
    exact map_eq_of_forall₂ hall fun e he s hs => hs.readClass_eq (h e he).1 (h e he).2

/-- The outline of the module of the enums: what it imports, and their classes. -/
theorem outline_enumsFile (h : ∀ e ∈ enums, IsName e.name ∧ ∀ v ∈ e.values, IsName v.name)
    {text : Text} (htext : enumsFile enums = .ok text) :
    outline text
      = if enums = [] then [] else ("from enum import Enum" : Text) :: enums.map classLine := by
  split
  · subst enums
    cases htext
    rfl
  · rename_i hne
    obtain ⟨blanks, classes, hclasses, hall⟩ := statements_enumsFile h hne htext
    have hlines : classes.map (·.1) = enums.map classLine := by
      apply map_eq_of_forall₂ hall
      rintro e - s ⟨b, rfl, -⟩
      rfl
    rw [outline, filter_opensStatement, hclasses, List.map_cons, hlines]

/-! ## Line boundaries -/

theorem not_identifier_of_isLineBoundary :
    ∀ n ∈ [10, 11, 12, 13, 28, 29, 30, 133, 8232, 8233],
      Text.isIdentifierStart (CodePoint.ofNat n) = false ∧
        Text.isIdentifierContinue (CodePoint.ofNat n) = false := by decide +kernel

/-- No character of an identifier ends a line. -/
theorem isUncut_of_isName {s : Text} (h : IsName s) : IsUncut s.toList := by
  intro c hc
  rw [← Bool.not_eq_true]
  intro hboundary
  -- the characters that end a line are few enough to be looked up one by one
  have hmem : c.toNat ∈ [10, 11, 12, 13, 28, 29, 30, 133, 8232, 8233] := by
    simp [isLineBoundary, Text.lineBoundaryRanges, Text.Ranges.has] at hboundary
    simp only [List.mem_cons, List.not_mem_nil, or_false]
    omega
  obtain ⟨hstart, hcontinue⟩ := not_identifier_of_isLineBoundary _ hmem
  rw [CodePoint.ofNat_toNat] at hstart hcontinue
  unfold IsName at h
  cases hl : s.toList with
  | nil =>
    rw [hl] at hc
    cases hc
  | cons d r =>
    rw [hl, Text.isIdentifier, Bool.and_eq_true, List.all_eq_true] at h
    rw [hl] at hc
    rcases List.mem_cons.mp hc with rfl | hc
    · rw [hstart] at h
      cases h.1
    · have hd := h.2 c hc
      rw [hcontinue] at hd
      cases hd

theorem isUncut_ofList {cs : List CodePoint} (h : IsUncut cs) :
    IsUncut (Text.ofList cs).toList := by
  rwa [Text.toList_ofList]

theorem isUncut_bodyIndent : IsUncut bodyIndent.toList := by
  rw [toList_bodyIndent]
  decide

theorem isUncut_memberText {v : EnumValue} (h : IsName v.name) : IsUncut (memberText v).toList := by
  have hmember := isUncut_of_isName (isName_memberName h)
  have hname := isUncut_of_isName h
  have hequals : IsUncut (" = " : Text).toList := by decide
  have hquote : IsUncut [.char '"'] := by decide
  rw [toList_memberText]
  exact ((isUncut_bodyIndent.append hmember).append hequals).append
    (hquote.append (hname.append hquote))

theorem isUncut_classLine {e : Enum} (h : IsName e.name) : IsUncut (classLine e).toList := by
  have hopen : IsUncut ("class " : Text).toList := isUncut_ofList (by decide)
  have hclose : IsUncut ("(str, Enum):" : Text).toList := isUncut_ofList (by decide)
  rw [classLine, Text.toList_append, Text.toList_append]
  exact (hopen.append (isUncut_of_isName h)).append hclose

theorem isUncut_enumLines {e : Enum} (hname : IsName e.name)
    (hvalues : ∀ v ∈ e.values, IsName v.name) : ∀ l ∈ enumLines e, IsUncut l.toList := by
  rw [enumLines_eq, classBody]
  intro l hl
  rcases List.mem_cons.mp hl with rfl | hl
  · exact isUncut_classLine hname
  · rcases List.mem_append.mp hl with hl | hl
    · cases hd : shownText e.documentation with
      | none =>
        rw [hd] at hl
        cases hl
      | some s =>
        rw [hd, docBlock, List.append_nil] at hl
        obtain ⟨k, hk, rfl⟩ := List.mem_map.mp hl
        rw [Text.toList_ofList]
        rcases mem_docLines hk with rfl | ⟨r, rfl, hr⟩
        · decide
        · exact isUncut_bodyIndent.append hr
    · unfold bodyBlock at hl
      split at hl
      · rw [List.mem_singleton.mp hl, toList_pass]
        exact isUncut_bodyIndent.append (by decide)
      · obtain ⟨v, hv, rfl⟩ := List.mem_map.mp hl
        exact isUncut_memberText (hvalues v hv)

/-- Nothing but line feeds ends the lines of the module of the enums. -/
theorem eq_newline_of_isLineBoundary
    (h : ∀ e ∈ enums, IsName e.name ∧ ∀ v ∈ e.values, IsName v.name) {text : Text}
    (htext : enumsFile enums = .ok text) {c : CodePoint} (hc : c ∈ text.toList)
    (hboundary : isLineBoundary c = true) : c = '\n' := by
  have hnone : ∀ l : Text, IsUncut l.toList → c ∉ l.toList := by
    intro l hl hmem
    rw [hl c hmem] at hboundary
    cases hboundary
  have hblank : IsUncut ("" : Text).toList := isUncut_ofList (by decide)
  have hhead : ∀ l ∈ [("from enum import Enum" : Text), "", ""], IsUncut l.toList := by
    simp only [List.forall_mem_cons]
    exact ⟨isUncut_ofList (by decide), hblank, hblank, List.forall_mem_nil _⟩
  by_cases hne : enums = []
  · subst hne
    cases htext
    cases hc
  · rw [enumsFile_eq hne htext, Text.toList_closed, List.mem_flatMap] at hc
    obtain ⟨l, hl, hc⟩ := hc
    rcases List.mem_append.mp hc with hc | hc
    · -- no line of the module holds a character that ends lines
      refine absurd hc (hnone l ?_)
      rcases List.mem_append.mp hl with hl | hl
      · exact hhead l hl
      · rcases mem_intercalate_blank hl with rfl | ⟨b, hb, hl⟩
        · exact hblank
        · obtain ⟨e, he, rfl⟩ := List.mem_map.mp hb
          exact isUncut_enumLines (h e he).1 (h e he).2 l hl
    · exact List.mem_singleton.mp hc

/-! ## What the module tells -/

/-- **The module of the enums fixes their names, and shows their classes at the margin.** -/
theorem enumsFile_names {others : List Enum}
    (hnames : ∀ e ∈ enums ++ others, IsName e.name ∧ ∀ v ∈ e.values, IsName v.name)
    (hdoc : ∀ e ∈ enums ++ others, e.documentation.IsOptionalText) :
    ∃ text, enumsFile enums = .ok text ∧
      (enumsFile others = .ok text → enums.map Enum.names = others.map Enum.names) ∧
      outline text = (if enums = [] then [] else ("from enum import Enum" : Text)
        :: enums.map fun e => ("class " ++ e.name ++ "(str, Enum):" : Text)) ∧
      ∀ c ∈ text.toList, isLineBoundary c = true → c = '\n' := by
  obtain ⟨hnames, hothers⟩ := List.forall_mem_append.mp hnames
  obtain ⟨text, htext⟩ := enumsFile_ok (List.forall_mem_append.mp hdoc).1
  refine ⟨text, htext, ?_, outline_enumsFile hnames htext, ?_⟩
  · intro hsame
    rw [← readEnums_enumsFile hnames htext, readEnums_enumsFile hothers hsame]
  · intro c hc hboundary
    exact eq_newline_of_isLineBoundary hnames htext hc hboundary

/-- An enum of values without names in the database. -/
def enumOf (name : Text) (values : List Text) (documentation : Value) : Enum :=
  { name, values := values.map fun v => { name := v, storageName := .null }, documentation,
    storageName := .null }

/-- A documentation with a class in it, and a member, and quotes on a line of their own. -/
def misleading : Value :=
  .text "class B(str, Enum):\n    C = \"C\"\n\"\"\"\nC = \"C\""

/-- Enums with documentations that look like classes. Their text is that of no list with other
names. -/
theorem enumsFile_misleading :
    ∃ text, enumsFile [enumOf "A" ["None", "D"] misleading, enumOf "B" [] (.text "\"\"\"")]
        = .ok text ∧
      enumsFile [enumOf "A" ["C", "D"] .null, enumOf "B" [] .null] ≠ .ok text ∧
      outline text
        = [("from enum import Enum" : Text), "class A(str, Enum):", "class B(str, Enum):"] := by
  have hnames : ∀ e ∈ [enumOf "A" ["None", "D"] misleading, enumOf "B" [] (.text "\"\"\"")]
      ++ [enumOf "A" ["C", "D"] .null, enumOf "B" [] .null],
      IsName e.name ∧ ∀ v ∈ e.values, IsName v.name := by decide +kernel
  have hdoc : ∀ e ∈ [enumOf "A" ["None", "D"] misleading, enumOf "B" [] (.text "\"\"\"")]
      ++ [enumOf "A" ["C", "D"] .null, enumOf "B" [] .null], e.documentation.IsOptionalText := by
    simp only [List.cons_append, List.nil_append, List.forall_mem_cons]
    exact ⟨.inr ⟨_, rfl⟩, .inr ⟨_, rfl⟩, .inl rfl, .inl rfl, List.forall_mem_nil _⟩
  obtain ⟨text, htext, hsame, houtline, -⟩ := enumsFile_names hnames hdoc
  refine ⟨text, htext, ?_, ?_⟩
  · intro hothers
    exact absurd (hsame hothers) (by decide)
  · rw [houtline]
    decide +kernel

/-- Without enums there is no import either. -/
theorem enumsFile_nil_no_import :
    ¬ ∀ enums : List Enum,
      (∀ e ∈ enums, IsName e.name ∧ ∀ v ∈ e.values, IsName v.name) →
      (∀ e ∈ enums, e.documentation.IsOptionalText) →
      ∃ text, enumsFile enums = .ok text ∧ outline text = ("from enum import Enum" : Text)
        :: enums.map fun e => ("class " ++ e.name ++ "(str, Enum):" : Text) := by
  intro h
  obtain ⟨text, htext, houtline⟩ := h [] (List.forall_mem_nil _) (List.forall_mem_nil _)
  cases htext
  revert houtline
  decide

end ModelBindings.Source
