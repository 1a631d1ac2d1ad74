import ModelBindings.Proofs.Source.Needs

/-!
# Outlines

What a module imports from its own package and what it defines can be read off the lines that open a
statement at the margin.

* `outline` : the lines of a text that are neither empty nor indented.
* `relativeImports` : what a text imports from its own package.
* `definesClass`, `offered`, `rebuilt` : the classes, the offered names and the resolved models.
* `HasParts` : a text whose lines are known; `HasParts.relativeImports_eq` gives its imports.
-/

set_option autoImplicit false

namespace ModelBindings.Source

open Text (IsLine closed cut isLine_ofList)

/-! ## Reading -/

/-- The line is neither empty nor indented. -/
def opensStatement (line : Text) : Bool :=
  match line.toList with
  | [] => false
  | c :: _ => c != ' '

/-- The lines of a text that open a statement at the margin. -/
def outline (text : Text) : List Text :=
  (cut text).filter opensStatement

/-- The line imports from the package itself. -/
def isRelativeImport (line : Text) : Bool :=
  ("from ." : Text).toList.isPrefixOf line.toList

/-- The module and the name in the line `from .module import name`. -/
def relativeImport? (line : Text) : Option (Text × Text) :=
  let rest := line.toList.drop 6
  let module := Text.ofList (rest.takeWhile (· != .char ' '))
  let name := Text.ofList ((rest.dropWhile (· != .char ' ')).drop 8)
  if line = "from ." ++ module ++ " import " ++ name then some (module, name) else none

/-- What a text imports from its own package, module by module and name by name. -/
def relativeImports (text : Text) : List (Text × Text) :=
  (outline text).filterMap relativeImport?

/-- A class of the name is defined at the margin. -/
def definesClass (text name : Text) : Prop :=
  ∃ line ∈ outline text, ("class " ++ name ++ "(").toList <+: line.toList

/-- The lines between the brackets of the list of offered names. -/
def offered (text : Text) : List Text :=
  ((cut text).dropWhile (fun n : Text => n != "__all__ = [")).tail.takeWhile
    (fun n : Text => n != "]")

/-- The line resolves the references of a model. -/
def isRebuild (line : Text) : Bool :=
  (".model_rebuild()" : Text).toList.isSuffixOf line.toList

/-- The lines that resolve the references of a model. -/
def rebuilt (text : Text) : List Text :=
  (outline text).filter isRebuild

/-! ## Lines -/

/-- A relative import shows it at its first and fifth character. -/
theorem isRelativeImport_getElem {line : Text} (h : isRelativeImport line = true) :
    line.toList[0]? = some (.char 'f') ∧ line.toList[4]? = some (.char ' ') := by
  unfold isRelativeImport at h
  obtain ⟨r, hr⟩ := List.isPrefixOf_iff_prefix.mp h
  rw [← hr]
  exact ⟨rfl, rfl⟩

theorem ne_of_head {s t : Text} {a b : CodePoint} {r r' : List CodePoint} (hs : s.toList = a :: r)
    (ht : t.toList = b :: r') (h : a ≠ b) : s ≠ t := by
  rintro rfl
  rw [hs] at ht
  exact h (List.cons.inj ht).1

theorem isRelativeImport_of_relativeImport? {line : Text} {i : Text × Text}
    (h : relativeImport? line = some i) : isRelativeImport line = true := by
  unfold relativeImport? at h
  dsimp only at h
  split at h
  · rename_i hl
    unfold isRelativeImport
    rw [hl, List.isPrefixOf_iff_prefix]
    simp only [Text.toList_append, List.append_assoc]
    exact List.prefix_append _ _
  · cases h

/-- **An import line is read as what it imports.** -/
theorem relativeImport?_enumImport {module : Text} (name : Text) (h : .char ' ' ∉ module.toList) :
    relativeImport? (enumImport module name) = some (module, name) := by
  have himport : (" import " : Text).toList = .char ' ' :: ("import " : Text).toList := rfl
  have hl : (enumImport module name).toList.drop 6
      = module.toList ++ (.char ' ' :: ("import " : Text).toList ++ name.toList) := by
    simp only [enumImport, Text.toList_append, himport, List.append_assoc]
    rfl
  have hall : ∀ c ∈ module.toList, (c != ' ') = true := by
    rintro c hc
    rw [bne_iff_ne]
    rintro rfl
    exact h hc
  unfold relativeImport?
  dsimp only
  rw [hl, List.takeWhile_append_of_pos hall, List.dropWhile_append_of_pos hall]
  simp [enumImport]

/-- A call ends in a bracket. -/
theorem isRebuild_ofList {cs : List CodePoint} (h : cs.getLast? ≠ some (.char ')')) :
    isRebuild (Text.ofList cs) = false := by
  unfold isRebuild
  rw [← Bool.not_eq_true, List.isSuffixOf_iff_suffix]
  rintro ⟨r, hr⟩
  have hcs : r ++ (".model_rebuild(" : Text).toList ++ [.char ')'] = cs :=
    (List.append_assoc ..).trans hr
  rw [← hcs] at h
  simp at h

theorem opensStatement_of_isRelativeImport {line : Text} (h : isRelativeImport line = true) :
    opensStatement line = true := by
  have hf := (isRelativeImport_getElem h).1
  unfold opensStatement
  cases hl : line.toList with
  | nil =>
    rw [hl] at hf
    cases hf
  | cons c r =>
    rw [hl] at hf
    cases hf
    rfl

/-! ## Texts whose lines are known -/

theorem outline_closed {ls : List Text} (h : ∀ l ∈ ls, IsLine l) :
    outline (closed ls) = ls.filter opensStatement := by
  rw [outline, Text.cut_closed h, List.filter_append]
  simp [opensStatement]

theorem relativeImports_closed {ls : List Text} (h : ∀ l ∈ ls, IsLine l) :
    relativeImports (closed ls) = ls.filterMap relativeImport? := by
  rw [relativeImports, outline_closed h, List.filterMap_filter]
  refine List.filterMap_congr fun l _ => ?_
  split
  · rfl
  · rename_i hl
    cases hi : relativeImport? l with
    | none => rfl
    | some i =>
      exact absurd (opensStatement_of_isRelativeImport (isRelativeImport_of_relativeImport? hi)) hl

/-- A line that is no relative import. -/
structure IsPlain (line : Text) : Prop where
  isLine : IsLine line
  plain : isRelativeImport line = false

theorem filterMap_relativeImport? {ls : List Text} (h : ∀ l ∈ ls, IsPlain l) :
    ls.filterMap relativeImport? = [] := by
  rw [List.filterMap_eq_nil_iff]
  intro l hl
  cases hi : relativeImport? l with
  | none => rfl
  | some i =>
    have := isRelativeImport_of_relativeImport? hi
    rw [(h l hl).plain] at this
    cases this

/-- The offered names stand between the line that opens their list and the one that closes it. -/
theorem offered_closed {front names back : List Text}
    (hl : ∀ l ∈ front ++ ("__all__ = [" : Text) :: (names ++ ("]" : Text) :: back), IsLine l)
    (hf : ∀ l ∈ front, l ≠ "__all__ = [") (hn : ∀ l ∈ names, l ≠ "]") :
    offered (closed (front ++ ("__all__ = [" : Text) :: (names ++ ("]" : Text) :: back)))
      = names := by
  have hf : ∀ l ∈ front, (l != "__all__ = [") = true := by simpa using hf
  have hn : ∀ l ∈ names, (l != "]") = true := by simpa using hn
  unfold offered
  rw [Text.cut_closed hl, List.append_assoc, List.dropWhile_append_of_pos hf, List.cons_append,
    List.dropWhile_cons_of_neg (by simp), List.tail_cons, List.append_assoc,
    List.takeWhile_append_of_pos hn, List.cons_append, List.takeWhile_cons_of_neg (by simp),
    List.append_nil]

/-- A literal line, by its characters. -/
theorem isPlain_ofList {cs : List CodePoint} (hl : .char '\n' ∉ cs)
    (hp : ("from ." : Text).toList.isPrefixOf cs = false) :
    IsPlain (Text.ofList cs) :=
  ⟨isLine_ofList hl, hp⟩

theorem IsPlain.of_first {line : Text} (hl : IsLine line) {c : CodePoint}
    (h : line.toList[0]? = some c) (hc : c ≠ 'f') : IsPlain line := by
  refine ⟨hl, ?_⟩
  rw [← Bool.not_eq_true]
  intro hr
  rw [(isRelativeImport_getElem hr).1] at h
  exact hc (Option.some.inj h).symm

theorem IsPlain.of_not_blank {line : Text} (hl : IsLine line) (h : .char ' ' ∉ line.toList) :
    IsPlain line := by
  refine ⟨hl, ?_⟩
  rw [← Bool.not_eq_true]
  intro hr
  exact h (List.mem_of_getElem? (isRelativeImport_getElem hr).2)

/-- A text whose relative imports stand together between plain lines. -/
structure HasParts (text : Text) (front : List Text) (imports : List (Text × Text))
    (back : List Text) : Prop where
  text_eq : text = closed (front ++ imports.map (fun i => enumImport i.1 i.2) ++ back)
  front_plain : ∀ l ∈ front, IsPlain l
  back_plain : ∀ l ∈ back, IsPlain l
  imports_lines : ∀ i ∈ imports, IsLine (enumImport i.1 i.2) ∧ .char ' ' ∉ i.1.toList

namespace HasParts

variable {text : Text} {front back : List Text} {imports : List (Text × Text)}

theorem isLine (h : HasParts text front imports back) :
    ∀ l ∈ front ++ imports.map (fun i => enumImport i.1 i.2) ++ back, IsLine l := by
  intro l hl
  rcases List.mem_append.mp hl with hl | hl
  · rcases List.mem_append.mp hl with hl | hl
    · exact (h.front_plain l hl).isLine
    · obtain ⟨i, hi, rfl⟩ := List.mem_map.mp hl
      exact (h.imports_lines i hi).1
  · exact (h.back_plain l hl).isLine

theorem outline_eq (h : HasParts text front imports back) :
    outline text
      = (front ++ imports.map (fun i => enumImport i.1 i.2) ++ back).filter opensStatement := by
  rw [h.text_eq, outline_closed h.isLine]

/-- **The imports that stand together are what the text imports.** -/
theorem relativeImports_eq (h : HasParts text front imports back) :
    relativeImports text = imports := by
  rw [h.text_eq, relativeImports_closed h.isLine, List.filterMap_append, List.filterMap_append,
    filterMap_relativeImport? h.front_plain, filterMap_relativeImport? h.back_plain,
    List.nil_append, List.append_nil, List.filterMap_map]
  exact (List.filterMap_congr fun i hi =>
    relativeImport?_enumImport i.2 (h.imports_lines i hi).2).trans List.filterMap_some

/-- A line that starts like a relative import is one. -/
theorem complete (h : HasParts text front imports back) {line : Text}
    (hline : line ∈ outline text) (hr : isRelativeImport line = true) :
    (relativeImport? line).isSome = true := by
  rw [h.outline_eq] at hline
  rcases List.mem_append.mp (List.mem_of_mem_filter hline) with hline | hline
  · rcases List.mem_append.mp hline with hline | hline
    · rw [(h.front_plain line hline).plain] at hr
      cases hr
    · obtain ⟨i, hi, rfl⟩ := List.mem_map.mp hline
      rw [relativeImport?_enumImport i.2 (h.imports_lines i hi).2]
      rfl
  · rw [(h.back_plain line hline).plain] at hr
    cases hr

/-- A class of the text can be asked for. -/
theorem definesClass_of_mem (h : HasParts text front imports back) (name bases : Text)
    (hmem : "class " ++ name ++ ("(" ++ bases) ∈ back) : definesClass text name := by
  refine ⟨"class " ++ name ++ ("(" ++ bases), ?_, ?_⟩
  · rw [h.outline_eq, List.mem_filter]
    refine ⟨List.mem_append_right _ hmem, ?_⟩
    unfold opensStatement
    simp only [Text.toList_append]
    rfl
  · simp only [Text.toList_append, ← List.append_assoc]
    exact List.prefix_append _ _

end HasParts

end ModelBindings.Source
