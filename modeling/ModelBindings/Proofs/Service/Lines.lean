import ModelBindings.Proofs.Json.RoundTrip
import ModelBindings.Proofs.Service.Answer
import ModelBindings.Proofs.Service.Run
import ModelBindings.Proofs.Text.Segments

/-!
# Serving line by line

Serving goes from line to line as long as each line can be read or is no JSON at all. It ends at the
first line that is JSON but has a number too long to be read or values nested too deep.

* `Service.IsReadable`, `Service.requestOn` : serving gets past a line; the request on it.
* `Service.serveLines_append` : serving lines and then more lines.
* `Service.responses_serveLines` : the responses are those of the requests, each on the tree that
  the requests before it left.
* `Service.serve_ending` : serving gets to the end of its input exactly if every line is readable,
  and a request behind other lines is answered exactly if these are.
-/

set_option autoImplicit false

namespace ModelBindings.Service

variable {env : Environment} {t : FileTree} {line : List CodePoint} {v : Value}

/-! ## Lines -/

/-- Serving gets past the line: it can be read, or is refused as no JSON. -/
def IsReadable (line : List CodePoint) : Prop :=
  ∀ e, Json.read (Text.strip line) = .error e → (Fault.json e).kind = "JSONDecodeError"

instance (line : List CodePoint) : Decidable (IsReadable line) :=
  match h : Json.read (Text.strip line) with
  | .ok _ => isTrue (by simp [IsReadable, h])
  | .error e => decidable_of_iff ((Fault.json e).kind = "JSONDecodeError") (by simp [IsReadable, h])

/-- The request on a line, if there is one. -/
def requestOn (line : List CodePoint) : Option Value :=
  (Json.read (Text.strip line)).toOption

/-- The requests on the lines of a text. -/
def requestsIn (input : Text) : List Value :=
  (Text.segments '\n' input.toList).filterMap requestOn

theorem requestOn_eq_some : requestOn line = some v ↔ Json.read (Text.strip line) = .ok v := by
  unfold requestOn
  cases Json.read (Text.strip line) <;> simp [Except.toOption]

theorem isReadable_of_requestOn (h : requestOn line = some v) : IsReadable line := by
  intro e he
  rw [requestOn_eq_some.mp h] at he
  cases he

/-- What serving makes of a line. -/
theorem readLine_cases (line : List CodePoint) :
    (IsReadable line ∧ requestOn line = none ∧
      (readLine line = .blank ∨ ∃ cs, readLine line = .malformed cs)) ∨
    (∃ v, IsReadable line ∧ requestOn line = some v ∧ readLine line = .request v) ∨
    (∃ e, ¬ IsReadable line ∧ Json.read (Text.strip line) = .error e ∧
      readLine line = .unreadable e) := by
  unfold readLine
  split
  · rename_i hblank
    have hread : Json.read (Text.strip line) = .error (.malformed .expectingValue 0 1 1) := by
      rw [hblank]
      rfl
    refine .inl ⟨?_, ?_, .inl rfl⟩
    · intro e he
      rw [hread] at he
      cases he
      rfl
    · unfold requestOn
      rw [hread]
      rfl
  · split
    · rename_i v hread
      have hrequest := requestOn_eq_some.mpr hread
      exact .inr (.inl ⟨v, isReadable_of_requestOn hrequest, hrequest, rfl⟩)
    · rename_i hread
      refine .inl ⟨?_, ?_, .inr ⟨_, rfl⟩⟩
      · intro e he
        rw [hread] at he
        cases he
        rfl
      · unfold requestOn
        rw [hread]
        rfl
    · rename_i e hmalformed hread
      refine .inr (.inr ⟨e, fun hreadable => ?_, hread, rfl⟩)
      have hkind := hreadable e hread
      cases e with
      | malformed reason offset line column =>
        exact absurd rfl (hmalformed reason offset line column)
      | _ => exact absurd hkind (by decide)

/-! ## Sessions one after another -/

namespace Session

/-- Go on serving where a session got to its end, from the tree that it left. -/
def andThen (s : Session) (next : FileTree → Session) : Session :=
  match s.ending with
  | .error _ => s
  | .ok () => ⟨(next s.tree).tree, s.events ++ (next s.tree).events, (next s.tree).ending⟩

/-- What was put out before stays in front. -/
theorem andThen_prepend (s : Session) (es : List Event) (next : FileTree → Session) :
    andThen { s with events := es ++ s.events } next =
      { s.andThen next with events := es ++ (s.andThen next).events } := by
  obtain ⟨t, events, ending⟩ := s
  cases ending with
  | error e => rfl
  | ok u => simp [andThen]

theorem andThen_of_error {s : Session} {f : Fault} (h : s.ending = .error f)
    (next : FileTree → Session) : s.andThen next = s := by
  rw [andThen, h]

theorem andThen_of_ok {s : Session} (h : s.ending = .ok ()) (next : FileTree → Session) :
    s.andThen next =
      ⟨(next s.tree).tree, s.events ++ (next s.tree).events, (next s.tree).ending⟩ := by
  rw [andThen, h]

theorem responses_andThen {s : Session} (h : s.ending = .ok ()) (next : FileTree → Session) :
    (s.andThen next).responses = s.responses ++ (next s.tree).responses := by
  rw [andThen_of_ok h]
  exact List.filterMap_append

end Session

theorem serveLines_append (env : Environment) (t : FileTree) (ls rs : List (List CodePoint)) :
    serveLines env t (ls ++ rs) =
      (serveLines env t ls).andThen fun t => serveLines env t rs := by
  induction ls generalizing t with
  | nil => rfl
  | cons l ls ih =>
    rw [List.cons_append, serveLines, serveLines]
    cases readLine l with
    | blank => exact ih t
    | malformed cs =>
      dsimp only
      rw [ih t]
      exact (Session.andThen_prepend _ [.record (ignoredRecord cs)] _).symm
    | unreadable e => rfl
    | request v =>
      dsimp only
      rw [ih _]
      exact (Session.andThen_prepend _ _ _).symm

/-- Serving stops at the first line that is not readable. -/
theorem ending_serveLines (env : Environment) (t : FileTree) (ls : List (List CodePoint)) :
    (serveLines env t ls).ending = .ok () ↔ ∀ l ∈ ls, IsReadable l := by
  induction ls generalizing t with
  | nil => simp [serveLines]
  | cons l ls ih =>
    rw [serveLines, List.forall_mem_cons]
    rcases readLine_cases l with ⟨h, -, hl | ⟨cs, hl⟩⟩ | ⟨v, h, -, hl⟩ | ⟨e, h, -, hl⟩
    · simp [hl, h, ih]
    · simp [hl, h, ih]
    · simp [hl, h, ih]
    · simp [hl, h]

/-! ## Responses -/

/-- The responses to requests, each on the tree that the requests before it left. -/
def responsesTo (env : Environment) (t : FileTree) : List Value → List Response
  | [] => []
  | v :: r => (handle env t v).response :: responsesTo env (handle env t v).tree r

theorem length_responsesTo (env : Environment) (t : FileTree) (vs : List Value) :
    (responsesTo env t vs).length = vs.length := by
  induction vs generalizing t with
  | nil => rfl
  | cons v r ih => rw [responsesTo, List.length_cons, List.length_cons, ih]

theorem getElem?_responsesTo (env : Environment) (t : FileTree) (vs : List Value) (i : Nat) :
    (responsesTo env t vs)[i]? =
      vs[i]?.map fun v => (handle env (treeAfter env t (vs.take i)) v).response := by
  induction vs generalizing t i with
  | nil => rfl
  | cons v r ih =>
    cases i with
    | zero => rfl
    | succ i =>
      rw [responsesTo, List.getElem?_cons_succ, List.getElem?_cons_succ, List.take_succ_cons, ih]
      rfl

theorem responses_events (a : Answer) (s : Session) :
    Session.responses { s with events := a.events ++ s.events } = a.response :: s.responses := by
  simp [Session.responses, Answer.events, List.filterMap_append]

theorem responses_serveLines (env : Environment) (t : FileTree) (ls : List (List CodePoint)) :
    (serveLines env t ls).responses = responsesTo env t (answered ls) := by
  induction ls generalizing t with
  | nil => rfl
  | cons l ls ih =>
    unfold serveLines answered
    cases readLine l with
    | blank => exact ih t
    | malformed cs => exact ih t
    | unreadable e => rfl
    | request v =>
      dsimp only
      rw [responses_events, ih]
      rfl

/-- The requests that are answered are those in front of the first line that is not readable. -/
theorem answered_eq (ls : List (List CodePoint)) :
    answered ls = (ls.takeWhile fun l => IsReadable l).filterMap requestOn := by
  induction ls with
  | nil => rfl
  | cons l ls ih =>
    rw [answered]
    rcases readLine_cases l with ⟨h, hr, hl | ⟨cs, hl⟩⟩ | ⟨v, h, hr, hl⟩ | ⟨e, h, -, hl⟩
    · simp [hl, h, hr, ih]
    · simp [hl, h, hr, ih]
    · simp [hl, h, hr, ih]
    · simp [hl, h]

theorem answered_of_readable {ls : List (List CodePoint)} (h : ∀ l ∈ ls, IsReadable l) :
    answered ls = ls.filterMap requestOn := by
  rw [answered_eq, List.takeWhile_eq_self_iff.mpr fun l hl => decide_eq_true (h l hl)]

/-- Serving stops at a line that is not readable, whatever follows. -/
theorem serveLines_unreadable {e : Json.ReadError} (h : ¬ IsReadable line)
    (he : Json.read (Text.strip line) = .error e) (rest : List (List CodePoint)) :
    serveLines env t (line :: rest) = ⟨t, [], .error (.json e)⟩ := by
  rw [serveLines]
  rcases readLine_cases line with ⟨hl, -⟩ | ⟨v, hl, -⟩ | ⟨e', -, he', hl⟩
  · exact absurd hl h
  · exact absurd hl h
  · rw [hl]
    cases he.symm.trans he'
    rfl

/-- The first line that is not readable. -/
theorem exists_unreadable {ls : List (List CodePoint)} (h : ¬ ∀ l ∈ ls, IsReadable l) :
    ∃ front l rest e, ls = front ++ l :: rest ∧ (∀ k ∈ front, IsReadable k) ∧
      ¬ IsReadable l ∧ Json.read (Text.strip l) = .error e := by
  induction ls with
  | nil => exact absurd (List.forall_mem_nil _) h
  | cons l ls ih =>
    by_cases hl : IsReadable l
    · have hls : ¬ ∀ k ∈ ls, IsReadable k := by
        intro hls
        exact h (List.forall_mem_cons.mpr ⟨hl, hls⟩)
      obtain ⟨front, k, rest, e, rfl, hfront, hk⟩ := ih hls
      exact ⟨l :: front, k, rest, e, rfl, List.forall_mem_cons.mpr ⟨hl, hfront⟩, hk⟩
    · rcases readLine_cases l with ⟨hl', -⟩ | ⟨v, hl', -⟩ | ⟨e, -, he, -⟩
      · exact absurd hl' hl
      · exact absurd hl' hl
      · exact ⟨[], l, ls, e, rfl, List.forall_mem_nil _, hl, he⟩

/-- What serving ends with is the fault of the first line that is not readable. -/
theorem ending_serveLines_error {f : Fault} {ls : List (List CodePoint)} :
    (serveLines env t ls).ending = .error f ↔
      ∃ front l rest e, ls = front ++ l :: rest ∧ (∀ k ∈ front, IsReadable k) ∧
        ¬ IsReadable l ∧ Json.read (Text.strip l) = .error e ∧ f = .json e := by
  have hstops : ∀ {front l rest e}, (∀ k ∈ front, IsReadable k) → ¬ IsReadable l →
      Json.read (Text.strip l) = .error e →
      (serveLines env t (front ++ l :: rest)).ending = .error (.json e) := by
    intro front l rest e hfront hl he
    have hgoes := (ending_serveLines env t front).mpr hfront
    rw [serveLines_append, Session.andThen_of_ok hgoes, serveLines_unreadable hl he]
  constructor
  · intro h
    have hsome : ¬ ∀ l ∈ ls, IsReadable l := by
      intro hall
      rw [(ending_serveLines env t ls).mpr hall] at h
      cases h
    obtain ⟨front, l, rest, e, rfl, hfront, hl, he⟩ := exists_unreadable hsome
    refine ⟨front, l, rest, e, rfl, hfront, hl, he, ?_⟩
    exact Except.error.inj (h.symm.trans (hstops hfront hl he))
  · rintro ⟨front, l, rest, e, rfl, hfront, hl, he, rfl⟩
    exact hstops hfront hl he

/-! ## Texts -/

theorem serve_append (env : Environment) (t : FileTree) (a b : Text) :
    serve env t (a ++ "\n" ++ b) = (serve env t a).andThen fun t => serve env t b := by
  have hcut : (a ++ "\n" ++ b).toList = a.toList ++ .char '\n' :: b.toList := by simp
  unfold serve
  rw [hcut, Text.segments_append_sep, serveLines_append]

/-- A line end behind the last line changes nothing. -/
theorem serve_newline (env : Environment) (t : FileTree) (a : Text) :
    serve env t (a ++ "\n") = serve env t a := by
  have hend := serve_append env t a ""
  rw [Text.append_empty] at hend
  have hempty : ∀ t, serve env t "" = ⟨t, [], .ok ()⟩ := fun _ => rfl
  rw [hend]
  cases hending : (serve env t a).ending with
  | error e => exact Session.andThen_of_error hending _
  | ok u =>
    rw [Session.andThen_of_ok hending]
    simp only [hempty, List.append_nil]
    rw [← hending]

/-! ### Written lines and long numbers -/

/-- A written object is the request on its line. -/
theorem requestOn_write {ms : Members} (hfits : Json.Fits Json.nestingLimit (.object ms))
    (hexact : (Value.object ms).IsExact) (hwhole : (Value.object ms).IsWhole) :
    requestOn (Json.write (.object ms)).toList = some (.object ms) := by
  have hstrip : Text.strip (Json.write (.object ms)).toList = (Json.write (.object ms)).toList := by
    rw [Json.write_object]
    refine Text.strip_eq_self ?_ ?_
    · rintro c ⟨⟩
      decide
    · intro c hc
      rw [← List.cons_append, List.getLast?_concat] at hc
      cases hc
      decide
  rw [requestOn_eq_some, hstrip]
  exact Json.read_write_of_isWhole hfits hexact hwhole

/-- A line of digits only is not readable where they are too many. -/
theorem not_isReadable_digits {n : Nat} (h : Json.digitLimit < (Text.digits n).length) :
    Json.read (Text.strip (Text.digits n)) = .error .tooManyDigits ∧
      ¬ IsReadable (Text.digits n) := by
  have hblank : ∀ c ∈ Text.digits n, Text.isBlank c = false := by
    have hdigit : ∀ c, Text.isDigit c = true → Text.isBlank c = false :=
      Text.forall_isDigit (by decide)
    intro c hc
    exact hdigit c ((Text.isDigits_digits n).digit c hc)
  have hread : Json.read (Text.strip (Text.digits n)) = .error .tooManyDigits := by
    rw [Text.strip_eq_self, Json.read_tooManyDigits h]
    · exact fun c hc => hblank c (List.mem_of_mem_head? hc)
    · exact fun c hc => hblank c (List.mem_of_mem_getLast? hc)
  exact ⟨hread, fun hreadable => absurd (hreadable _ hread) (by decide)⟩

/-- A line with a number that is too long ends serving, whatever follows. -/
theorem serve_long_number {n : Nat} (h : Json.digitLimit < (Text.digits n).length)
    (env : Environment) (t : FileTree) (rest : Text) :
    serve env t (Text.ofList (Text.digits n) ++ "\n" ++ rest) =
      ⟨t, [], .error (.json .tooManyDigits)⟩ := by
  obtain ⟨hread, hunreadable⟩ := not_isReadable_digits h
  have hnewline : .char '\n' ∉ Text.digits n := by
    intro hmem
    exact absurd ((Text.isDigits_digits n).digit _ hmem) (by decide)
  have hstart : serve env t (Text.ofList (Text.digits n)) =
      ⟨t, [], .error (.json .tooManyDigits)⟩ := by
    rw [serve, Text.toList_ofList, Text.segments_of_not_mem hnewline]
    exact serveLines_unreadable hunreadable hread []
  rw [serve_append, hstart]
  exact Session.andThen_of_error rfl _

/-! ## Getting to the end -/

/-- The line asks what the generator says of itself. -/
def AsksManifest (line : List CodePoint) (id : Value) : Prop :=
  ∃ v, requestOn line = some v ∧ v.memberD "method" .null = .text "getManifest" ∧
    v.memberD "id" .null = id

theorem response_getManifest (h : v.memberD "method" .null = .text "getManifest") :
    (handle env t v).response = ⟨v.memberD "id" .null, .ok manifest⟩ := by
  obtain ⟨ms, rfl⟩ := Value.object_of_memberD_text h
  simp only [handle, answerMethod, isText_iff.mpr h, if_true]

/-- A request for what the generator says of itself. -/
def manifestRequest : Value :=
  .object [("id", .int 1), ("method", .text "getManifest")]

theorem asksManifest_manifestRequest :
    AsksManifest (Json.write manifestRequest).toList (.int 1) := by
  refine ⟨manifestRequest, requestOn_write (.object (by decide) ?_) (.object ?_)
    (.object (by decide) ?_), rfl, rfl⟩
  · simp only [List.mem_cons, List.not_mem_nil, or_false]
    rintro m (rfl | rfl)
    · exact .int (Nat.le_trans (Text.length_digits_le (k := 0) (by decide)) (by decide))
    · exact .text _
  · simp only [List.mem_cons, List.not_mem_nil, or_false]
    rintro m (rfl | rfl)
    · exact .int 1
    · exact .text _
  · simp only [List.mem_cons, List.not_mem_nil, or_false]
    rintro m (rfl | rfl)
    · exact .int 1
    · exact .text (by decide)

/-- **Serving gets to the end of its input exactly if every line is readable**; else it ends with
the fault of the first line that is not. A request behind other lines is answered exactly if these
are all readable. -/
theorem serve_ending (env : Environment) (t : FileTree) (input : Text) :
    ((serve env t input).ending = .ok () ↔
      ∀ l ∈ Text.segments '\n' input.toList, IsReadable l) ∧
    (∀ f, (serve env t input).ending = .error f ↔
      ∃ front l rest e, Text.segments '\n' input.toList = front ++ l :: rest ∧
        (∀ k ∈ front, IsReadable k) ∧ ¬ IsReadable l ∧
        Json.read (Text.strip l) = .error e ∧ f = .json e) ∧
    (∀ before line id, input = before ++ "\n" ++ line → .char '\n' ∉ line.toList →
      AsksManifest line.toList id →
      ((serve env t input).responses = (serve env t before).responses ++ [⟨id, .ok manifest⟩] ↔
        ∀ l ∈ Text.segments '\n' before.toList, IsReadable l)) := by
  refine ⟨ending_serveLines env t _, fun f => ending_serveLines_error, ?_⟩
  rintro before line _ rfl hline ⟨v, hv, hmethod, rfl⟩
  have hlast : ∀ t, (serve env t line).responses = [⟨v.memberD "id" .null, .ok manifest⟩] := by
    intro t
    have hreadable : ∀ l ∈ [line.toList], IsReadable l := by
      simpa using isReadable_of_requestOn hv
    rw [serve, responses_serveLines, Text.segments_of_not_mem hline,
      answered_of_readable hreadable]
    simp [hv, responsesTo, response_getManifest hmethod]
  have hbefore := ending_serveLines env t (Text.segments '\n' before.toList)
  rw [serve_append, ← hbefore]
  change _ ↔ (serve env t before).ending = .ok ()
  cases hending : (serve env t before).ending with
  | error e => simp [Session.andThen_of_error hending]
  | ok u => simp [Session.responses_andThen hending, hlast]

/-- A line that is no JSON keeps no request behind it from its answer. -/
theorem serve_manifest_behind_bracket :
    let t := FileTree.empty "work"
    let line := Json.write manifestRequest
    .char '\n' ∉ line.toList ∧ AsksManifest line.toList (.int 1) ∧
      (serve (environmentOf none) t ("[" ++ "\n" ++ line)).responses =
        (serve (environmentOf none) t "[").responses ++ [⟨.int 1, .ok manifest⟩] := by
  intro t line
  have hnewline : .char '\n' ∉ line.toList := (Json.isPrintable_write _).newline_not_mem
  have hasks := asksManifest_manifestRequest
  have hbefore : ∀ l ∈ Text.segments '\n' ("[" : Text).toList, IsReadable l := by decide +kernel
  exact ⟨hnewline, hasks, ((serve_ending _ t _).2.2 "[" line _ rfl hnewline hasks).mpr hbefore⟩

/-- The least number that is too long, on a line before a request, leaves the request without an
answer. -/
theorem serve_ends_at_long_number :
    let before := Text.ofList (Text.digits (10 ^ Json.digitLimit))
    let session := serve (environmentOf none) (FileTree.empty "work")
      (before ++ "\n" ++ Json.write manifestRequest)
    AsksManifest (Json.write manifestRequest).toList (.int 1) ∧
      session.ending = .error (.json .tooManyDigits) ∧ session.responses = [] := by
  intro before session
  have hsession : session = ⟨_, [], .error (.json .tooManyDigits)⟩ :=
    serve_long_number (Text.lt_length_digits le_rfl) _ _ _
  exact ⟨asksManifest_manifestRequest, congrArg Session.ending hsession,
    congrArg Session.responses hsession⟩

end ModelBindings.Service
