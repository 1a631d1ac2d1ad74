import ModelBindings.Proofs.Outcome
import ModelBindings.Proofs.Value
import ModelBindings.Service

/-!
# What a request is answered

Whatever a request is, it is answered: a request for generation that fails is answered with the
fault that stopped it, and the answer to any other request hangs on nothing but its method.

* `Service.Stops` : the fault that stops a run for generation, by the step it comes from.
* `Service.generate_eq_error` : these are the faults that a run ends with, and there are no others.
* `Service.Answered` : what a request is answered, by what it asks for.
* `Service.handle_response` : which number an error has, and which kind of fault it names.
-/

set_option autoImplicit false

namespace ModelBindings.Service

variable {env : Environment} {t : FileTree} {params request : Value} {f : Fault}

/-! ## Runs that fail -/

/-- A run for generation is stopped by a fault: its parameters cannot be read, its document is no
data model, or the package of the data model cannot be written. -/
inductive Stops (env : Environment) (t : FileTree) (params : Value) : Fault → Prop where
  | order {f : Fault} (h : readOrder env params = .error f) : Stops env t params f
  | document {f : Fault} {order : Order} (horder : readOrder env params = .ok order)
    (h : (Datamodel.read order.document).result = .error f) : Stops env t params f
  | package {f : Fault} {order : Order} {d : Datamodel} (horder : readOrder env params = .ok order)
    (hdocument : (Datamodel.read order.document).result = .ok d)
    (h : (Package.write order.settings d .null t).result = .error f) : Stops env t params f

theorem generate_eq_error :
    (generate env t params).result = .error f ↔ Stops env t params f := by
  unfold generate
  split
  · rename_i e horder
    constructor
    · intro h
      cases h
      exact .order horder
    · rintro (h | ⟨h, -⟩ | ⟨h, -, -⟩) <;> rw [horder] at h <;> cases h
      rfl
  · rename_i order horder
    rw [Outcome.result_bind_eq_error]
    constructor
    · rintro (h | ⟨d, hdocument, h⟩)
      · exact .document horder h
      · exact .package horder hdocument h
    · rintro (h | ⟨h, hf⟩ | ⟨h, hdocument, hf⟩) <;> rw [horder] at h <;> cases h
      · exact .inl hf
      · exact .inr ⟨_, hdocument, hf⟩

theorem Stops.eq {g : Fault} (hf : Stops env t params f) (hg : Stops env t params g) : f = g :=
  Except.error.inj ((generate_eq_error.mpr hf).symm.trans (generate_eq_error.mpr hg))

/-! ## Responses -/

namespace Response

variable {r : Response} {v : Value} {e : Refusal}

theorem at?_of_ok (h : r.outcome = .ok v) (path : List Text) :
    r.toValue.at? ["result"] = some v ∧ r.toValue.at? (("error" : Text) :: path) = none := by
  unfold toValue outcomeMember
  rw [h]
  exact ⟨rfl, rfl⟩

theorem at?_of_error (h : r.outcome = .error e) (path : List Text) :
    r.toValue.at? ["result"] = none ∧
      r.toValue.at? (("error" : Text) :: path) = (e.toValue (.text e.message)).at? path := by
  unfold toValue outcomeMember
  rw [h]
  exact ⟨rfl, rfl⟩

theorem isSome_result (r : Response) :
    (r.toValue.at? ["result"]).isSome = !(r.toValue.at? ["error"]).isSome := by
  cases h : r.outcome with
  | ok v => rw [(at?_of_ok h []).1, (at?_of_ok h []).2]; rfl
  | error e => rw [(at?_of_error h []).1, (at?_of_error h []).2]; rfl

theorem at?_code {n : Int} :
    r.toValue.at? ["error", "code"] = some (.int n) ↔
      ∃ e, r.outcome = .error e ∧ e.code = n := by
  cases h : r.outcome with
  | ok v => simp [(at?_of_ok h ["code"]).2]
  | error e =>
    have hcode : (e.toValue (.text e.message)).at? ["code"] = some (.int e.code) := rfl
    simp [(at?_of_error h ["code"]).2, hcode]

theorem at?_kind {kind : Value} :
    r.toValue.at? ["error", "data", "type"] = some kind ↔
      ∃ f, r.outcome = .error (.failed f) ∧ kind = .text f.kind := by
  cases h : r.outcome with
  | ok v => simp [(at?_of_ok h ["data", "type"]).2]
  | error e =>
    rw [(at?_of_error h ["data", "type"]).2]
    cases e with
    | failed f =>
      have hkind : ((Refusal.failed f).toValue (.text (Refusal.failed f).message)).at?
        ["data", "type"] = some (.text f.kind) := rfl
      simp [hkind, eq_comm]
    | _ => simp [Refusal.toValue, Refusal.data, Value.at?, Value.member?, Value.members,
      Association.get?]

end Response

/-! ## Requests -/

/-- What a request is answered, by what it asks for. -/
inductive Answered (env : Environment) (t : FileTree) (request : Value) :
    Except Refusal Value → Prop where
  | notObject (h : ∀ ms, request ≠ .object ms) :
    Answered env t request (.error (.notObject request))
  | manifest {ms : Members} (hobject : request = .object ms)
    (hmethod : request.memberD "method" .null = .text "getManifest") :
    Answered env t request (.ok manifest)
  | generated {ms : Members} (hobject : request = .object ms)
    (hmethod : request.memberD "method" .null = .text "generate")
    (h : ∀ f, ¬ Stops env t (orEmpty (request.memberD "params" .null)) f) :
    Answered env t request (.ok .null)
  | failed {ms : Members} {f : Fault} (hobject : request = .object ms)
    (hmethod : request.memberD "method" .null = .text "generate")
    (h : Stops env t (orEmpty (request.memberD "params" .null)) f) :
    Answered env t request (.error (.failed f))
  | unknownMethod {ms : Members} (hobject : request = .object ms)
    (hmanifest : request.memberD "method" .null ≠ .text "getManifest")
    (hgenerate : request.memberD "method" .null ≠ .text "generate") :
    Answered env t request (.error (.unknownMethod (request.memberD "method" .null)))

theorem isText_iff {v : Value} {s : Text} : v.isText s = true ↔ v = .text s := by
  cases v with
  | text s' => simp [Value.isText]
  | _ => simp [Value.isText]

theorem outcome_answerRun (id : Value) (x : Outcome (List Path)) :
    (answerRun id x).response.outcome =
      match x.result with
      | .ok _ => .ok .null
      | .error f => .error (.failed f) := by
  unfold answerRun
  cases x.result <;> rfl

theorem answered_handle (env : Environment) (t : FileTree) (request : Value) :
    Answered env t request (handle env t request).response.outcome := by
  unfold handle
  split
  · rename_i ms
    dsimp only
    unfold answerMethod
    by_cases hmanifest : (Value.object ms).memberD "method" .null = .text "getManifest"
    · rw [if_pos (isText_iff.mpr hmanifest)]
      exact .manifest rfl hmanifest
    rw [if_neg (mt isText_iff.mp hmanifest)]
    by_cases hgenerate : (Value.object ms).memberD "method" .null = .text "generate"
    · rw [if_pos (isText_iff.mpr hgenerate), outcome_answerRun]
      cases hresult :
        (generate env t (orEmpty ((Value.object ms).memberD "params" .null))).result with
      | ok paths =>
        refine .generated rfl hgenerate fun f hf => ?_
        rw [generate_eq_error.mpr hf] at hresult
        cases hresult
      | error f => exact .failed rfl hgenerate (generate_eq_error.mp hresult)
    · rw [if_neg (mt isText_iff.mp hgenerate)]
      exact .unknownMethod rfl hmanifest hgenerate
  · rename_i hobject
    exact .notObject hobject

theorem id_handle (env : Environment) (t : FileTree) (request : Value) :
    (handle env t request).response.id = request.memberD "id" .null := by
  unfold handle
  split
  · dsimp only
    unfold answerMethod answerRun
    split
    · rfl
    · split
      · split <;> rfl
      · rfl
  · rename_i hobject
    cases request with
    | object ms => exact absurd rfl (hobject ms)
    | _ => rfl

theorem notObject_iff : (∃ v, (handle env t request).response.outcome = .error (.notObject v)) ↔
    ∀ ms, request ≠ .object ms := by
  have hanswered := answered_handle env t request
  generalize (handle env t request).response.outcome = outcome at hanswered
  cases hanswered with
  | notObject h => simp [h]
  | manifest hobject _ => simp [hobject]
  | generated hobject _ _ => simp [hobject]
  | failed hobject _ _ => simp [hobject]
  | unknownMethod hobject _ _ => simp [hobject]

theorem unknownMethod_iff :
    (∃ v, (handle env t request).response.outcome = .error (.unknownMethod v)) ↔
      (∃ ms, request = .object ms) ∧ request.memberD "method" .null ≠ .text "getManifest" ∧
        request.memberD "method" .null ≠ .text "generate" := by
  have hanswered := answered_handle env t request
  generalize (handle env t request).response.outcome = outcome at hanswered
  cases hanswered with
  | notObject h => simp [h]
  | manifest _ hmethod => simp [hmethod]
  | generated _ hmethod _ => simp [hmethod]
  | failed _ hmethod _ => simp [hmethod]
  | unknownMethod hobject hmanifest hgenerate =>
    simp only [ne_eq, hmanifest, hgenerate, not_false_eq_true, and_self, and_true]
    exact iff_of_true ⟨_, rfl⟩ ⟨_, hobject⟩

theorem failed_iff : (handle env t request).response.outcome = .error (.failed f) ↔
    request.memberD "method" .null = .text "generate" ∧
      Stops env t (orEmpty (request.memberD "params" .null)) f := by
  have hanswered := answered_handle env t request
  generalize (handle env t request).response.outcome = outcome at hanswered
  cases hanswered with
  | notObject h =>
    refine iff_of_false (by simp) fun hf => ?_
    obtain ⟨ms, hms⟩ := Value.object_of_memberD_text hf.1
    exact h ms hms
  | manifest _ hmethod => simp [hmethod]
  | generated _ hmethod h => simp [h]
  | @failed _ g _ hmethod h =>
    constructor
    · intro hg
      cases hg
      exact ⟨hmethod, h⟩
    · rintro ⟨-, hf⟩
      rw [h.eq hf]
  | unknownMethod _ _ hgenerate => simp [hgenerate]

/-- **Every request has a response, and its error says why there is no result.** A request that is
no object, a method that is not there and a run that was stopped are told apart by number; a run
that was stopped also has the name of the kind of its fault, and nothing else has one. -/
theorem handle_response (env : Environment) (t : FileTree) (request : Value) :
    let response := (handle env t request).response.toValue
    let method := request.memberD "method" .null
    let params := orEmpty (request.memberD "params" .null)
    response.at? ["jsonrpc"] = some (.text "2.0") ∧
    response.at? ["id"] = some (request.memberD "id" .null) ∧
    (response.at? ["result"]).isSome = !(response.at? ["error"]).isSome ∧
    (response.at? ["error", "code"] = some (.int (-32600)) ↔ ∀ ms, request ≠ .object ms) ∧
    (response.at? ["error", "code"] = some (.int (-32601)) ↔
      (∃ ms, request = .object ms) ∧ method ≠ .text "getManifest" ∧ method ≠ .text "generate") ∧
    (response.at? ["error", "code"] = some (.int (-32000)) ↔
      method = .text "generate" ∧ ∃ f, Stops env t params f) ∧
    (∀ kind, response.at? ["error", "data", "type"] = some kind ↔
      method = .text "generate" ∧ ∃ f, Stops env t params f ∧ kind = .text f.kind) := by
  intro response method params
  refine ⟨rfl, congrArg some (id_handle env t request), Response.isSome_result _, ?_⟩
  refine ⟨?_, ?_, ?_, fun kind => ?_⟩
  · rw [Response.at?_code, ← @notObject_iff env t request]
    constructor
    · rintro ⟨e, he, hcode⟩
      cases e with
      | notObject v => exact ⟨v, he⟩
      | _ => cases hcode
    · rintro ⟨v, hv⟩
      exact ⟨_, hv, rfl⟩
  · rw [Response.at?_code, ← @unknownMethod_iff env t request]
    constructor
    · rintro ⟨e, he, hcode⟩
      cases e with
      | unknownMethod v => exact ⟨v, he⟩
      | _ => cases hcode
    · rintro ⟨v, hv⟩
      exact ⟨_, hv, rfl⟩
  · rw [Response.at?_code, ← exists_and_left]
    constructor
    · rintro ⟨e, he, hcode⟩
      cases e with
      | failed f => exact ⟨f, failed_iff.mp he⟩
      | _ => cases hcode
    · rintro ⟨f, hf⟩
      exact ⟨_, failed_iff.mpr hf, rfl⟩
  · rw [Response.at?_kind, ← exists_and_left]
    exact exists_congr fun f => by rw [failed_iff, and_assoc]

/-- A number is no generator, whatever the tree. -/
example (env : Environment) (t : FileTree) :
    (handle env t (.object [("method", .text "generate"),
      ("params", .object [("generator", .int 1)])])).response.toValue.at?
        ["error", "data", "type"] = some (.text "AttributeError") := rfl

end ModelBindings.Service
