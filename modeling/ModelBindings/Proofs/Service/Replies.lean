import ModelBindings.Proofs.Service.Lines
import ModelBindings.Proofs.Text.Lines

/-!
# What is put out for a request

Each request has one line of output, which a client can read: there is no line end inside it, and
it is read back as a response with the id of the request. Only where the two halves of a surrogate
pair are next to each other in the id does the client find the character that they spell.

* `Response.isExact_toValue`, `Response.fits_toValue` : a response can be read if its id can.
* `Service.IsReplyTo` : a line of output is the reply to a request on a tree.
* `Service.serve_replies` : where every line of the input is readable, serving puts out the replies
  to its requests, in order and one on a line.
-/

set_option autoImplicit false

namespace ModelBindings.Service

variable {env : Environment} {t : FileTree} {request : Value} {depth : Nat}

/-! ## Responses that can be read -/

theorem isExact_refusal (e : Refusal) : (e.toValue (.text e.message)).IsExact := by
  have hdata : ∀ m ∈ e.data, m.2.IsExact := by
    cases e with
    | failed f =>
      simp only [Refusal.data, List.mem_singleton, forall_eq]
      exact .object (by simpa using .text f.kind)
    | _ =>
      intro m hm
      cases hm
  refine .object ?_
  rw [List.forall_mem_append]
  exact ⟨by simpa using ⟨.int e.code, .text e.message⟩, hdata⟩

theorem fits_refusal (e : Refusal) : Json.Fits (depth + 2) (e.toValue (.text e.message)) := by
  have hcode : (Text.digits e.code.natAbs).length ≤ Json.digitLimit := by
    have hle : e.code.natAbs < 10 ^ (4 + 1) := by
      cases e <;> simp [Refusal.code]
    exact Nat.le_trans (Text.length_digits_le hle) (by decide)
  have hdata : ∀ m ∈ e.data, Json.Fits (depth + 1) m.2 := by
    cases e with
    | failed f =>
      simp only [Refusal.data, List.mem_singleton, forall_eq]
      exact .object (by simp [Association.keys]) (by simpa using .text f.kind)
    | _ =>
      intro m hm
      cases hm
  refine .object ?_ ?_
  · cases e <;> simp [Refusal.data, Association.keys]
  · rw [List.forall_mem_append]
    exact ⟨by simpa using ⟨.int hcode, .text e.message⟩, hdata⟩

theorem Response.isExact_toValue {r : Response} (hid : r.id.IsExact)
    (hok : ∀ v, r.outcome = .ok v → v.IsExact) : r.toValue.IsExact := by
  have houtcome : r.outcomeMember.2.IsExact := by
    unfold outcomeMember
    cases h : r.outcome with
    | ok v => exact hok v h
    | error e => exact isExact_refusal e
  refine .object ?_
  simpa using ⟨.text "2.0", hid, houtcome⟩

theorem Response.fits_toValue {r : Response} (hid : Json.Fits (depth + 2) r.id)
    (hok : ∀ v, r.outcome = .ok v → Json.Fits (depth + 2) v) :
    Json.Fits (depth + 3) r.toValue := by
  have houtcome : (r.outcomeMember.1 = "result" ∨ r.outcomeMember.1 = "error") ∧
      Json.Fits (depth + 2) r.outcomeMember.2 := by
    unfold outcomeMember
    cases h : r.outcome with
    | ok v => exact ⟨.inl rfl, hok v h⟩
    | error e => exact ⟨.inr rfl, fits_refusal e⟩
  refine .object ?_ ?_
  · rcases houtcome.1 with h | h <;> simp [Association.keys, h]
  · simpa using ⟨.text "2.0", hid, houtcome.2⟩

/-- A result is null or what the generator says of itself. -/
theorem readable_result {v : Value} (h : Answered env t request (.ok v)) (depth : Nat) :
    Json.Fits (depth + 2) v ∧ v.IsExact := by
  cases h with
  | generated => exact ⟨.null, .null⟩
  | manifest =>
    constructor
    · refine .object (by simp [Association.keys]) ?_
      simp only [List.mem_singleton, forall_eq]
      refine .object (by simp [Association.keys]) ?_
      simpa using ⟨.text "Prisma Pydantic Generator", .text "./generated/prisma_models"⟩
    · refine .object ?_
      simp only [List.mem_singleton, forall_eq]
      refine .object ?_
      simpa using ⟨.text "Prisma Pydantic Generator", .text "./generated/prisma_models"⟩

theorem fits_memberD {name : Text} (h : Json.Fits (depth + 1) request) :
    Json.Fits depth (request.memberD name .null) := by
  unfold Value.memberD
  cases hmember : request.member? name with
  | none => exact .null
  | some v =>
    obtain ⟨ms, rfl, hget⟩ := Value.member?_eq_some hmember
    cases h with
    | object _ hmembers => exact hmembers _ (Association.mem_of_get?_eq_some hget)

/-- A response keeps its id where halves of pairs are put together in it. -/
theorem Response.member?_id_joined (r : Response) :
    r.toValue.joined.member? "id" = some r.id.joined := by
  obtain ⟨id, outcome⟩ := r
  cases outcome <;> rfl

/-- The response to a request that was read can be read, if no double stands in the id. -/
theorem read_line (hfits : Json.Fits Json.nestingLimit request)
    (hid : (request.memberD "id" .null).IsExact) :
    Json.read (handle env t request).response.line.toList =
      .ok (handle env t request).response.toValue.joined := by
  have hanswered := answered_handle env t request
  have hid' := id_handle env t request
  generalize (handle env t request).response = r at hanswered hid'
  have hexact : r.toValue.IsExact := by
    refine Response.isExact_toValue (hid' ▸ hid) fun v hv => ?_
    exact (readable_result (hv ▸ hanswered) 0).2
  have hbounds : Json.Fits Json.nestingLimit r.toValue := by
    show Json.Fits (982 + 3) r.toValue
    refine Response.fits_toValue (hid' ▸ fits_memberD hfits) fun v hv => ?_
    exact (readable_result (hv ▸ hanswered) 982).1
  have hend : ∀ c ∈ ("\n" : Text).toList, Json.isSpace c = true := by decide
  rw [Response.line, Text.toList_append]
  exact Json.read_write hbounds hexact hend

/-! ## Replies -/

/-- A line of output is the reply to a request on a tree: the response on one line, and a client
that reads the line finds the id of its request there, with halves of pairs put together. -/
structure IsReplyTo (env : Environment) (t : FileTree) (request : Value) (line : Text) :
    Prop where
  text : line = Json.write (handle env t request).response.toValue ++ "\n"
  printable : Json.IsPrintable (Json.write (handle env t request).response.toValue).toList
  id : (request.memberD "id" .null).IsExact → ∃ v, Json.read line.toList = .ok v ∧
    v.member? "id" = some (request.memberD "id" .null).joined ∧
    ((request.memberD "id" .null).IsWhole → v.member? "id" = some (request.memberD "id" .null))

theorem isReplyTo_line (hfits : Json.Fits Json.nestingLimit request) :
    IsReplyTo env t request (handle env t request).response.line where
  text := rfl
  printable := Json.isPrintable_write _
  id hid := by
    have hmember := (handle env t request).response.member?_id_joined
    rw [id_handle] at hmember
    refine ⟨_, read_line hfits hid, hmember, fun hwhole => ?_⟩
    rw [hmember, Value.joined_of_isWhole (fits_memberD hfits) hwhole]

theorem isLine_text (r : Response) : Text.IsLine r.text :=
  (Json.isPrintable_write r.toValue).newline_not_mem

/-- Cutting the output at its line feeds gives the responses back. -/
theorem cut_output (rs : List Response) :
    Text.cut (Text.concat (rs.map Response.line)) = rs.map Response.text ++ [("" : Text)] := by
  have hclosed : Text.concat (rs.map Response.line) = Text.closed (rs.map Response.text) := by
    rw [Text.closed, List.map_map]
    rfl
  rw [hclosed]
  refine Text.cut_closed fun l hl => ?_
  obtain ⟨r, -, rfl⟩ := List.mem_map.mp hl
  exact isLine_text r

/-- **Where every line is readable, serving puts out the replies to the requests**, in order, one
on a line and each on the tree that the requests before it left, and nothing else changes the tree.
So serving a text in two parts is serving it at once. -/
theorem serve_replies {env : Environment} {t : FileTree} {input : Text}
    (hreadable : ∀ l ∈ Text.segments '\n' input.toList, IsReadable l) :
    let requests := requestsIn input
    let session := serve env t input
    let lines := session.responses.map Response.line
    session.ending = .ok () ∧
    session.tree = treeAfter env t requests ∧
    lines.length = requests.length ∧
    (∀ i request, requests[i]? = some request → ∃ line, lines[i]? = some line ∧
      IsReplyTo env (treeAfter env t (requests.take i)) request line) ∧
    Text.cut (Text.concat lines) = session.responses.map Response.text ++ [("" : Text)] ∧
    (∀ a b, input = a ++ "\n" ++ b →
      let first := serve env t (a ++ "\n")
      let second := serve env first.tree b
      session = ⟨second.tree, first.events ++ second.events, second.ending⟩) := by
  intro requests session lines
  have hanswered : answered (Text.segments '\n' input.toList) = requests :=
    answered_of_readable hreadable
  have hending : session.ending = .ok () := (ending_serveLines env t _).mpr hreadable
  have hresponses : session.responses = responsesTo env t requests := by
    rw [← hanswered]
    exact responses_serveLines env t _
  refine ⟨hending, ?_, ?_, ?_, cut_output _, ?_⟩
  · rw [← hanswered]
    exact serveLines_tree env t _
  · rw [List.length_map, hresponses, length_responsesTo]
  · intro i request hi
    obtain ⟨l, -, hl⟩ := List.mem_filterMap.mp (List.mem_of_getElem? hi)
    have hfits := Json.fits_of_read (requestOn_eq_some.mp hl)
    refine ⟨_, ?_, isReplyTo_line hfits⟩
    rw [List.getElem?_map, hresponses, getElem?_responsesTo, hi]
    rfl
  · rintro a b rfl first second
    have hsplit : session = first.andThen fun t => serve env t b := by
      rw [show first = serve env t a from serve_newline env t a]
      exact serve_append env t a b
    cases hfirst : first.ending with
    | error f =>
      rw [hsplit, Session.andThen_of_error hfirst, hfirst] at hending
      cases hending
    | ok u =>
      rw [hsplit]
      exact Session.andThen_of_ok hfirst _

/-- An id of the two halves of a pair, one of them escaped, comes back as the character that they
spell. -/
theorem serve_joins_halves :
    let low : CodePoint := .ofNat 0xdc80
    let input := "\x7b\"id\": \"\\ud800" ++ Text.ofList [low] ++ "\"\x7d"
    let id := Value.text (.ofList [.ofNat 0xd800, low])
    (∀ l ∈ Text.segments '\n' input.toList, IsReadable l) ∧
      ∃ request, requestsIn input = [request] ∧ request.memberD "id" .null = id ∧ id.IsExact ∧
        ∃ line v, (serve (environmentOf none) (FileTree.empty "work") input).responses.map
            Response.line = [line] ∧
          Json.read line.toList = .ok v ∧
          v.member? "id" = some (.text (.ofList [.ofNat 0x10080])) ∧ v.member? "id" ≠ some id := by
  intro low input id
  have hreadable : ∀ l ∈ Text.segments '\n' input.toList, IsReadable l := by decide +kernel
  have hids : (requestsIn input).map (fun r => (r.memberD "id" .null).isText
      (.ofList [.ofNat 0xd800, low])) = [true] := by decide +kernel
  obtain ⟨request, hrequests, htext⟩ := List.map_eq_singleton_iff.mp hids
  have hid : request.memberD "id" .null = id := isText_iff.mp htext
  have hexact : id.IsExact := .text _
  obtain ⟨l, -, hl⟩ := List.mem_filterMap.mp (hrequests ▸ List.mem_singleton_self request)
  have hfits := Json.fits_of_read (requestOn_eq_some.mp hl)
  have hresponses : (serve (environmentOf none) (FileTree.empty "work") input).responses =
      responsesTo (environmentOf none) (FileTree.empty "work") (requestsIn input) := by
    rw [serve, responses_serveLines, answered_of_readable hreadable]
    rfl
  rw [hrequests] at hresponses
  have hjoined : id.joined = .text (.ofList [.ofNat 0x10080]) := by
    rw [Value.joined]
    exact congrArg Value.text (by decide +kernel)
  have hback : Value.member? (handle (environmentOf none) (FileTree.empty "work")
      request).response.toValue.joined "id" = some (.text (.ofList [.ofNat 0x10080])) := by
    rw [Response.member?_id_joined, id_handle, hid, hjoined]
  refine ⟨hreadable, request, hrequests, hid, hexact, _, _, congrArg _ hresponses,
    read_line hfits (hid ▸ hexact), hback, fun h => ?_⟩
  exact absurd (Value.text.inj (Option.some.inj (hback.symm.trans h))) (by decide)

/-- Replies to lines of which one is blank and one is no JSON. -/
theorem serve_replies_two_requests :
    let input : Text := "[1\n\n7\n\x7b\"id\": \"\\n\"\x7d"
    let session := serve (environmentOf none) (FileTree.empty "work") input
    (∀ l ∈ Text.segments '\n' input.toList, IsReadable l) ∧ session.ending = .ok () ∧
      session.responses.length = 2 := by
  intro input session
  have hreadable : ∀ l ∈ Text.segments '\n' input.toList, IsReadable l := by decide +kernel
  have hcount : (requestsIn input).length = 2 := by decide +kernel
  obtain ⟨hending, -, hlength, -⟩ :=
    @serve_replies (environmentOf none) (FileTree.empty "work") input hreadable
  rw [List.length_map, hcount] at hlength
  exact ⟨hreadable, hending, hlength⟩

end ModelBindings.Service
