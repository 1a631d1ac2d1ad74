import ModelBindings.Proofs.Package.FileName
import ModelBindings.Proofs.Package.Write
import ModelBindings.Service

/-!
# What serving leaves on the disk

A request is answered on the tree that the requests before it left. Serving is a fold over the
requests that are answered, so what holds after each answer holds at every point between two
requests.

* `Service.serve_tree` : the tree that serving leaves is that after the last request answered.
* `Service.Generates` : a request for generation asks for a text at a place.
* `Service.serve_files` : between two requests each file is as it was at the start, or holds all of
  a text that one of the requests answered so far asked for at this place; no file is gone, and no
  temporary file is left.
-/

set_option autoImplicit false

namespace ModelBindings.Service

open FileTree (UpdatedBy)

/-! ## Requests that are answered -/

/-- The requests in lines that are answered, up to where serving ends. -/
def answered : List (List CodePoint) → List Value
  | [] => []
  | l :: r =>
    match readLine l with
    | .blank | .malformed _ => answered r
    | .unreadable _ => []
    | .request v => v :: answered r

/-- The tree after requests. -/
def treeAfter (env : Environment) (t : FileTree) (requests : List Value) : FileTree :=
  requests.foldl (fun t v => (handle env t v).tree) t

theorem serveLines_tree (env : Environment) (t : FileTree) (ls : List (List CodePoint)) :
    (serveLines env t ls).tree = treeAfter env t (answered ls) := by
  induction ls generalizing t with
  | nil => rfl
  | cons l r ih =>
    unfold serveLines answered
    cases readLine l with
    | blank => exact ih t
    | malformed cs => exact ih t
    | unreadable e => rfl
    | request v => exact ih _

/-- The requests of a text that are answered. -/
def requestsOf (input : Text) : List Value :=
  answered (Text.segments '\n' input.toList)

theorem serve_tree (env : Environment) (t : FileTree) (input : Text) :
    (serve env t input).tree = treeAfter env t (requestsOf input) :=
  serveLines_tree env t _

/-! ## One request -/

/-- A request for generation asks for a text at a place: the text is that of a file of its package,
and the place is that of the file's name in its directory. -/
def Generates (env : Environment) (t : FileTree) (request : Value) (k : Location)
    (text : Text) : Prop :=
  ∃ order d, (request.memberD "method" .null).isText "generate" = true ∧
    readOrder env (orEmpty (request.memberD "params" .null)) = .ok order ∧
    (Datamodel.read order.document).result = .ok d ∧
    Package.Belongs order.settings d .null t k text

theorem updatedBy_generate (env : Environment) (t : FileTree) (params : Value) :
    UpdatedBy (fun k s => ∃ order d, readOrder env params = .ok order ∧
        (Datamodel.read order.document).result = .ok d ∧
        Package.Belongs order.settings d .null t k s)
      t (generate env t params).tree := by
  unfold generate
  split
  · exact .refl _ t
  · rename_i order ho
    cases hd : (Datamodel.read order.document).result with
    | error e =>
      rw [Outcome.tree_bind_of_error (x := .ofTraced t (Datamodel.read order.document)) hd]
      exact .refl _ t
    | ok d =>
      rw [Outcome.tree_bind_of_ok (x := .ofTraced t (Datamodel.read order.document)) hd]
      exact (Package.updatedBy_write order.settings d .null t).mono
        fun k s hb => ⟨order, d, ho, hd, hb⟩

theorem tree_answerRun (id : Value) (x : Outcome (List Path)) :
    (answerRun id x).tree = x.tree := by
  unfold answerRun
  split <;> rfl

/-- A request puts texts where it asks for them, and does nothing else to files. -/
theorem updatedBy_handle (env : Environment) (t : FileTree) (request : Value) :
    UpdatedBy (Generates env t request) t (handle env t request).tree := by
  unfold handle
  split
  · unfold answerMethod
    dsimp only
    split
    · exact .refl _ t
    · split
      · rename_i hm
        rw [tree_answerRun]
        refine (updatedBy_generate env t _).mono ?_
        rintro k s ⟨order, d, ho, hd, hb⟩
        exact ⟨order, d, hm, ho, hd, hb⟩
      · exact .refl _ t
  · exact .refl _ t

theorem generates_of_current {env : Environment} {t t' : FileTree} (h : t'.current = t.current)
    {request : Value} {k : Location} {s : Text} (hg : Generates env t' request k s) :
    Generates env t request k s := by
  obtain ⟨order, d, hm, ho, hd, out, files, name, hout, hf, hn, hk⟩ := hg
  exact ⟨order, d, hm, ho, hd, out, files, name, hout, hf, hn,
    hk.trans (FileTree.placeOf_of_current h _)⟩

/-! ## Runs -/

theorem updatedBy_treeAfter (env : Environment) (t : FileTree) (requests : List Value) :
    UpdatedBy (fun k s => ∃ v ∈ requests, Generates env t v k s) t
      (treeAfter env t requests) := by
  induction requests generalizing t with
  | nil => exact .refl _ t
  | cons v r ih =>
    have hv := updatedBy_handle env t v
    refine (hv.mono fun k s hg => ⟨v, List.mem_cons_self, hg⟩).trans ?_
    refine (ih (handle env t v).tree).mono ?_
    rintro k s ⟨w, hw, hg⟩
    exact ⟨w, List.mem_cons_of_mem _ hw, generates_of_current hv.current_eq hg⟩

/-- A text that a request asks for has a place with the name of a source file or the marker. -/
theorem name_of_generates {env : Environment} {t : FileTree} {v : Value} {k : Location}
    {s : Text} (h : Generates env t v k s) :
    (".py" : Text).toList <:+ k.name.toList ∨ ("py.typed" : Text).toList <:+ k.name.toList := by
  obtain ⟨order, d, _, _, _, out, files, name, _, hf, hn, rfl⟩ := h
  rcases Package.generate_fileName hf _ hn with hs | hs
  · exact .inl (FileTree.name_placeOf_join hs (by decide) (by decide) t out)
  · refine .inr (FileTree.name_placeOf_join ?_ (by decide) (by decide) t out)
    rw [show name = Package.markerName from hs]
    exact List.suffix_refl _

/-- **Between two requests each file is as it was or holds all of a text that was asked for.** -/
theorem serve_files (env : Environment) (t : FileTree) (input : Text) :
    (serve env t input).tree = treeAfter env t (requestsOf input) ∧
    ∀ done, done <+: requestsOf input →
      let now := treeAfter env t done
      (∀ k c, now.lookup? k = some (.file c) → t.lookup? k = some (.file c) ∨
        (∃ v ∈ done, ∃ s, c = .text s ∧ Generates env t v k s)) ∧
      (∀ k c, t.lookup? k = some (.file c) → ∃ c', now.lookup? k = some (.file c')) ∧
      (∀ k c, now.lookup? k = some (.file c) → (∀ c', t.lookup? k ≠ some (.file c')) →
        ¬ (".tmp" : Text).toList <:+ k.name.toList) := by
  refine ⟨serve_tree env t input, fun done _ => ?_⟩
  have h := updatedBy_treeAfter env t done
  have hfiles : ∀ k c, (treeAfter env t done).lookup? k = some (.file c) →
      t.lookup? k = some (.file c) ∨ (∃ v ∈ done, ∃ s, c = .text s ∧ Generates env t v k s) := by
    intro k c hk
    rcases h.files k c hk with hold | ⟨s, hc, v, hv, hg⟩
    · exact .inl hold
    · exact .inr ⟨v, hv, s, hc, hg⟩
  refine ⟨hfiles, h.kept, fun k c hk hnew htmp => ?_⟩
  rcases hfiles k c hk with hold | ⟨v, _, s, _, hg⟩
  · exact hnew c hold
  · rcases name_of_generates hg with hs | hs
    · exact absurd (List.suffix_of_suffix_length_le hs htmp (by decide)) (by decide)
    · exact absurd (List.suffix_of_suffix_length_le htmp hs (by decide)) (by decide)

end ModelBindings.Service
