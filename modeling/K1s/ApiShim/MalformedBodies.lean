import K1s.ApiShim.WriteFrame

/-!
# Requests with malformed bodies

The reader of bodies stops where the client stops, and the parser gives an empty
document for everything that it cannot read.  The handlers work with what is left
of a malformed body as with any other document.  This module says which malformed
bodies change the store.
-/

namespace K1s
namespace ApiShim

open Py Program

/-! ## Well-formed bodies -/

/-- `isinstance(value, list)`. -/
def isList : Json → Bool
  | .list _ => true
  | _ => false

/-- The content type of a `PATCH`. -/
def Request.ctype (request : Request) : String := (request.asPatch .null).ctype

/-- The document is of a sort that the request may have as its body: a list for a
JSON patch, a mapping or a list for a patch whose type leaves that open, and else a
mapping. -/
def Request.WellFormed (request : Request) (doc : Json) : Prop :=
  if request.method = .patch ∧ request.ctype = "application/json-patch+json" then
    isList doc = true
  else
    doc.isDict = true ∨ isList doc = true ∧ request.method = .patch ∧
        request.ctype ∈ ["application/json", ""]

/-- The value that a text has as JSON, or else as YAML. -/
def parsed (handler : ShimHandler) (text : String) : Option Json :=
  (jsonLoads text).or (handler.safeLoad text)

/-- The body breaks off, is not UTF-8, or is not the text of a well-formed
document. -/
def Request.Malformed (handler : ShimHandler) (request : Request) : Prop :=
  request.truncated = true ∨ ∃ body, request.readBody = some body ∧
      ∀ text doc, decodeUtf8 body = some text → parsed handler text = some doc →
        ¬ request.WellFormed doc

/-- What the handlers make of a malformed body: the part that has come of one that
breaks off, an empty document, or a JSON patch without operations. -/
def Request.LeftOver (request : Request) (doc : Json) : Prop :=
  request.truncated = true ∨ doc = .dict [] ∨
    request.method = .patch ∧ request.ctype = "application/json-patch+json" ∧ isList doc = false

/-- A malformed body is read as an empty document or as one that is not well
formed. -/
theorem readJson_of_malformed
    {handler : ShimHandler} {request : Request} {body : List UInt8}
    (malformed : ∀ text doc, decodeUtf8 body = some text →
      parsed handler text = some doc → ¬ request.WellFormed doc) :
    readJson handler body = .dict [] ∨ ¬ request.WellFormed (readJson handler body) := by
  unfold readJson
  cases empty : body.isEmpty with
  | true => exact .inl rfl
  | false =>
      simp only [Bool.false_eq_true, if_false]
      cases decoded : decodeUtf8 body with
      | none => exact .inl rfl
      | some text =>
          dsimp only
          cases loaded : jsonLoads text with
          | some document =>
              exact .inr (malformed text document decoded (by simp [parsed, loaded]))
          | none =>
              dsimp only
              cases safe : handler.safeLoad text with
              | none => exact .inl rfl
              | some document =>
                  dsimp only [Json.or]
                  split
                  · exact .inr (malformed text document decoded
                      (by simp [parsed, loaded, safe]))
                  · exact .inl rfl

/-! ## Accepted documents -/

variable {doc : Json}

section Accepted

variable {handler : ShimHandler} {outside : ShimOutside} {token : String}
variable {cached : Option Principal} {world : ShimWorld}

theorem DocRule.Accepts.isDict
    {rule : DocRule} (accepts : rule.Accepts handler outside token cached world doc) :
    doc.isDict = true := by
  obtain ⟨entries, target, write, checked, -⟩ := accepts
  unfold DocRule.checked at checked
  split at checked
  · rfl
  · cases checked

theorem isDict_of_scaleWrite
    {ns : Option String} {name : String} {object : K8sObject} {write : Write}
    (made : scaleWrite ns name doc object = .ok write) : doc.isDict = true := by
  cases doc with
  | dict entries => rfl
  | null | bool | int | float | str | list => cases made

variable {path : String}

/-- A `PUT` stores mappings only. -/
theorem isDict_of_putAccepts
    (accepts : PutAccepts handler outside token cached world path doc) :
    doc.isDict = true := by
  unfold PutAccepts at accepts
  split at accepts
  · exact accepts.elim
  · exact accepts.isDict
  · obtain ⟨object, write, -, made⟩ := accepts
    exact isDict_of_scaleWrite made

/-- A `POST` stores mappings only. -/
theorem isDict_of_postAccepts
    (accepts : PostAccepts handler outside token cached world path doc) :
    doc.isDict = true := by
  unfold PostAccepts at accepts
  split at accepts
  · exact accepts.elim
  · obtain ⟨entries, md, name, named, rfl, -⟩ := accepts
    rfl
  · exact accepts.isDict

variable {base merged : Dict}

theorem applyPatchMerge_of_merged
    {request : PatchRequest} (made : request.merged base = .ok merged) :
    request.applyPatchMerge base = .ok (.dict merged) := by
  unfold PatchRequest.merged at made
  split at made
  · cases made
  · next patched =>
      rw [patched, Except.ok.inj made]
  · cases made

/-- A patch that is merged is a mapping, a list of operations, or sent as a JSON
patch. -/
theorem shape_of_merged {request : PatchRequest} (made : request.merged base = .ok merged) :
    request.ctype = "application/json-patch+json" ∨ request.patch.isDict = true ∨
      isList request.patch = true ∧ request.ctype ∈ ["application/json", ""] := by
  by_cases json : request.ctype = "application/json-patch+json"
  · exact .inl json
  · have patched := applyPatchMerge_of_merged made
    unfold PatchRequest.applyPatchMerge at patched
    rw [if_neg json] at patched
    cases patch : request.patch with
    | dict entries => exact .inr (.inl rfl)
    | list ops =>
        rw [patch] at patched
        dsimp only at patched
        split at patched
        · next unsettled => exact .inr (.inr ⟨rfl, unsettled⟩)
        · split at patched <;> cases patched
    | null | bool | int | float | str =>
        rw [patch] at patched
        dsimp only at patched
        split at patched
        · cases patched
        · split at patched <;> cases patched

/-- Whatever is patched or created by a patch, the patch has been merged. -/
theorem exists_merged_of_patchAccepts
    {request : PatchRequest} (accepts : PatchAccepts handler outside world path request) :
    ∃ base merged, request.merged base = .ok merged := by
  obtain ⟨route, -, accepts⟩ := accepts
  split at accepts
  · cases route with
    | core path =>
        obtain ⟨write, made⟩ := accepts
        obtain ⟨base, -, made⟩ := bind_eq_ok.mp made
        obtain ⟨merged, patched, -⟩ := bind_eq_ok.mp made
        exact ⟨base, merged, patched⟩
    | custom path crd =>
        obtain ⟨write, made⟩ := accepts
        obtain ⟨base, -, made⟩ := bind_eq_ok.mp made
        obtain ⟨merged, patched, -⟩ := bind_eq_ok.mp made
        exact ⟨base, merged, patched⟩
    | extended kind path =>
        obtain ⟨base, after, write, -, made⟩ := accepts
        obtain ⟨merged, patched, -⟩ := bind_eq_ok.mp made
        exact ⟨base.entries, merged, patched⟩
  · obtain ⟨write, made⟩ := accepts
    unfold PatchRoute.create at made
    split at made
    · split at made
      · obtain ⟨merged, patched, -⟩ := bind_eq_ok.mp made
        exact ⟨[], merged, patched⟩
      · cases made
    · cases made

end Accepted

/-! ## Requests -/

section Requests

variable (handler : ShimHandler) (outside : ShimOutside) (request : Request)
variable (world : ShimWorld)

/-- The handler of the method stores the document. -/
def Accepted (cached : Option Principal) (entered : ShimWorld) (doc : Json) : Prop :=
  match request.method with
  | .put => PutAccepts handler outside request.token cached entered request.path doc
  | .patch => PatchAccepts handler outside entered request.path (request.asPatch doc)
  | .post =>
      streamPath request.path = none ∧ answersOnly request.path = false ∧
        PostAccepts handler outside request.token cached entered request.path doc
  | .get | .delete => False

/-- The role that the gate of the method asks for. -/
def Request.gateRole (request : Request) : Role :=
  match request.method with
  | .post => postRole request
  | _ => .read

/-- The request passes the gate, and what is left of its body is stored. -/
def StoresLeftOver : Prop :=
  ∃ cached entered doc, runAlone (ShimOp.execute outside)
      (authz handler request.gateRole request.token) world = (some (some cached), entered) ∧
    request.document handler = some doc ∧ request.LeftOver doc ∧
    Accepted handler outside request cached entered doc

variable {handler outside request world}

variable {entered : ShimWorld}

/-- A document that is stored is well formed, or a JSON patch that is no list. -/
theorem shape_of_accepted
    {cached : Option Principal} (accepted : Accepted handler outside request cached entered doc) :
    request.WellFormed doc ∨
      request.method = .patch ∧ request.ctype = "application/json-patch+json" ∧
        isList doc = false := by
  unfold Accepted at accepted
  unfold Request.WellFormed
  cases method : request.method with
  | get => simp [method] at accepted
  | delete => simp [method] at accepted
  | put =>
      rw [method] at accepted
      simp [isDict_of_putAccepts accepted]
  | post =>
      rw [method] at accepted
      simp [isDict_of_postAccepts accepted.2.2]
  | patch =>
      rw [method] at accepted
      obtain ⟨base, merged, made⟩ := exists_merged_of_patchAccepts accepted
      have shape : request.ctype = "application/json-patch+json" ∨ doc.isDict = true ∨
          isList doc = true ∧ request.ctype ∈ ["application/json", ""] :=
        shape_of_merged made
      by_cases json : request.ctype = "application/json-patch+json"
      · cases isList doc <;> simp [json]
      · simpa [json] using shape.resolve_left json

/-- What is stored of a malformed body is left over of it. -/
theorem leftOver_of_accepted
    {cached : Option Principal} (malformed : request.Malformed handler)
    (given : request.document handler = some doc)
    (accepted : Accepted handler outside request cached entered doc) :
    request.LeftOver doc := by
  rcases malformed with truncated | ⟨body, read, malformed⟩
  · exact .inl truncated
  · rw [Request.document, read, Option.map_some, Option.some.injEq] at given
    subst given
    refine .inr ?_
    rcases readJson_of_malformed malformed with empty | illFormed
    · exact .inl empty
    · exact .inr ((shape_of_accepted accepted).resolve_left illFormed)

/-- A `POST`, `PUT` or `PATCH` changes the store exactly when it passes the gate and
its document is accepted. -/
theorem leads_changes_iff (writes : request.method ∈ [Method.post, .put, .patch]) :
    Leads (ShimOp.execute outside) (fun decision _ => decision.Changes world.store)
        (decideRequest handler request) world ↔
      ∃ cached entered doc, runAlone (ShimOp.execute outside)
          (authz handler request.gateRole request.token) world = (some (some cached), entered) ∧
        request.document handler = some doc ∧
        Accepted handler outside request cached entered doc := by
  have reports := reports_changes world.store
  unfold decideRequest Request.gateRole Accepted
  cases method : request.method with
  | get => simp [method] at writes
  | delete => simp [method] at writes
  | put =>
      refine (leads_authz_iff reports .read _).trans ?_
      refine exists_congr fun cached => exists_congr fun entered => ?_
      simp only [bind_eq, leads_andThen, leads_ofOption, leads_putDecision_iff, exists_and_left]
  | patch =>
      refine (leads_authz_iff reports .read _).trans ?_
      refine exists_congr fun cached => exists_congr fun entered => ?_
      simp only [bind_eq, leads_andThen, leads_ofOption, leads_patchDecision_iff, exists_and_left]
  | post =>
      refine (leads_authz_iff reports (postRole request) _).trans ?_
      refine exists_congr fun cached => exists_congr fun entered => ?_
      rw [leads_createDecision_iff, ← exists_and_left]
      grind

/-- A request with a malformed body leaves the store as it is exactly when what is
left of the body is not stored. -/
theorem malformed_sameRows_iff
    (writes : request.method ∈ [Method.post, .put, .patch])
    (malformed : request.Malformed handler) :
    (afterRequest handler outside request world).store.SameRows world.store ↔
      ¬ StoresLeftOver handler outside request world := by
  rw [sameRows_afterRequest_iff, leads_changes_iff writes]
  refine not_congr (exists_congr fun cached => exists_congr fun entered =>
    exists_congr fun doc => and_congr_right fun _ => and_congr_right fun given => ?_)
  exact ⟨fun accepted => ⟨leftOver_of_accepted malformed given accepted, accepted⟩, And.right⟩

end Requests

/-! ## A byte that is not text -/

/-- A request of an administrator with a body of one byte that is not UTF-8. -/
def garbled (request : Request) : Request :=
  { request with
    authorization := some "Bearer admin-token"
    contentLength := some "1"
    rfile := [255] }

theorem malformed_of_readBody
    {request : Request} (read : request.readBody = some [255])
    (handler : ShimHandler) : request.Malformed handler := by
  refine .inr ⟨[255], read, fun text doc decoded => ?_⟩
  have undecodable : decodeUtf8 [255] = none := by
    decide +kernel
  rw [undecodable] at decoded
  cases decoded

/-- Without a name nothing is created. -/
theorem sameRows_garbledCreate :
    (afterRequest openHandler stillOutside (garbled createSecret) dbSecret).store.SameRows
        dbSecret.store ∧
      ¬ StoresLeftOver openHandler stillOutside (garbled createSecret) dbSecret := by
  have refused : ((runAlone (ShimOp.execute stillOutside)
      (decideRequest openHandler (garbled createSecret)) dbSecret).1.any fun decision =>
        match decision with
        | .respond _ => true
        | _ => false) = true := by
    decide +kernel
  have sameRows : (afterRequest openHandler stillOutside (garbled createSecret)
      dbSecret).store.SameRows dbSecret.store := by
    rw [sameRows_afterRequest_iff, leads_iff_runAlone]
    rintro ⟨decision, after, ran, changes⟩
    rw [ran] at refused
    cases decision with
    | respond status => exact changes
    | answer | upsert | delete | deleteAll => simp at refused
  refine ⟨sameRows, (malformed_sameRows_iff (by decide) ?_).mp sameRows⟩
  exact malformed_of_readBody (by decide +kernel) openHandler

/-- An unreadable document takes the place of a secret. -/
theorem not_sameRows_garbledOverwrite :
    (garbled overwriteSecret).Malformed openHandler ∧
      ¬ (afterRequest openHandler stillOutside (garbled overwriteSecret)
        dbSecret).store.SameRows dbSecret.store := by
  refine ⟨malformed_of_readBody (by decide +kernel) openHandler, fun same => ?_⟩
  exact absurd (same ⟨⟨"", "v1", "secrets"⟩, "default", "db"⟩) (by decide +kernel)

end ApiShim
end K1s
