import K1s.ApiShim.Carried

/-!
# Readers and the store

Of the handlers only that of `POST` asks for the role `write`; those of `PUT`,
`PATCH` and `DELETE` ask for `read`, which the read token and session tokens of
the role `read` have.  The requests by which a reader changes the store are
therefore those that an administrator would change it by, except that `POST` is
open to readers only while roles are evaluated.
-/

namespace K1s
namespace ApiShim

open Py Program

/-- The token is the configured read token, or a session token of the role `read`
at the time of the request; who it stands for, and the world after it has been
looked at. -/
inductive ReadOnlyToken
    (handler : ShimHandler) (outside : ShimOutside) (token : String)
    (world : ShimWorld) : Principal → ShimWorld → Prop
  | configured
      (principal : Principal)
      (read : handler.readToken = some token)
      (known : configuredPrincipal handler token = some principal) :
      ReadOnlyToken handler outside token world principal world
  | session
      (payload : Json)
      (unknown : configuredPrincipal handler token = none)
      (signed : handler.sessionPayload token = some payload)
      (role : sessionRole payload (outside.clock world.calls) = some "read") :
      ReadOnlyToken handler outside token world (.ofRole "session:read" "read")
        { world with calls := world.calls + 1 }

section Readers

variable (handler : ShimHandler) (outside : ShimOutside) (request : Request)
variable (principal : Principal) (world : ShimWorld)

/-- The requests by which a reader changes the store. -/
def ReaderWrites : Prop :=
  match request.method with
  | .get => GetAccepts handler outside request.token world principal request.path
  | .put =>
      ∃ doc, request.document handler = some doc ∧
        PutAccepts handler outside request.token (some principal) world request.path doc
  | .patch =>
      ∃ patch, request.document handler = some patch ∧
        PatchAccepts handler outside world request.path (request.asPatch patch)
  | .delete =>
      DeleteAccepts handler outside request.token (some principal) world request.path
        request.target
  | .post =>
      passes handler (postRole request) principal = true ∧
        streamPath request.path = none ∧ answersOnly request.path = false ∧
        ∃ doc, request.document handler = some doc ∧
          PostAccepts handler outside request.token (some principal) world request.path doc

end Readers

/-! ## The gate -/

section Gate

variable {handler : ShimHandler} {outside : ShimOutside} {token : String}
variable {principal : Principal} {world entered : ShimWorld}

theorem runAlone_parsePrincipal_reader
    (reader : ReadOnlyToken handler outside token world principal entered) :
    runAlone (ShimOp.execute outside) (parsePrincipal handler token) world =
      (some principal, entered) := by
  cases reader with
  | configured _ read known => simp [parsePrincipal, known]
  | session payload unknown signed role =>
      simp [parsePrincipal, unknown, parseSessionToken, signed, role, runAlone_andThen]

/-- A reader has the role `read`, unless its token is the administrator's too. -/
theorem tokenRole_reader
    (reader : ReadOnlyToken handler outside token world principal entered) :
    principal.tokenRole = some "read" ∨ principal.tokenRole = some "admin" := by
  cases reader with
  | session => exact .inl rfl
  | configured _ read known =>
      unfold configuredPrincipal ShimHandler.tokens at known
      split at known
      · cases known
      · by_cases admin : handler.adminToken = some token
        · simp [List.lookup, admin] at known
          exact .inr (known ▸ rfl)
        · have other : (some token == handler.adminToken) = false := by
            simpa using fun equal => admin equal.symm
          simp [List.lookup, other, read] at known
          exact .inl (known ▸ rfl)

theorem passes_read_reader
    (reader : ReadOnlyToken handler outside token world principal entered) :
    passes handler .read principal = true := by
  rcases tokenRole_reader reader with role | role <;> simp [passes, role, Role.satisfiedBy]

theorem runAlone_authz_reader
    (anonymous : handler.allowAnonymous = false)
    (reader : ReadOnlyToken handler outside token world principal entered) (role : Role) :
    runAlone (ShimOp.execute outside) (authz handler role token) world =
      (some (if passes handler role principal then some (some principal) else none), entered) := by
  have gated : ungated handler = false := by simp [ungated, anonymous]
  simp [authz, gated, runAlone_andThen, runAlone_parsePrincipal_reader reader]

theorem store_reader
    (reader : ReadOnlyToken handler outside token world principal entered) :
    entered.store = world.store := by
  cases reader <;> rfl

end Gate

/-! ## Paths -/

theorem length_split_of_streamPath
    {path stream : String}
    (addressed : streamPath path = some stream) : (split '/' path).length = 8 := by
  unfold streamPath at addressed
  split at addressed
  · rename_i equal
    simp [equal]
  · rename_i equal
    simp [equal]
  · rename_i equal
    simp [equal]
  · cases addressed

theorem length_split_of_nsName
    (path : String)
    (addressed : (nsName path).plural ≠ "") : (split '/' path).length ≤ 7 := by
  unfold nsName at addressed
  split at addressed
  · rename_i equal
    simp [equal]
  · rename_i equal
    simp [equal]
  · rename_i equal
    simp [equal]
  · rename_i equal
    simp [equal]
  · rename_i equal
    simp [equal]
  · simp [PathName.noMatch] at addressed

/-- The path of a service account is neither public nor that of a stream. -/
theorem getRole_of_accountPath
    {request : Request} {account : Option String × String}
    (addressed : accountPath request.path = some account) :
    publicPaths.contains request.path = false ∧ getRole request = .read := by
  have kind : (nsName request.path).plural = "serviceaccounts" := by
    unfold accountPath at addressed
    by_contra other
    simp [other] at addressed
  constructor
  · have none_public : ∀ path ∈ publicPaths, accountPath path = none := by decide +kernel
    by_contra found
    simp only [Bool.not_eq_false, List.contains_iff_mem] at found
    simp [none_public _ found] at addressed
  · have short := length_split_of_nsName request.path (by simp [kind])
    have plain : streamPath request.path = none := by
      by_contra stream
      obtain ⟨stream, found⟩ := Option.ne_none_iff_exists'.mp stream
      have long := length_split_of_streamPath found
      omega
    simp [getRole, plain]

/-! ## Requests of readers -/

section Requests

variable {handler : ShimHandler} {outside : ShimOutside} {request : Request}
variable {principal : Principal} {world entered : ShimWorld}

theorem leads_doGet_reader_iff
    (anonymous : handler.allowAnonymous = false)
    (reader : ReadOnlyToken handler outside request.token world principal entered) :
    Leads (ShimOp.execute outside) (fun decision _ => decision.Changes world.store)
        (doGet handler request) world ↔
      GetAccepts handler outside request.token entered principal request.path := by
  unfold doGet GetAccepts
  cases addressed : accountPath request.path with
  | some account =>
      obtain ⟨ns, name⟩ := account
      obtain ⟨notPublic, role⟩ := getRole_of_accountPath addressed
      simp only [notPublic, role, Bool.false_eq_true, if_false, bind_eq, leads_andThen]
      rw [leads_of_runAlone (runAlone_authz_reader anonymous reader .read)]
      simp only [passes_read_reader reader, if_true]
      rw [leads_readServiceAccount_iff]
      simp
  | none =>
      split
      · simp [Decision.Changes]
      · simp only [bind_eq, pure_eq, leads_andThen]
        rw [leads_of_runAlone (runAlone_authz_reader anonymous reader _)]
        split <;> simp_all [Decision.Changes]

theorem leads_doPut_reader_iff
    (anonymous : handler.allowAnonymous = false)
    (reader : ReadOnlyToken handler outside request.token world principal entered) :
    Leads (ShimOp.execute outside) (fun decision _ => decision.Changes world.store)
        (doPut handler request) world ↔
      ∃ doc, request.document handler = some doc ∧
        PutAccepts handler outside request.token (some principal) entered request.path
          doc := by
  unfold doPut
  rw [bind_eq, leads_andThen, leads_of_runAlone (runAlone_authz_reader anonymous reader .read)]
  simp only [passes_read_reader reader, if_true, bind_eq, leads_andThen, leads_ofOption,
    leads_putDecision_iff]

theorem leads_doPatch_reader_iff
    (anonymous : handler.allowAnonymous = false)
    (reader : ReadOnlyToken handler outside request.token world principal entered) :
    Leads (ShimOp.execute outside) (fun decision _ => decision.Changes world.store)
        (doPatch handler request) world ↔
      ∃ patch, request.document handler = some patch ∧
        PatchAccepts handler outside entered request.path (request.asPatch patch) := by
  unfold doPatch
  rw [bind_eq, leads_andThen, leads_of_runAlone (runAlone_authz_reader anonymous reader .read)]
  simp only [passes_read_reader reader, if_true, bind_eq, leads_andThen, leads_ofOption,
    leads_patchDecision_iff]

theorem leads_doDelete_reader_iff
    (anonymous : handler.allowAnonymous = false)
    (reader : ReadOnlyToken handler outside request.token world principal entered) :
    Leads (ShimOp.execute outside) (fun decision _ => decision.Changes world.store)
        (doDelete handler request) world ↔
      DeleteAccepts handler outside request.token (some principal) entered request.path
        request.target := by
  unfold doDelete
  rw [bind_eq, leads_andThen, leads_of_runAlone (runAlone_authz_reader anonymous reader .read)]
  simp only [passes_read_reader reader, if_true]
  rw [← store_reader reader]
  exact leads_deleteDecision_iff request

theorem leads_doPost_reader_iff
    (anonymous : handler.allowAnonymous = false)
    (reader : ReadOnlyToken handler outside request.token world principal entered) :
    Leads (ShimOp.execute outside) (fun decision _ => decision.Changes world.store)
        (doPost handler request) world ↔
      passes handler (postRole request) principal = true ∧
        streamPath request.path = none ∧ answersOnly request.path = false ∧
        ∃ doc, request.document handler = some doc ∧
          PostAccepts handler outside request.token (some principal) entered request.path
            doc := by
  unfold doPost
  rw [bind_eq, leads_andThen, leads_of_runAlone (runAlone_authz_reader anonymous reader _)]
  cases passes handler (postRole request) principal with
  | false => simp [Decision.Changes]
  | true => simpa using leads_createDecision_iff request

/-- A reader leaves the store as it is exactly by the requests that are refused on
other grounds than the reader's role, except for `POST` while roles are not
evaluated. -/
theorem reader_sameRows_iff
    (anonymous : handler.allowAnonymous = false)
    (reader : ReadOnlyToken handler outside request.token world principal entered) :
    (afterRequest handler outside request world).store.SameRows world.store ↔
      ¬ ReaderWrites handler outside request principal entered := by
  rw [sameRows_afterRequest_iff]
  refine not_congr ?_
  unfold decideRequest ReaderWrites
  cases request.method with
  | get => exact leads_doGet_reader_iff anonymous reader
  | put => exact leads_doPut_reader_iff anonymous reader
  | patch => exact leads_doPatch_reader_iff anonymous reader
  | delete => exact leads_doDelete_reader_iff anonymous reader
  | post => exact leads_doPost_reader_iff anonymous reader

end Requests

/-! ## A reader that creates and a reader that overwrites -/

/-- A handler with access control off. -/
def openHandler : ShimHandler :=
  { evaluatingHandler with rbacEnabled := false, rbacEvalRoles := false }

def sent (text : String) : List UInt8 := text.toList.map fun char => char.toNat.toUInt8

/-- A request for the path with a body, under the read token. -/
def readerRequest (method : Method) (path body : String) : Request where
  method := method
  target := path
  path := path
  query := []
  authorization := some "Bearer read-token"
  upgrade := none
  contentType := some "application/json"
  transferEncoding := none
  contentLength := some (toString (sent body).length)
  rfile := sent body

/-- The secret `db` with its password. -/
def dbSecret : ShimWorld where
  store := (ObjectStore.empty.upsert ⟨"", "v1", "secrets"⟩ (some "default") "db"
    (.dict [("name", .str "db"), ("namespace", .str "default")])
    (.dict [("password", .str "czNjcmV0")]) (.dict [])).2
  saTokens := fun _ => none
  crds := .empty
  calls := 0

def createSecret : Request :=
  readerRequest .post "/api/v1/namespaces/default/secrets"
    "\x7b\"metadata\": \x7b\"name\": \"web\"\x7d\x7d"

def overwriteSecret : Request :=
  readerRequest .put "/api/v1/namespaces/default/secrets/db"
    "\x7b\"data\": \x7b\"password\": \"eA==\"\x7d\x7d"

theorem readOnlyToken_read :
    ReadOnlyToken openHandler stillOutside "read-token" dbSecret (.ofRole "reader" "read")
      dbSecret :=
  .configured _ rfl (by decide +kernel)

/-- Creating a secret is refused to a reader. -/
theorem reader_sameRows_createSecret :
    (afterRequest openHandler stillOutside createSecret dbSecret).store.SameRows
      dbSecret.store := by
  have token : createSecret.token = "read-token" := by decide +kernel
  refine (reader_sameRows_iff rfl (token.symm ▸ readOnlyToken_read)).mpr fun writes => ?_
  exact absurd writes.1 (by decide +kernel)

theorem reader_not_sameRows_overwriteSecret :
    openHandler.allowAnonymous = false ∧
      ReadOnlyToken openHandler stillOutside overwriteSecret.token dbSecret
        (.ofRole "reader" "read") dbSecret ∧
      ¬ (afterRequest openHandler stillOutside overwriteSecret dbSecret).store.SameRows
        dbSecret.store := by
  have token : overwriteSecret.token = "read-token" := by decide +kernel
  refine ⟨rfl, token.symm ▸ readOnlyToken_read, fun same => ?_⟩
  exact absurd (same ⟨⟨"", "v1", "secrets"⟩, "default", "db"⟩) (by decide +kernel)

end ApiShim
end K1s
