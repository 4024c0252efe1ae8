import K1s.ApiShim.Rbac
import K1s.ApiShim.Requests

/-!
# Who a request comes from

`_parse_principal` knows the configured tokens, signed session tokens and the
tokens of service accounts.  The last are kept in a map of the process, in the
annotations of the stored accounts, and are copied from there into the map when
the process starts and when a token is not found in the map.
-/

namespace K1s
namespace ApiShim

open Py

def serviceAccountsResource : Gvr := ⟨"", "v1", "serviceaccounts"⟩

def tokenKey : String := "ae.apishim/token"
def tokenExpKey : String := "ae.apishim/token-exp"

/-! ## Tokens of service accounts -/

/-- `float(anns.get("ae.apishim/token-exp", "0") or 0)`, and zero where that
raises an exception. -/
def recordedExp (anns : Dict) : PyFloat :=
  ((((Dict.find? anns tokenExpKey).getD (.str "0")).or (.int 0)).toFloat).getD (.finite 0)

/-- The annotations of a stored account, `none` for an exception. -/
def annotationsOf (object : K8sObject) : Option Dict :=
  (object.metadata.lookup "annotations").bind Json.asDict

def SaToken.ofAccount (object : K8sObject) (exp : PyFloat) : SaToken where
  ns := if object.ns.getD "" = "" then "default" else object.ns.getD ""
  name := object.name
  exp := exp

/-- The first account with the token, if it has not expired. -/
def findAccount (token : String) (now : Rat) : List K8sObject → Option (Option SaToken)
  | [] => some none
  | object :: rest =>
      (annotationsOf object).bind fun anns =>
        if Dict.get anns tokenKey ≠ .str token then findAccount token now rest
        else if (recordedExp anns).le (.finite now) then some none
        else some (some (.ofAccount object (recordedExp anns)))

variable (token : String) (handler : ShimHandler)

def lookupSaToken : ShimProgram (Option SaToken) :=
  if token = "" then .done none
  else do
    let accounts ← shimListAll serviceAccountsResource
    let now ← shimNow
    .ofOption (findAccount token now accounts)

def issueSaToken (ns name : String) : ShimProgram String := do
  let token ← shimTokenUrlsafe
  let now ← shimNow
  shimSaSet token ⟨ns, name, .finite (now + handler.saTokenTtl)⟩
  return token

/-- `str(int(seconds))`. -/
def secondsText (seconds : Rat) : String :=
  toString (seconds.num.tdiv seconds.den)

/-- The token and the expiry in the annotations of a stored account, as texts. -/
def storedToken (existing : Option K8sObject) : Option (String × String) :=
  match existing with
  | none => some ("", "")
  | some object =>
      (object.metadata.lookup "annotations").map fun anns =>
        match anns.or (.dict []) with
        | .dict anns =>
            (((Dict.get anns tokenKey).or (.str "")).toStr,
              ((Dict.get anns tokenExpKey).or (.str "")).toStr)
        | _ => ("", "")

/-- `float(raw or 0)`, and zero where that raises an exception. -/
def expOfText (raw : String) : PyFloat :=
  if raw = "" then .finite 0 else (floatOfText raw).getD (.finite 0)

/-- `annotations[key] = value`, which only a dictionary has. -/
def setItem (value : Json) (key : String) (new : Json) : Option Json :=
  match value with
  | .dict entries => some (.dict (Dict.set entries key new))
  | _ => none

def withToken (annotations : Json) (token exp : String) : Option Json :=
  (setItem annotations tokenKey (.str token)).bind fun annotations =>
    setItem annotations tokenExpKey (.str exp)

/-- Take a stored token out of the map. -/
def dropSaToken : ShimProgram Unit :=
  if token = "" then .done () else shimSaPop token

/-- `_preserve_or_issue_sa_token`, as the annotations it leaves. -/
def preserveOrIssueSaToken
    (ns name : String)
    (annotations : Json) : ShimProgram Json := do
  let now ← shimNow
  let existing ← shimGet serviceAccountsResource (some ns) name
  let (token, raw) ← .ofOption (storedToken existing)
  let exp := expOfText raw
  if token ≠ "" ∧ (PyFloat.finite now).lt exp = true then
    let annotations ← .ofOption (withToken annotations token
      (if raw = "" then "0" else raw))
    shimSaSet token ⟨ns, name, exp⟩
    return annotations
  else
    dropSaToken token
    let token ← issueSaToken handler ns name
    .ofOption (withToken annotations token (secondsText (now + handler.saTokenTtl)))

/-! ## Principals -/

/-- The principal of a configured token or of a session. -/
def Principal.ofRole (username role : String) : Principal :=
  ⟨username, ["system:authenticated", role], some role⟩

def Principal.nobody : Principal := ⟨unauthenticated, [unauthenticated], none⟩

def Principal.serviceAccount (ns name : String) : Principal where
  username := "system:serviceaccount:" ++ ns ++ ":" ++ name
  groups := ["system:authenticated", "system:serviceaccounts", "system:serviceaccounts:" ++ ns]
  tokenRole := none

/-- The configured tokens, in the order in which they are compared. -/
def ShimHandler.tokens : List (Option String × Principal) :=
  [(handler.adminToken, .ofRole "admin" "admin"), (handler.readToken, .ofRole "reader" "read"),
    (handler.execToken, .ofRole "exec" "exec"),
    (handler.portforwardToken, .ofRole "portforward" "portforward"),
    (handler.mintToken, .ofRole "mint" "mint")]

def configuredPrincipal (token : String) : Option Principal :=
  if token = "" then none else handler.tokens.lookup (some token)

def sessionRole (payload : Json) (now : Rat) : Option String :=
  let exp := (((payload.get "exp").bind fun exp =>
    (exp.or (.int 0)).toFloat)).getD (.finite 0)
  if exp.le (.finite now) then none
  else
    let role := lower (strip (((payload.item "role").or (.str "")).toStr))
    if role ∈ ["exec", "portforward", "read"] then some role else none

/-- `_parse_session_token`, as far as the role. -/
def parseSessionToken (token : String) : ShimProgram (Option String) :=
  match handler.sessionPayload token with
  | none => .done none
  | some payload => do
      let now ← shimNow
      return sessionRole payload now

/-- The entry of a token in the map, after an attempt to find it in the store. -/
def saTokenEntry : ShimProgram (Option SaToken) := do
  match ← shimSaGet token with
  | some entry => return some entry
  | none =>
      match ← lookupSaToken token with
      | none => return none
      | some entry =>
          shimSaSet token entry
          return some entry

/-- The principal of a service account's token. -/
def saPrincipal : ShimProgram Principal := do
  match ← saTokenEntry token with
  | none => return .nobody
  | some entry =>
      let now ← shimNow
      if entry.exp.lt (.finite now) then
        shimSaPop token
        return .nobody
      else return .serviceAccount entry.ns entry.name

def parsePrincipal (token : String) : ShimProgram Principal :=
  match configuredPrincipal handler token with
  | some principal => .done principal
  | none => do
      match ← parseSessionToken handler token with
      | some role => return .ofRole ("session:" ++ role) role
      | none => saPrincipal token

/-! ## The gate of a handler -/

/-- What a handler asks of the role of a token. -/
inductive Role
  | read
  | write
  | exec
  | portforward
  | mint
  deriving DecidableEq

/-- The roles of tokens that meet a demand. -/
def Role.satisfiedBy : Role → List String
  | .read => ["admin", "read"]
  | .write => ["admin"]
  | .exec => ["admin", "exec"]
  | .portforward => ["admin", "portforward"]
  | .mint => ["admin", "mint"]

def passes (role : Role) (principal : Principal) : Bool :=
  (match principal.tokenRole with
    | some name => role.satisfiedBy.contains name
    | none => false) ||
  (handler.rbacEnabled && handler.rbacEvalRoles &&
    decide (principal.username ≠ unauthenticated)) ||
  handler.allowAnonymous

/-- Whether requests pass without anyone looking at their token. -/
def ungated : Bool :=
  handler.allowAnonymous && handler.adminToken.getD "" = "" && handler.readToken.getD "" = ""

/-- `_authz`: `none` for a refusal, and else the principal, if it was looked
at. -/
def authz (role : Role) (token : String) : ShimProgram (Option (Option Principal)) :=
  if ungated handler then .done (some none)
  else do
    let principal ← parsePrincipal handler token
    return if passes handler role principal then some (some principal) else none

/-- `_rbac_allows`, which looks at the principal unless that has been done. -/
def rbacCheck
    (token : String) (cached : Option Principal) (verb resource : String)
    (ns : Option String) : ShimProgram Bool :=
  match cached with
  | some principal => rbacAllows handler principal verb resource ns
  | none =>
      if !handler.rbacEnabled then .done true
      else do
        let principal ← parsePrincipal handler token
        rbacAllows handler principal verb resource ns

end ApiShim
end K1s
