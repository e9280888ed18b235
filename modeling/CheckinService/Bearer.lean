import CheckinService.Auth
import CheckinService.Lib.Python.Int

/-! `require_bearer_actor` of `auth.py`.  A caller is known by the internal token, or by a bearer
token that the auth service confirms; what that service answers is an input. -/

namespace CheckinService

inductive Claim where
  | null
  | bool (value : Bool)
  | int (value : Int)
  | text (value : String)
  deriving DecidableEq

def Claim.truthy : Claim → Bool
  | .null => false
  | .bool value => value
  | .int value => value ≠ 0
  | .text value => value ≠ ""

/-- `str(raw_user_id)`, unless it is None. -/
def Claim.str : Claim → Except Py.Exc (Option String)
  | .null => .ok none
  | .bool true => .ok (some "True")
  | .bool false => .ok (some "False")
  | .int value => (Py.str value).map some
  | .text value => .ok (some value)

structure TokenClaims where
  userId : Claim := .null
  id : Claim := .null
  canonicalRole : Option String := none
  role : Option String := none
  schoolId : Option String := none
  deriving DecidableEq

def canonicalizeRole (role : Option String) : String := Py.lower (Py.strip (role.getD ""))

def TokenClaims.actor (claims : TokenClaims) : Except Py.Exc Actor := do
  let rawUserId := if claims.userId.truthy then claims.userId else claims.id
  let userId ← rawUserId.str
  let role := canonicalizeRole ((Py.orNone claims.canonicalRole).orElse fun _ => claims.role)
  return { userId, role := some role, canonicalRole := some role, schoolId := claims.schoolId }

/-- How `/validate-token` answers: not at all, with another status than 200, or with the claims. -/
inductive TokenAnswer where
  | unreachable
  | refused
  | confirmed (claims : TokenClaims)
  deriving DecidableEq

def validateBearerViaAuthService : TokenAnswer → Handler Actor
  | .unreachable => httpError 503 (.text "Authentication service unavailable")
  | .refused => httpError 401 (.text "Invalid bearer token")
  | .confirmed claims => catchNothing claims.actor

structure AuthSettings where
  internalServiceToken : String := ""
  serviceTokenAllowedCallers : List String := []

def AuthSettings.ofEnv (internalServiceToken allowedCallers : Option String) : AuthSettings where
  internalServiceToken := Py.strip (internalServiceToken.getD "")
  serviceTokenAllowedCallers :=
    (((Py.split ',' (allowedCallers.getD "")).map Py.strip).filter (· ≠ "")).map Py.lower

structure Credentials where
  bearer : Option (String × String) := none
  serviceToken : Option String := none
  serviceName : Option String := none
  deriving DecidableEq

def serviceActor : Actor := ⟨none, some "service", some "service", none⟩

def AuthSettings.isInternal (settings : AuthSettings) (creds : Credentials) : Bool :=
  settings.internalServiceToken ≠ "" && creds.serviceToken = some settings.internalServiceToken

def requireServiceName (settings : AuthSettings) (creds : Credentials) : Handler Actor :=
  let serviceName := Py.lower (Py.strip (creds.serviceName.getD ""))
  if serviceName = "" then httpError 403 (.dict [("code", "service_name_required"),
    ("reason", "Service-token callers must identify themselves via X-Service-Name")])
  else if settings.serviceTokenAllowedCallers ≠ [] &&
      serviceName ∉ settings.serviceTokenAllowedCallers then
    httpError 403 (.dict [("code", "service_caller_not_allowlisted"), ("caller", serviceName)])
  else .ok serviceActor

def requireBearerActor (settings : AuthSettings) (creds : Credentials) (answer : TokenAnswer) :
    Handler Actor :=
  if settings.isInternal creds then requireServiceName settings creds
  else match creds.bearer with
    | some (scheme, credentials) =>
      if Py.lower scheme = "bearer" && credentials ≠ "" then validateBearerViaAuthService answer
      else httpError 401 (.text "Bearer token required")
    | none => httpError 401 (.text "Bearer token required")

end CheckinService
