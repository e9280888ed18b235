import CheckinService.Http
import CheckinService.Lib.Python.Case
import CheckinService.Lib.Python.Int
import CheckinService.Models

/-! `auth.py`: who the caller is, and what each role may do. -/

namespace CheckinService

structure Actor where
  userId : Option String
  role : Option String
  canonicalRole : Option String
  schoolId : Option String
  deriving DecidableEq

def adminBypassRoles : List String :=
  ["admin", "platform_admin", "platform_ops", "platform_system_admin", "platform_support_admin",
   "super_admin", "nilbx_admin", "service", "school_admin", "college_school_nil_admin",
   "hs_school_nil_admin", "compliance_officer"]

def eventCreatorRoles : List String :=
  adminBypassRoles ++
  ["creator", "student_creator", "brand", "agency", "coach", "college_coach", "hs_coach",
   "college_team_lead", "hs_team_lead", "team_lead", "lawyer", "governing_body_admin",
   "conference_admin", "nfhs_admin", "state_association_admin", "district_admin",
   "college_governing_body", "college_conference", "hs_nfhs", "hs_state_association",
   "hs_state_district", "chapter_president"]

def schoolBoundRoles : List String :=
  ["school_admin", "college_school_nil_admin", "hs_school_nil_admin", "compliance_officer",
   "coach", "college_coach", "hs_coach", "college_team_lead", "hs_team_lead", "team_lead",
   "chapter_president", "governing_body_admin", "conference_admin", "nfhs_admin",
   "state_association_admin", "district_admin", "college_governing_body", "college_conference",
   "hs_nfhs", "hs_state_association", "hs_state_district"]

/-- `_canonicalize_role(actor.get("canonical_role") or actor.get("role"))` -/
def Actor.canonicalizeRole (actor : Actor) : String :=
  let role := (Py.orNone actor.canonicalRole).orElse fun _ => Py.orNone actor.role
  Py.lower (Py.strip (role.getD ""))

def Actor.isAdmin (actor : Actor) : Bool := actor.canonicalizeRole ∈ adminBypassRoles

def requireAdmin (actor : Actor) : Handler Unit :=
  if actor.isAdmin then .ok ()
  else httpError 403 (.dict [("code", "permission_denied"),
    ("required", "admin/school_admin/compliance_officer"),
    ("actor_role", actor.canonicalizeRole)])

def assertSelfOrAdmin (actor : Actor) (targetUserId : String) : Handler Unit :=
  if actor.isAdmin || actor.userId = some targetUserId then .ok ()
  else httpError 403 (.dict [("code", "permission_denied"),
    ("reason", "user_id mismatch — caller can only act on their own registration / check-in")])

def requireEventCreator (actor : Actor) : Handler Unit :=
  if actor.canonicalizeRole ∈ eventCreatorRoles then .ok ()
  else httpError 403 (.dict [("code", "permission_denied"),
    ("reason", "Event creation requires a non-fan role"),
    ("actor_role", actor.canonicalizeRole)])

def personalNamespace (userId : String) : String := "user:" ++ userId

def resolveEventTenant (actor : Actor) : Handler String :=
  match Py.orNone actor.schoolId, Py.orNone actor.userId with
  | some sid, _ => .ok sid
  | none, some userId => .ok (personalNamespace userId)
  | none, none => httpError 403 (.dict [("code", "tenant_required"),
      ("reason", "Caller has neither a school_id nor a user_id; cannot resolve event tenant")])

def assertSchoolOnlyEligible (actor : Actor) : Handler Unit :=
  if (Py.orNone actor.schoolId).isSome && actor.canonicalizeRole ∈ schoolBoundRoles then .ok ()
  else httpError 403 (.dict [("code", "school_binding_required"),
    ("reason", "school_only events require both a school_id binding and a school-bound role (coach, school_admin, chapter_president, governing_body_*, etc.)")])

def cohortDigits (actorUid : String) : String :=
  String.ofList (actorUid.toList.filter Py.isDigit)

def assertGroupEventEligible (actor : Actor) (groupKind : GroupKind) (groupId : Int)
    (db : Database) : Handler String :=
  let actorUid := actor.userId.getD ""
  match groupKind with
  | .schoolAdminGroup =>
    match db.groups.first fun g => g.id = groupId && g.isActive with
    | none => httpError 404 (.text "Group not found")
    | some group =>
      let isLead := actorUid ≠ "" &&
        (actorUid = group.teamLeadUserId.getD "" || actorUid = group.createdByUserId)
      let isSameSchoolAdmin := actor.isAdmin &&
        Py.orNone actor.schoolId = some group.schoolId
      if isLead || isSameSchoolAdmin then .ok group.schoolId
      else httpError 403 (.dict [("code", "not_group_owner"),
        ("reason", "Only the group's team lead, the original creator, or a same-school admin can author group_only events for this group.")])
  | .teamLeadCohort =>
    let notOwner := httpError 403 (.dict [("code", "not_group_owner"),
      ("reason", "team_lead cohort group_id must match the caller's own user_id.")])
    if cohortDigits actorUid = "" then notOwner
    else do
      let digits ← catchNothing (Py.int (cohortDigits actorUid))
      if digits ≠ groupId then notOwner
      else return personalNamespace actorUid

def assertEventOwnerOrAdmin (actor : Actor) (eventOwnerUserId eventSchoolId : String) :
    Handler Unit :=
  if actor.userId = some eventOwnerUserId then .ok ()
  else if actor.isAdmin && Py.orNone actor.schoolId = some eventSchoolId then .ok ()
  else if actor.canonicalizeRole = "service" then .ok ()
  else httpError 403 (.dict [("code", "not_event_owner"),
    ("reason", "Only the event owner or an admin in the same school can perform this action")])

/-- `attendee_user_id or actor["user_id"]` of the register and check-in requests. -/
def targetUserId (attendeeUserId : Option String) (actor : Actor) : Option String :=
  (Py.orNone attendeeUserId).orElse fun _ => Py.orNone actor.userId

theorem targetUserId_ne_empty {attendeeUserId : Option String} {actor : Actor} {target : String}
    (h : targetUserId attendeeUserId actor = some target) : target ≠ "" := by
  rw [targetUserId] at h
  cases hp : Py.orNone attendeeUserId with
  | none =>
    rw [hp] at h
    exact (Py.orNone_eq_some.mp h).2
  | some t =>
    rw [hp] at h
    cases h
    exact (Py.orNone_eq_some.mp hp).2

end CheckinService
