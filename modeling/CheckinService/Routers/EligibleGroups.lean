import CheckinService.Auth
import CheckinService.Lib.Except

/-! `routers/eligible_groups.py`: the picker of the groups an author may create events for.  Names
are compared by code points, where the database has its collation. -/

namespace CheckinService

structure EligibleGroup where
  groupId : Int
  name : String
  sport : Option String
  schoolId : String
  memberCount : Nat
  deriving DecidableEq

structure EligibleCohort where
  cohortId : Int
  memberCount : Nat
  sport : Option String
  deriving DecidableEq

structure EligibleGroups where
  schoolAdminGroups : List EligibleGroup
  teamLeadCohort : Option EligibleCohort
  deriving DecidableEq

def pickedGroup (actor : Actor) (g : SchoolAdminGroup) : Bool :=
  let actorUid := actor.userId.getD ""
  g.isActive &&
    match actor.isAdmin, Py.orNone actor.schoolId with
    | true, some school => g.schoolId = school
    | _, _ => g.teamLeadUserId = some actorUid || g.createdByUserId = actorUid

def memberCount (db : Database) (groupId : Int) : Nat :=
  db.members.rows.countP fun m => m.groupId = groupId && m.status = .active

def eligibleGroup (db : Database) (g : SchoolAdminGroup) : EligibleGroup where
  groupId := g.id
  name := g.name
  sport := g.sport
  schoolId := g.schoolId
  memberCount := memberCount db g.id

def schoolAdminGroups (actor : Actor) (db : Database) : List EligibleGroup :=
  if actor.userId.getD "" ≠ "" || actor.isAdmin then
    let rows := (db.groups.rows.filter (pickedGroup actor)).mergeSort fun g g' => g.name ≤ g'.name
    rows.map (eligibleGroup db)
  else []

def acceptedRelationships (db : Database) (lead : String) : List TeamLeadRelationship :=
  db.relationships.rows.filter fun r => r.teamLeadUserId = lead && r.consentStatus = .accepted

def cohortSport (accepted : List TeamLeadRelationship) : Option String :=
  match (accepted.filterMap fun r => Py.orNone r.sport).dedup with
  | [sport] => some sport
  | _ => none

/-- The digits of the caller's id, or 0 where it has none. -/
def cohortId (actorUid : String) : Except Py.Exc Int :=
  if cohortDigits actorUid = "" then .ok 0 else Py.int (cohortDigits actorUid)

def teamLeadCohort (actor : Actor) (db : Database) : Except Py.Exc (Option EligibleCohort) :=
  let actorUid := actor.userId.getD ""
  let accepted := acceptedRelationships db actorUid
  if actorUid = "" || accepted.isEmpty then .ok none
  else do
    let cohortId ← cohortId actorUid
    return some { cohortId, memberCount := accepted.length, sport := cohortSport accepted }

def listEligibleGroups (actor : Actor) (db : Database) : Handler EligibleGroups := do
  let cohort ← catchNothing (teamLeadCohort actor db)
  return { schoolAdminGroups := schoolAdminGroups actor db, teamLeadCohort := cohort }

end CheckinService
