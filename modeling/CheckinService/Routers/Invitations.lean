import CheckinService.Auth
import CheckinService.Schemas
import CheckinService.Services.Hashing

/-! `send_invitations`, `list_invitations`, `respond_to_invitation` and `list_my_invitations` of
`routers/event_invitations.py`.  The rows of a table stand in the order of their inserts,
which is that of `created_at`. -/

namespace CheckinService

open Relational

def candidateTenants (actor : Actor) : List String :=
  (Py.orNone actor.schoolId).toList ++ ((Py.orNone actor.userId).map personalNamespace).toList

def resolveEventForOwner (db : Database) (eventId : Int) (actor : Actor) : Handler Event :=
  if candidateTenants actor = [] then .error (.http eventNotFound)
  else match db.events.first fun e => e.id = eventId && e.schoolId ∈ candidateTenants actor with
    | none => .error (.http eventNotFound)
    | some event => .ok event

def organizedEvent (actor : Actor) (eventId : Int) (db : Database) : Handler Event := do
  let event ← resolveEventForOwner db eventId actor
  assertEventOwnerOrAdmin actor event.ownerUserId event.schoolId
  return event

structure SendCall where
  eventId : Int
  payload : InvitationSendRequest
  actor : Actor

def SendCall.inviterUserId (call : SendCall) : String :=
  (Py.orNone call.actor.userId).getD "service"

def findInvitation (db : Database) (eventId : Int) (inviteeUserId : String) :
    Option EventInvitation :=
  db.invitations.first fun i => i.eventId = eventId && i.inviteeUserId = inviteeUserId

def newInvitation (c : Crypto) (call : SendCall) (event : Event) (item : InvitationSendItem)
    (id : Int) : EventInvitation where
  id := id
  schoolId := event.schoolId
  eventId := call.eventId
  inviterUserId := call.inviterUserId
  hashedInviterId := c.hashPii call.inviterUserId
  inviteeUserId := item.inviteeUserId
  hashedInviteeId := c.hashPii item.inviteeUserId
  status := .sent
  reasonSn := sanitizeText item.reason 2000

structure Batch where
  db : Database
  sent : Nat := 0
  alreadyExisted : Nat := 0
  rows : List EventInvitation := []

def Batch.existing (batch : Batch) (invitation : EventInvitation) : Batch :=
  { batch with
    alreadyExisted := batch.alreadyExisted + 1
    rows := batch.rows ++ [invitation] }

/-- One turn of the loop; the insert runs inside a SAVEPOINT. -/
def sendOne (c : Crypto) (call : SendCall) (event : Event) (batch : Batch)
    (item : InvitationSendItem) : Except Py.Exc Batch :=
  match findInvitation batch.db call.eventId item.inviteeUserId with
  | some existing => .ok (batch.existing existing)
  | none =>
    let invite := newInvitation c call event item batch.db.invitations.nextId
    match batch.db.invitations.insert? invite with
    | some invitations => .ok { batch with
        db := { batch.db with invitations := invitations }
        sent := batch.sent + 1
        rows := batch.rows ++ [invite] }
    | none =>
      match findInvitation batch.db call.eventId item.inviteeUserId with
      | some existing => .ok (batch.existing existing)
      | none => .error .integrityError

def EventInvitation.batchRow (i : EventInvitation) : InvitationCreateBatchRow where
  id := i.id
  eventId := i.eventId
  hashedInviteeId := i.hashedInviteeId
  status := i.status
  reasonSn := i.reasonSn

def Batch.response (batch : Batch) : InvitationCreateBatchResponse where
  sent := batch.sent
  alreadyExisted := batch.alreadyExisted
  invitations := batch.rows.map EventInvitation.batchRow

def sendInvitations (c : Crypto) (call : SendCall) (db : Database) :
    Database × Handler InvitationCreateBatchResponse :=
  match organizedEvent call.actor call.eventId db with
  | .error f => (db, .error f)
  | .ok event =>
    match call.payload.invitees.foldlM (sendOne c call event) { db := db } with
    | .error e => (db, .error (.unhandled e))
    | .ok batch => (batch.db, .ok batch.response)

def EventInvitation.organizerRow (i : EventInvitation) : InvitationOrganizerRow where
  id := i.id
  eventId := i.eventId
  inviteeUserId := i.inviteeUserId
  hashedInviteeId := i.hashedInviteeId
  status := i.status
  reasonSn := i.reasonSn
  respondedAt := i.respondedAt

def listInvitations (eventId : Int) (actor : Actor) (db : Database) :
    Handler InvitationListResponse := do
  let _ ← organizedEvent actor eventId db
  let rows := db.invitations.rows.filter fun i => i.eventId = eventId
  return { invitations := rows.map EventInvitation.organizerRow, total := rows.length }

structure RespondCall where
  eventId : Int
  invitationId : Int
  decision : InvitationDecision
  actor : Actor
  utcnow : ℚ

def InvitationDecision.status : InvitationDecision → InvitationStatus
  | .accepted => .accepted
  | .declined => .declined

/-- Whatever the status was before. -/
def EventInvitation.respond (decision : InvitationDecision) (utcnow : ℚ) (i : EventInvitation) :
    EventInvitation :=
  { i with status := decision.status, respondedAt := some utcnow }

theorem EventInvitation.respond_keepsKeys (decision : InvitationDecision) (utcnow : ℚ) :
    Table.KeepsKeys (EventInvitation.respond decision utcnow) := fun _ => ⟨rfl, rfl⟩

def respondTarget (call : RespondCall) (db : Database) : Handler EventInvitation :=
  match db.invitations.first fun i => i.id = call.invitationId && i.eventId = call.eventId with
  | none => httpError 404 (.text "Invitation not found")
  | some invitation =>
    if call.actor.userId = some invitation.inviteeUserId then .ok invitation
    else httpError 403 (.dict [("code", "permission_denied"),
      ("reason", "Only the invitee may respond to this invitation")])

def responded (call : RespondCall) (invitationId : Int) (db : Database) : Database :=
  { db with
    invitations := db.invitations.update invitationId
      (EventInvitation.respond call.decision call.utcnow)
      (EventInvitation.respond_keepsKeys call.decision call.utcnow) }

def respondToInvitation (call : RespondCall) (db : Database) :
    Database × Handler InvitationRespondResponse :=
  match respondTarget call db with
  | .error f => (db, .error f)
  | .ok invitation =>
    (responded call invitation.id db, .ok {
      id := invitation.id
      eventId := invitation.eventId
      status := call.decision.status
      respondedAt := some call.utcnow })

def EventInvitation.myRow (createdAt : Int → ℚ) (i : EventInvitation) : MyInvitationRow where
  id := i.id
  eventId := i.eventId
  hashedInviteeId := i.hashedInviteeId
  status := i.status
  reasonSn := i.reasonSn
  createdAt := createdAt i.id
  respondedAt := i.respondedAt

/-- Invitations created at the same instant come in the order of the table. -/
def listMyInvitations (createdAt : Int → ℚ) (actor : Actor) (db : Database) :
    Handler MyInvitationsResponse :=
  match Py.orNone actor.userId with
  | none => httpError 400
      (.text "Bearer actor has no user_id; service tokens cannot list /me invitations")
  | some userId =>
    let rows := db.invitations.rows.filter fun i => i.inviteeUserId = userId
    let sorted := rows.mergeSort fun i i' => createdAt i'.id ≤ createdAt i.id
    .ok { invitations := sorted.map (EventInvitation.myRow createdAt), total := sorted.length }

end CheckinService
