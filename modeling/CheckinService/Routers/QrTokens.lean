import CheckinService.Auth
import CheckinService.Schemas
import CheckinService.Services.QrToken

namespace CheckinService

structure MintCall where
  eventId : Int
  payload : QrTokenMintRequest
  actor : Actor
  nonce : Nonce
  utcnow : ℚ

def mintSchool (call : MintCall) (db : Database) : Handler String := do
  requireAdmin call.actor
  match Py.orNone call.actor.schoolId with
  | none => httpError 403 (.text "school_id required")
  | some schoolId =>
    match db.events.first fun e => e.id = call.eventId && e.schoolId = schoolId with
    | none => .error (.http eventNotFound)
    | some _ => return schoolId

def MintCall.args (call : MintCall) (schoolId : String) : MintArgs where
  eventId := call.eventId
  schoolId := schoolId
  issuedByUserId := (Py.orNone call.actor.userId).getD "service"
  eventTable := "events"
  ttlMinutes := call.payload.ttlMinutes
  singleUse := call.payload.singleUse
  attendeeUserId := call.payload.attendeeUserId

def mintQrToken (c : Crypto) (call : MintCall) (db : Database) :
    Database × Handler QrTokenMintResponse :=
  match mintSchool call db with
  | .error f => (db, .error f)
  | .ok schoolId =>
    match mintToken c (call.args schoolId) call.nonce call.utcnow db with
    | .error e => (db, .error (.unhandled e))
    | .ok (rawToken, row, db') =>
      (db', .ok {
        qrTokenId := row.id
        eventId := call.eventId
        eventTable := .events
        rawToken := rawToken
        expiresAt := row.expiresAt
        singleUse := row.singleUse })

def QrToken.listItem (stamps : Stamps) (t : QrToken) : QrTokenListItem where
  id := t.id
  eventId := t.eventId
  eventTable := t.eventTable
  issuedAt := stamps.issuedAt t.id
  expiresAt := t.expiresAt
  singleUse := t.singleUse
  usedAt := t.usedAt

/-- Tokens issued at the same instant come in the order of the table. -/
def listQrTokens (eventId : Int) (actor : Actor) (s : StampedDatabase) :
    Handler (List QrTokenListItem) := do
  requireAdmin actor
  match Py.orNone actor.schoolId with
  | none => httpError 403 (.text "school_id required")
  | some schoolId =>
    match s.db.events.first fun e => e.id = eventId && e.schoolId = schoolId with
    | none => .error (.http eventNotFound)
    | some _ =>
      let rows := s.db.qrTokens.rows.filter fun t => t.eventTable = .events && t.eventId = eventId
      let sorted := rows.mergeSort fun t t' => s.stamps.issuedAt t'.id ≤ s.stamps.issuedAt t.id
      return sorted.map (QrToken.listItem s.stamps)

end CheckinService
