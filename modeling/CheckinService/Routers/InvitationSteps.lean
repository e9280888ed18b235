import CheckinService.Lib.Transaction
import CheckinService.Routers.Invitations

/-! `send_invitations` cut at its SQL statements, under REPEATABLE READ.  A plain SELECT reads the
snapshot that the first one of its transaction fixes, and the transaction's own rows; the UNIQUE
check of an INSERT reads what is stored.  The SAVEPOINT undoes a refused INSERT and nothing else,
so the only rows there are to undo are those of a whole batch. -/

namespace CheckinService

open Relational

/-- The stored tables; the invitations among them need not be committed. -/
structure InvitationServer (ι : Type) where
  db : Database
  writer : Int → Option ι := fun _ => none

namespace InvitationServer

variable {ι : Type}

def invitations (s : InvitationServer ι) : Store EventInvitation ι := ⟨s.db.invitations, s.writer⟩

def save (s : InvitationServer ι) (invitations : Store EventInvitation ι) : InvitationServer ι :=
  ⟨{ s.db with invitations := invitations.table }, invitations.writer⟩

def snapshot (s : InvitationServer ι) : Database :=
  { s.db with invitations := s.invitations.committed }

variable [DecidableEq ι]

def visible (s : InvitationServer ι) (i : ι) (snapshot : Database) : List EventInvitation :=
  snapshot.invitations.rows ++ (s.invitations.own i).rows

def findInvitation (s : InvitationServer ι) (i : ι) (snapshot : Database) (eventId : Int)
    (inviteeUserId : String) : Option EventInvitation :=
  (s.visible i snapshot).find? fun r => r.eventId = eventId && r.inviteeUserId = inviteeUserId

end InvitationServer

/-- In each phase, `batch.db` is the snapshot of the transaction. -/
inductive InvitationPhase where
  | start
  | looping (event : Event) (batch : Batch) (rest : List InvitationSendItem)
  | inserting (event : Event) (batch : Batch) (item : InvitationSendItem)
      (rest : List InvitationSendItem)
  | refused (event : Event) (batch : Batch) (item : InvitationSendItem)
      (rest : List InvitationSendItem)
  | ended (result : Handler InvitationCreateBatchResponse)

def Batch.add (batch : Batch) (invitation : EventInvitation) : Batch :=
  { batch with
    sent := batch.sent + 1
    rows := batch.rows ++ [invitation] }

def invitationStep {ι : Type} [DecidableEq ι] (c : Crypto) (call : SendCall) (i : ι)
    (s : InvitationServer ι) : InvitationPhase → InvitationServer ι × InvitationPhase
  | .start =>
    match organizedEvent call.actor call.eventId s.snapshot with
    | .error f => (s, .ended (.error f))
    | .ok event => (s, .looping event { db := s.snapshot } call.payload.invitees)
  | .looping event batch (item :: rest) =>
    match s.findInvitation i batch.db call.eventId item.inviteeUserId with
    | some existing => (s, .looping event (batch.existing existing) rest)
    | none => (s, .inserting event batch item rest)
  | .inserting event batch item rest =>
    let invite := newInvitation c call event item s.db.invitations.nextId
    match s.invitations.insert i invite with
    | .stored invitations => (s.save invitations, .looping event (batch.add invite) rest)
    | .refused => (s, .refused event batch item rest)
    | .waits => (s, .inserting event batch item rest)
  | .refused event batch item rest =>
    match s.findInvitation i batch.db call.eventId item.inviteeUserId with
    | some existing => (s, .looping event (batch.existing existing) rest)
    | none =>
      -- the session is closed without a COMMIT
      (s.save (s.invitations.rollback i), .ended (.error (.unhandled .integrityError)))
  | .looping _ batch [] => (s.save (s.invitations.commit i), .ended (.ok batch.response))
  | .ended result => (s, .ended result)

end CheckinService
