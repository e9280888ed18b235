import CheckinService.Laws.Operations
import CheckinService.Routers.EligibleGroups

namespace CheckinService

inductive Query where
  | listEvents (call : ListEventsCall)
  | getEvent (eventId : Int) (actor : Actor)
  | discoverEvents (call : DiscoverCall)
  | listRegistrations (eventId : Int) (actor : Actor)
  | listQrTokens (eventId : Int) (actor : Actor)
  | listInvitations (eventId : Int) (actor : Actor)
  | listMyInvitations (createdAt : Int → ℚ) (actor : Actor)
  | listEligibleGroups (actor : Actor)

inductive Interaction where
  | act (op : Operation)
  | ask (stamps : Stamps) (query : Query)

inductive Answer where
  | events (answer : Handler (List EventResponse))
  | adminEvent (answer : Handler EventAdminResponse)
  | page (answer : DiscoverPage)
  | registrations (answer : Handler (List RegistrationListResponse))
  | qrTokens (answer : Handler (List QrTokenListItem))
  | invitations (answer : Handler InvitationListResponse)
  | myInvitations (answer : Handler MyInvitationsResponse)
  | eligibleGroups (answer : Handler EligibleGroups)
  | event (answer : Handler Event)
  | deleted (answer : Handler Int)
  | registration (answer : Handler EventRegistration)
  | cancelled (answer : Handler Int)
  | checkin (answer : CheckinOutcome)
  | minted (answer : Handler QrTokenMintResponse)
  | batch (answer : Handler InvitationCreateBatchResponse)
  | responded (answer : Handler InvitationRespondResponse)
  -- no caller waits for the retention job, or for what the other service does
  | silent

def Query.answer (env : Env) (stamps : Stamps) (db : Database) : Query → Answer
  | .listEvents call => .events (CheckinService.listEvents call ⟨db, stamps⟩)
  | .getEvent eventId actor => .adminEvent (CheckinService.getEvent eventId actor ⟨db, stamps⟩)
  | .discoverEvents call => .page (CheckinService.discoverEvents call db)
  | .listRegistrations eventId actor =>
    .registrations (CheckinService.listRegistrations env.crypto eventId actor ⟨db, stamps⟩)
  | .listQrTokens eventId actor =>
    .qrTokens (CheckinService.listQrTokens eventId actor ⟨db, stamps⟩)
  | .listInvitations eventId actor =>
    .invitations (CheckinService.listInvitations eventId actor db)
  | .listMyInvitations createdAt actor =>
    .myInvitations (CheckinService.listMyInvitations createdAt actor db)
  | .listEligibleGroups actor => .eligibleGroups (CheckinService.listEligibleGroups actor db)

def Operation.answer (env : Env) (s : Service) : Operation → Answer
  | .create call => .event (createEvent call s.db).2
  | .update call => .event (updateEvent call s.db).2
  | .delete call => .deleted (deleteEvent call s.db).2
  | .register call => .registration (registerForEvent call s.db).2
  | .cancel call => .cancelled (cancelRegistration call s.db).2
  | .checkin call => .checkin (submitCheckin env call s).2
  | .mint call => .minted (mintQrToken env.crypto call s.db).2
  | .send call => .batch (sendInvitations env.crypto call s.db).2
  | .respond call => .responded (respondToInvitation call s.db).2
  | .purge _ => .silent
  | .rosters .. => .silent

def handle (env : Env) (s : Service) : Interaction → Service
  | .act op => serve env s op
  | .ask _ _ => s

def answer (env : Env) (s : Service) : Interaction → Answer
  | .act op => op.answer env s
  | .ask stamps query => query.answer env stamps s.db

end CheckinService
