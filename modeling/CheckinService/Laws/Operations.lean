import CheckinService.Jobs.GeofenceRetention
import CheckinService.Laws.Capacity
import CheckinService.Laws.Events
import CheckinService.Laws.Invitations
import CheckinService.Routers.QrTokens

namespace CheckinService

open Relational

inductive Operation where
  | create (call : CreateCall)
  | update (call : UpdateCall)
  | delete (call : DeleteCall)
  | register (call : RegisterCall)
  | cancel (call : CancelCall)
  | checkin (call : CheckinCall)
  | mint (call : MintCall)
  | send (call : SendCall)
  | respond (call : RespondCall)
  | purge (call : PurgeCall)
  -- the tables of the other service, which this one only reads
  | rosters (groups : Table SchoolAdminGroup) (members : Table SchoolAdminGroupMember)
    (relationships : Table TeamLeadRelationship)

def serve (env : Env) (s : Service) : Operation → Service
  | .create call => { s with db := (createEvent call s.db).1 }
  | .update call => { s with db := (updateEvent call s.db).1 }
  | .delete call => { s with db := (deleteEvent call s.db).1 }
  | .register call => { s with db := (registerForEvent call s.db).1 }
  | .cancel call => { s with db := (cancelRegistration call s.db).1 }
  | .checkin call => (submitCheckin env call s).1
  | .mint call => { s with db := (mintQrToken env.crypto call s.db).1 }
  | .send call => { s with db := (sendInvitations env.crypto call s.db).1 }
  | .respond call => { s with db := (respondToInvitation call s.db).1 }
  | .purge call => { s with db := (purgeOldGeofenceHashes call s.db).1 }
  | .rosters groups members relationships =>
    { s with
      db := { s.db with
        groups := groups, members := members, relationships := relationships } }

def Refers (db : Database) (eventId : Int) (schoolId : String) : Prop :=
  ∃ e ∈ db.events.rows, e.id = eventId ∧ e.schoolId = schoolId

def Registered (db : Database) (eventId : Int) (attendee : String) : Prop :=
  ∃ r ∈ db.registrations.rows, r.eventId = eventId ∧ r.attendeeUserId = attendee

def EventRegistration.reference (r : EventRegistration) : Int × String × String :=
  (r.eventId, r.schoolId, r.attendeeUserId)

def EventCheckin.reference (c : EventCheckin) : Int × String × String :=
  (c.eventId, c.schoolId, c.attendeeUserId)

def EventInvitation.reference (i : EventInvitation) : Int × String :=
  (i.eventId, i.schoolId)

def QrToken.reference (t : QrToken) : EventTable × Int × String :=
  (t.eventTable, t.eventId, t.schoolId)

/-- What one operation does: old rows keep what they refer to, and new rows refer to events that
were there before, under the event's school.  A new event meets `created`. -/
structure Effect (created : Event → Prop) (groups : Table SchoolAdminGroup) (db db' : Database) :
    Prop where
  events : Table.Evolves Event.Same created db.events db'.events
  registrations : Table.Evolves (Table.Keeps EventRegistration.reference)
    (fun r => Refers db r.eventId r.schoolId) db.registrations db'.registrations
  checkins : Table.Evolves (Table.Keeps EventCheckin.reference)
    (fun c => Refers db c.eventId c.schoolId ∧ Registered db c.eventId c.attendeeUserId)
    db.checkins db'.checkins
  invitations : Table.Evolves (Table.Keeps EventInvitation.reference)
    (fun i => Refers db i.eventId i.schoolId) db.invitations db'.invitations
  qrTokens : Table.Evolves (Table.Keeps QrToken.reference)
    (fun t => Refers db t.eventId t.schoolId) db.qrTokens db'.qrTokens
  groups : db'.groups = groups

def StampedBy (actor : Actor) (db : Database) (e : Event) : Prop :=
  e.schoolId = personalNamespace e.ownerUserId ∨ actor.schoolId = some e.schoolId ∨
    ∃ g ∈ db.groups.rows, g.schoolId = e.schoolId

def Operation.creates (db : Database) : Operation → Event → Prop
  | .create call, e => StampedBy call.actor db e
  | _, _ => False

def Operation.groups (db : Database) : Operation → Table SchoolAdminGroup
  | .rosters groups _ _ => groups
  | _ => db.groups

section

variable {created : Event → Prop} {db db' : Database}

theorem Effect.refl (created : Event → Prop) (db : Database) :
    Effect created db.groups db db where
  events := .refl Event.Same.refl _
  registrations := .refl (Table.Keeps.refl _) _
  checkins := .refl (Table.Keeps.refl _) _
  invitations := .refl (Table.Keeps.refl _) _
  qrTokens := .refl (Table.Keeps.refl _) _
  groups := rfl

theorem Effect.of_eq (h : db' = db) : Effect created db.groups db db' := by
  rw [h]
  exact .refl created db

theorem resolveEventTenant_eq_ok {actor : Actor} {tenant : String} :
    resolveEventTenant actor = .ok tenant ↔
      Py.orNone actor.schoolId = some tenant ∨
        Py.orNone actor.schoolId = none ∧
          ∃ userId, Py.orNone actor.userId = some userId ∧ tenant = personalNamespace userId := by
  rw [resolveEventTenant]
  cases Py.orNone actor.schoolId with
  | some school => simp
  | none => cases Py.orNone actor.userId <;> simp [httpError, eq_comm]

theorem assertGroupEventEligible_group {actor : Actor} {groupId : Int} {tenant : String}
    (h : assertGroupEventEligible actor .schoolAdminGroup groupId db = .ok tenant) :
    ∃ g ∈ db.groups.rows, g.id = groupId ∧ g.isActive = true ∧ g.schoolId = tenant := by
  simp only [assertGroupEventEligible] at h
  split at h
  · cases h
  · rename_i group hgroup
    obtain ⟨hmem, hid, hactive⟩ := Table.first_id_eq_some.mp hgroup
    split at h
    · cases h
      exact ⟨group, hmem, hid, hactive, rfl⟩
    · cases h

theorem assertGroupEventEligible_cohort {actor : Actor} {groupId : Int} {tenant : String}
    (h : assertGroupEventEligible actor .teamLeadCohort groupId db = .ok tenant) :
    ∃ userId, Py.orNone actor.userId = some userId ∧ tenant = personalNamespace userId := by
  simp only [assertGroupEventEligible] at h
  split at h
  · cases h
  · rename_i hdigits
    obtain ⟨digits, -, h⟩ := Except.bind_eq_ok.mp h
    split at h
    · cases h
    · cases h
      refine ⟨actor.userId.getD "", ?_, rfl⟩
      cases hid : actor.userId with
      | none => simp [hid, cohortDigits] at hdigits
      | some userId =>
        refine Py.orNone_eq_some.mpr ⟨rfl, ?_⟩
        rintro rfl
        simp [hid, cohortDigits] at hdigits

theorem Creates.stampedBy {call : CreateCall} {event : Event}
    (h : Creates call event db db') : StampedBy call.actor db event := by
  obtain ⟨key, title, hreads, hevent⟩ := h.reads
  have howner : event.ownerUserId = (Py.orNone call.actor.userId).getD "service" := by
    rw [hevent]
    rfl
  have hpersonal : ∀ userId, Py.orNone call.actor.userId = some userId →
      event.schoolId = personalNamespace userId → StampedBy call.actor db event := by
    intro userId hid hspace
    refine Or.inl ?_
    rw [howner, hid]
    exact hspace
  rcases createReads_tier hreads with ⟨-, hown⟩ | ⟨-, groupId, groupKind, -, -, heligible⟩
  · rcases resolveEventTenant_eq_ok.mp hown with hschool | ⟨-, userId, hid, hspace⟩
    · exact Or.inr (Or.inl (Py.orNone_eq_some.mp hschool).1)
    · exact hpersonal userId hid hspace
  · cases groupKind with
    | schoolAdminGroup =>
      obtain ⟨g, hg, -, -, hschool⟩ := assertGroupEventEligible_group heligible
      exact Or.inr (Or.inr ⟨g, hg, hschool⟩)
    | teamLeadCohort =>
      obtain ⟨userId, hid, hspace⟩ := assertGroupEventEligible_cohort heligible
      exact hpersonal userId hid hspace

theorem Creates.effect {call : CreateCall} {event : Event} (h : Creates call event db db') :
    Effect (StampedBy call.actor db) db.groups db db' := by
  have hevents : Table.Evolves Event.Same (StampedBy call.actor db) db.events db'.events := by
    apply Table.Evolves.of_append Event.Same.refl h.rows
    intro e he
    rw [List.mem_singleton.mp he]
    exact h.stampedBy
  rw [h.rest]
  exact { Effect.refl (StampedBy call.actor db) db with events := hevents }

theorem Saves.effect {actor : Actor} {eventId : Int} {old new : Event}
    (h : Saves actor eventId old new db db') : Effect created db.groups db db' := by
  have hevents : Table.Evolves Event.Same created db.events db'.events := by
    apply Table.Evolves.of_map h.rows
    intro e _
    split
    · rename_i he
      rw [he]
      exact h.same
    · exact Event.Same.refl e
  rw [h.rest]
  exact { Effect.refl created db with events := hevents }

theorem Registers.effect {call : RegisterCall} {target : String} {event : Event}
    (h : Registers call target event db) :
    Effect created db.groups db (registerForEvent call db).1 := by
  obtain ⟨registrations, hresult, hrows⟩ := h.result
  obtain ⟨hmem, hid⟩ := findEvent_eq_some.mp h.found
  rw [hresult]
  refine { Effect.refl created db with
    registrations := Table.Evolves.of_append (Table.Keeps.refl _) hrows ?_ }
  intro r hr
  rw [List.mem_singleton.mp hr]
  exact ⟨event, hmem, hid, rfl⟩

theorem cancelled_effect (registrationId : Int) :
    Effect created db.groups db (cancelled registrationId db) := by
  refine { Effect.refl created db with registrations := Table.Evolves.of_map rfl ?_ }
  intro r _
  split <;> rfl

theorem Recorded.operationEffect {env : Env} {call : CheckinCall} {s : Service} {target : String}
    {plan : CheckinPlan} (h : Recorded env call s target plan) :
    Effect created s.db.groups s.db (submitCheckin env call s).1.db := by
  have heffect := h.effect
  obtain ⟨hmem, hid⟩ := findEvent_eq_some.mp h.cleared.event_found
  obtain ⟨checkin, hcheckins, hevent, hattendee, hschool⟩ := heffect.checkins
  refine ⟨?_, ?_, ?_, ?_, ?_, heffect.groups⟩
  · rw [heffect.events]
    exact .refl Event.Same.refl _
  · apply Table.Evolves.of_map heffect.registrations
    intro r _
    split <;> rfl
  · apply Table.Evolves.of_append (Table.Keeps.refl _) hcheckins
    intro c hc
    rw [List.mem_singleton.mp hc]
    refine ⟨⟨plan.event, hmem, hid.trans hevent.symm, hschool.symm⟩, ?_⟩
    rw [hevent, hattendee]
    exact heffect.registered
  · rw [heffect.invitations]
    exact .refl (Table.Keeps.refl _) _
  · apply Table.Evolves.of_map heffect.qrTokens
    intro t _
    split <;> rfl

theorem Invites.effect {call : SendCall} {event : Event}
    (horganized : organizedEvent call.actor call.eventId db = .ok event)
    (h : Invites call event db db') : Effect created db.groups db db' := by
  obtain ⟨hmem, hid, -⟩ := organizedEvent_eq_ok.mp horganized
  obtain ⟨hrest, new, hrows, hnew⟩ := h
  have hinvitations : Table.Evolves (Table.Keeps EventInvitation.reference)
      (fun i => Refers db i.eventId i.schoolId) db.invitations db'.invitations := by
    apply Table.Evolves.of_append (Table.Keeps.refl _) hrows
    intro i hi
    obtain ⟨hevent, hschool⟩ := hnew i hi
    exact ⟨event, hmem, hid.trans hevent.symm, hschool.symm⟩
  rw [hrest]
  exact { Effect.refl created db with invitations := hinvitations }

theorem responded_effect (call : RespondCall) (invitationId : Int) :
    Effect created db.groups db (responded call invitationId db) := by
  refine { Effect.refl created db with invitations := Table.Evolves.of_map rfl ?_ }
  intro i _
  split <;> rfl

theorem scrubbed_effect (cutoff : ℚ) : Effect created db.groups db (scrubbed cutoff db) := by
  refine { Effect.refl created db with checkins := Table.Evolves.of_map rfl ?_ }
  intro c _
  split <;> rfl

theorem requireAdmin_eq_ok {actor : Actor} :
    requireAdmin actor = .ok () ↔ actor.isAdmin = true := by
  rw [requireAdmin]
  split <;> simp [httpError, *]

theorem mintSchool_eq_ok {call : MintCall} {schoolId : String} :
    mintSchool call db = .ok schoolId ↔
      call.actor.isAdmin = true ∧ Py.orNone call.actor.schoolId = some schoolId ∧
        ∃ event ∈ db.events.rows, event.id = call.eventId ∧ event.schoolId = schoolId := by
  have hfirst : ∀ event, (db.events.first fun e => e.id = call.eventId && e.schoolId = schoolId) =
      some event ↔ event ∈ db.events.rows ∧ event.id = call.eventId ∧
        event.schoolId = schoolId :=
    fun event => Table.first_id_and_eq_some
  constructor
  · intro h
    obtain ⟨_, hadmin, h⟩ := Except.bind_eq_ok.mp h
    refine ⟨requireAdmin_eq_ok.mp hadmin, ?_⟩
    split at h
    · cases h
    · rename_i school hschool
      split at h
      · cases h
      · rename_i event hevent
        cases h
        exact ⟨hschool, event, (hfirst event).mp hevent⟩
  · rintro ⟨hadmin, hschool, event, hevent⟩
    refine Except.bind_eq_ok.mpr ⟨(), requireAdmin_eq_ok.mpr hadmin, ?_⟩
    simp only [hschool, (hfirst event).mpr hevent]
    rfl

structure Mints (call : MintCall) (schoolId : String) (row : QrToken) (db db' : Database) :
    Prop where
  allowed : mintSchool call db = .ok schoolId
  eventId : row.eventId = call.eventId
  schoolId : row.schoolId = schoolId
  rows : db'.qrTokens.rows = db.qrTokens.rows ++ [row]
  rest : db' = { db with qrTokens := db'.qrTokens }

theorem mintQrToken_cases (c : Crypto) (call : MintCall) (db : Database) :
    (mintQrToken c call db).1 = db ∨
      ∃ schoolId row, Mints call schoolId row db (mintQrToken c call db).1 := by
  unfold mintQrToken
  cases hschool : mintSchool call db with
  | error f => exact Or.inl rfl
  | ok schoolId =>
    simp only
    cases hmint : mintToken c (call.args schoolId) call.nonce call.utcnow db with
    | error e => exact Or.inl rfl
    | ok minted =>
      obtain ⟨rawToken, row, db'⟩ := minted
      obtain ⟨hevent, hrow, hrest⟩ := mintToken_refers hmint
      have hrows := (mintToken_eq_ok hmint).2.rows
      exact Or.inr ⟨schoolId, row, hschool, hevent, hrow, hrows, hrest⟩

theorem Mints.effect {call : MintCall} {schoolId : String} {row : QrToken}
    (h : Mints call schoolId row db db') : Effect created db.groups db db' := by
  obtain ⟨-, -, event, hmem, hid, hschool⟩ := mintSchool_eq_ok.mp h.allowed
  have hqrTokens : Table.Evolves (Table.Keeps QrToken.reference)
      (fun t => Refers db t.eventId t.schoolId) db.qrTokens db'.qrTokens := by
    apply Table.Evolves.of_append (Table.Keeps.refl _) h.rows
    intro t ht
    rw [List.mem_singleton.mp ht]
    exact ⟨event, hmem, hid.trans h.eventId.symm, hschool.trans h.schoolId.symm⟩
  rw [h.rest]
  exact { Effect.refl created db with qrTokens := hqrTokens }

end

inductive Serves (env : Env) (s : Service) : Operation → Database → Prop where
  | nothing {op} (h : op.groups s.db = s.db.groups) : Serves env s op s.db
  | creates {call event db'} (h : Creates call event s.db db') : Serves env s (.create call) db'
  | updates {call old new db'} (h : Saves call.actor call.eventId old new s.db db') :
      Serves env s (.update call) db'
  | deletes {call old db'}
      (h : Saves call.actor call.eventId old { old with status := .cancelled } s.db db') :
      Serves env s (.delete call) db'
  | registers {call target event} (h : Registers call target event s.db) :
      Serves env s (.register call) (registerForEvent call s.db).1
  | cancels {call r} (h : r ∈ s.db.registrations.rows) :
      Serves env s (.cancel call) (cancelled r.id s.db)
  | records {call target plan} (h : Recorded env call s target plan) :
      Serves env s (.checkin call) (submitCheckin env call s).1.db
  | mints {call schoolId row db'} (h : Mints call schoolId row s.db db') :
      Serves env s (.mint call) db'
  | invites {call event} (horganized : organizedEvent call.actor call.eventId s.db = .ok event)
      (h : Invites call event s.db (sendInvitations env.crypto call s.db).1) :
      Serves env s (.send call) (sendInvitations env.crypto call s.db).1
  | responds {call i} (h : respondTarget call s.db = .ok i) :
      Serves env s (.respond call) (responded call i.id s.db)
  | scrubs {call cutoff} : Serves env s (.purge call) (scrubbed cutoff s.db)
  | rosters {groups members relationships} :
      Serves env s (.rosters groups members relationships)
        { s.db with groups := groups, members := members, relationships := relationships }

theorem serve_serves (env : Env) (s : Service) (op : Operation) :
    Serves env s op (serve env s op).db := by
  have hnothing : op.groups s.db = s.db.groups → ∀ db, db = s.db → Serves env s op db := by
    rintro hgroups _ rfl
    exact .nothing hgroups
  cases op with
  | create call =>
    simp only [serve]
    rcases createEvent_cases call s.db with hsame | ⟨event, hcreates⟩
    · exact hnothing rfl _ hsame
    · exact .creates hcreates
  | update call =>
    simp only [serve]
    rcases updateEvent_cases call s.db with hsame | ⟨old, new, hsaves⟩
    · exact hnothing rfl _ hsame
    · exact .updates hsaves
  | delete call =>
    simp only [serve]
    rcases deleteEvent_cases call s.db with hsame | ⟨old, hsaves⟩
    · exact hnothing rfl _ hsame
    · exact .deletes hsaves
  | register call =>
    simp only [serve]
    rcases registerForEvent_cases call s.db with hsame | ⟨target, event, hregisters⟩
    · exact hnothing rfl _ hsame
    · exact .registers hregisters
  | cancel call =>
    simp only [serve]
    rcases cancelRegistration_cases call s.db with hsame | ⟨r, hr, hcancel⟩
    · exact hnothing rfl _ hsame
    · rw [hcancel]
      exact .cancels hr
  | checkin call =>
    simp only [serve]
    rcases submitCheckin_cases env call s with hsame | ⟨target, plan, hrec⟩
    · exact hnothing rfl _ hsame
    · exact .records hrec
  | mint call =>
    simp only [serve]
    rcases mintQrToken_cases env.crypto call s.db with hsame | ⟨schoolId, row, hmints⟩
    · exact hnothing rfl _ hsame
    · exact .mints hmints
  | send call =>
    simp only [serve]
    rcases sendInvitations_cases env.crypto call s.db with hsame | ⟨event, horganized, hinvites⟩
    · exact hnothing rfl _ hsame
    · exact .invites horganized hinvites
  | respond call =>
    simp only [serve]
    rcases respondToInvitation_cases call s.db with hsame | ⟨i, htarget, hresponded⟩
    · exact hnothing rfl _ hsame
    · rw [hresponded]
      exact .responds htarget
  | purge call =>
    simp only [serve, purgeOldGeofenceHashes]
    split
    · exact .nothing rfl
    · split
      · exact .nothing rfl
      · exact .scrubs
  | rosters groups members relationships => exact .rosters

inductive Operation.Part where
  | events | registrations | checkins | invitations

def Operation.writes : Operation → Operation.Part → Bool
  | .create _, .events => true
  | .update _, .events => true
  | .delete _, .events => true
  | .register _, .registrations => true
  | .cancel _, .registrations => true
  | .checkin _, .registrations => true
  | .checkin _, .checkins => true
  | .send _, .invitations => true
  | .respond _, .invitations => true
  | .purge _, .checkins => true
  | _, _ => false

structure Frame (op : Operation) (db db' : Database) : Prop where
  events : op.writes .events = false → db'.events = db.events
  registrations : op.writes .registrations = false → db'.registrations = db.registrations
  checkins : op.writes .checkins = false → db'.checkins = db.checkins
  invitations : op.writes .invitations = false → db'.invitations = db.invitations

theorem Serves.frame {env : Env} {s : Service} {op : Operation} {db' : Database}
    (h : Serves env s op db') : Frame op s.db db' := by
  cases h with
  | nothing _ => exact ⟨fun _ => rfl, fun _ => rfl, fun _ => rfl, fun _ => rfl⟩
  | creates h =>
    rw [h.rest]
    exact ⟨nofun, fun _ => rfl, fun _ => rfl, fun _ => rfl⟩
  | updates h =>
    rw [h.rest]
    exact ⟨nofun, fun _ => rfl, fun _ => rfl, fun _ => rfl⟩
  | deletes h =>
    rw [h.rest]
    exact ⟨nofun, fun _ => rfl, fun _ => rfl, fun _ => rfl⟩
  | registers h =>
    obtain ⟨registrations, hresult, -⟩ := h.result
    rw [hresult]
    exact ⟨fun _ => rfl, nofun, fun _ => rfl, fun _ => rfl⟩
  | cancels _ => exact ⟨fun _ => rfl, nofun, fun _ => rfl, fun _ => rfl⟩
  | records h => exact ⟨fun _ => h.effect.events, nofun, nofun, fun _ => h.effect.invitations⟩
  | mints h =>
    rw [h.rest]
    exact ⟨fun _ => rfl, fun _ => rfl, fun _ => rfl, fun _ => rfl⟩
  | invites _ h =>
    rw [h.1]
    exact ⟨fun _ => rfl, fun _ => rfl, fun _ => rfl, nofun⟩
  | responds _ => exact ⟨fun _ => rfl, fun _ => rfl, fun _ => rfl, nofun⟩
  | scrubs => exact ⟨fun _ => rfl, fun _ => rfl, nofun, fun _ => rfl⟩
  | rosters => exact ⟨fun _ => rfl, fun _ => rfl, fun _ => rfl, fun _ => rfl⟩

theorem serve_effect (env : Env) (s : Service) (op : Operation) :
    Effect (op.creates s.db) (op.groups s.db) s.db (serve env s op).db := by
  have hserves := serve_serves env s op
  generalize (serve env s op).db = db' at hserves ⊢
  cases hserves with
  | nothing h =>
    rw [h]
    exact .refl _ s.db
  | creates h => exact h.effect
  | updates h => exact h.effect
  | deletes h => exact h.effect
  | registers h => exact h.effect
  | cancels h => exact cancelled_effect _
  | records h => exact h.operationEffect
  | mints h => exact h.effect
  | invites horganized h => exact h.effect horganized
  | responds h => exact responded_effect _ _
  | scrubs => exact scrubbed_effect _
  | rosters => exact { Effect.refl _ s.db with groups := rfl }

end CheckinService
