import CheckinService.Bearer
import CheckinService.Laws.Confinement

namespace CheckinService

open Relational

def Operation.as_ (actor : Actor) : Operation → Operation
  | .create call => .create { call with actor }
  | .update call => .update { call with actor }
  | .delete call => .delete { call with actor }
  | .register call => .register { call with actor }
  | .cancel call => .cancel { call with actor }
  | .checkin call => .checkin { call with actor }
  | .mint call => .mint { call with actor }
  | .send call => .send { call with actor }
  | .respond call => .respond { call with actor }
  | .purge call => .purge call
  | .rosters groups members relationships => .rosters groups members relationships

/-- A request as it comes in; the caller that its operation names is overwritten. -/
structure HttpRequest where
  op : Operation
  called : op.caller.isSome = true
  creds : Credentials
  answer : TokenAnswer

def HttpRequest.actor (settings : AuthSettings) (request : HttpRequest) : Handler Actor :=
  requireBearerActor settings request.creds request.answer

def serveHttp (env : Env) (settings : AuthSettings) (s : Service) (request : HttpRequest) :
    Service :=
  match request.actor settings with
  | .error _ => s
  | .ok actor => serve env s (request.op.as_ actor)

structure AttendanceOnly (db db' : Database) : Prop where
  events : db'.events = db.events
  invitations : db'.invitations = db.invitations
  qrTokens : Table.Evolves (fun t t' => ∃ user, QrToken.UsedBy user t t') (fun _ => False)
    db.qrTokens db'.qrTokens
  groups : db'.groups = db.groups
  members : db'.members = db.members
  relationships : db'.relationships = db.relationships

section

variable {settings : AuthSettings} {request : HttpRequest} {actor : Actor} {db db' db'' : Database}

theorem requireServiceName_eq_ok {creds : Credentials}
    (h : requireServiceName settings creds = .ok actor) : actor = serviceActor := by
  simp only [requireServiceName] at h
  split at h
  · cases h
  · split at h
    · cases h
    · cases h
      rfl

theorem HttpRequest.actor_of_unconfirmed (h : request.actor settings = .ok actor)
    (hunconfirmed : ∀ claims, request.answer ≠ .confirmed claims) :
    actor = serviceActor ∧ settings.isInternal request.creds = true := by
  rw [HttpRequest.actor, requireBearerActor] at h
  split at h
  · rename_i hinternal
    exact ⟨requireServiceName_eq_ok h, hinternal⟩
  · split at h
    · split at h
      · cases hanswer : request.answer with
        | unreachable =>
          rw [hanswer] at h
          cases h
        | refused =>
          rw [hanswer] at h
          cases h
        | confirmed claims => exact absurd hanswer (hunconfirmed claims)
      · cases h
    · cases h

theorem Operation.caller_as {op : Operation} (h : op.caller.isSome = true) (actor : Actor) :
    (op.as_ actor).caller = some actor := by
  cases op <;> first | rfl | cases h

theorem AttendanceOnly.refl (db : Database) : AttendanceOnly db db :=
  ⟨rfl, rfl, .refl (fun t => ⟨"", .refl "" t⟩) _, rfl, rfl, rfl⟩

theorem AttendanceOnly.trans (h : AttendanceOnly db db') (h' : AttendanceOnly db' db'') :
    AttendanceOnly db db'' where
  events := h'.events.trans h.events
  invitations := h'.invitations.trans h.invitations
  qrTokens := by
    apply Table.Evolves.trans _ _ h.qrTokens h'.qrTokens
    · rintro t t' t'' ⟨user, rfl | ⟨hunburnt, at_, rfl⟩⟩ ⟨user', hused⟩
      · exact ⟨user', hused⟩
      · rcases hused with rfl | ⟨hburnt, -⟩
        · exact ⟨user, Or.inr ⟨hunburnt, at_, rfl⟩⟩
        · simp [QrToken.unburnt] at hburnt
    · exact fun hN _ => hN
  groups := h'.groups.trans h.groups
  members := h'.members.trans h.members
  relationships := h'.relationships.trans h.relationships

theorem Recorded.attendanceOnly {env : Env} {call : CheckinCall} {s : Service} {target : String}
    {plan : CheckinPlan} (hrec : Recorded env call s target plan) :
    AttendanceOnly s.db (submitCheckin env call s).1.db := by
  have heffect := hrec.effect
  refine ⟨heffect.events, heffect.invitations, .of_map heffect.qrTokens ?_, heffect.groups,
    heffect.members, heffect.relationships⟩
  intro t ht
  refine ⟨target, ?_⟩
  split
  · rename_i hredeems
    exact hrec.usedBy ht hredeems
  · exact .refl target t

theorem resolveEventTenant_service (tenant : String) :
    resolveEventTenant serviceActor ≠ .ok tenant := by
  simp [resolveEventTenant, serviceActor, Py.orNone, httpError]

theorem serve_service (env : Env) (s : Service) {op : Operation}
    (hcaller : op.caller = some serviceActor) : AttendanceOnly s.db (serve env s op).db := by
  have hunchanged : ∀ db, db = s.db → AttendanceOnly s.db db := by
    rintro _ rfl
    exact .refl s.db
  cases op with
  | create call =>
    have hactor : call.actor = serviceActor := Option.some.inj hcaller
    simp only [serve]
    rcases createEvent_cases call s.db with hsame | ⟨event, hcreates⟩
    · exact hunchanged _ hsame
    · obtain ⟨key, title, hreads, -⟩ := hcreates.reads
      obtain ⟨own, hown, -⟩ := createReads_tenant hreads
      rw [hactor] at hown
      exact absurd hown (resolveEventTenant_service own)
  | update call =>
    have hactor : call.actor = serviceActor := Option.some.inj hcaller
    simp only [serve]
    rcases updateEvent_cases call s.db with hsame | ⟨old, new, hsaves⟩
    · exact hunchanged _ hsame
    · have htenant := (ownEvent_eq_ok.mp hsaves.owned).2.2.1
      rw [hactor] at htenant
      exact absurd htenant (resolveEventTenant_service _)
  | delete call =>
    have hactor : call.actor = serviceActor := Option.some.inj hcaller
    simp only [serve]
    rcases deleteEvent_cases call s.db with hsame | ⟨old, hsaves⟩
    · exact hunchanged _ hsame
    · have htenant := (ownEvent_eq_ok.mp hsaves.owned).2.2.1
      rw [hactor] at htenant
      exact absurd htenant (resolveEventTenant_service _)
  | register call =>
    simp only [serve]
    rcases registerForEvent_cases call s.db with hsame | ⟨target, event, hregisters⟩
    · exact hunchanged _ hsame
    · obtain ⟨registrations, hresult, -⟩ := hregisters.result
      rw [hresult]
      exact { AttendanceOnly.refl s.db with }
  | cancel call =>
    simp only [serve]
    rcases cancelRegistration_cases call s.db with hsame | ⟨r, -, hcancel⟩
    · exact hunchanged _ hsame
    · rw [hcancel]
      exact { AttendanceOnly.refl s.db with }
  | checkin call =>
    simp only [serve]
    rcases submitCheckin_cases env call s with hsame | ⟨target, plan, hrec⟩
    · exact hunchanged _ hsame
    · exact hrec.attendanceOnly
  | mint call =>
    have hactor : call.actor = serviceActor := Option.some.inj hcaller
    simp only [serve]
    rcases mintQrToken_cases env.crypto call s.db with hsame | ⟨schoolId, row, hmints⟩
    · exact hunchanged _ hsame
    · have hschool := (mintSchool_eq_ok.mp hmints.allowed).2.1
      rw [hactor] at hschool
      cases hschool
  | send call =>
    have hactor : call.actor = serviceActor := Option.some.inj hcaller
    simp only [serve]
    rcases sendInvitations_cases env.crypto call s.db with hsame | ⟨event, horganized, -⟩
    · exact hunchanged _ hsame
    · have htenant := (organizedEvent_eq_ok.mp horganized).2.2.1
      rw [hactor] at htenant
      cases htenant
  | respond call =>
    have hactor : call.actor = serviceActor := Option.some.inj hcaller
    simp only [serve]
    rcases respondToInvitation_cases call s.db with hsame | ⟨i, htarget, -⟩
    · exact hunchanged _ hsame
    · have hself := (respondTarget_eq_ok.mp htarget).2.2.2
      rw [hactor] at hself
      cases hself
  | purge call => cases hcaller
  | rosters groups members relationships => cases hcaller

theorem serveHttp_rel {env : Env} {P : Actor → Prop} {R : Database → Database → Prop}
    (refl : ∀ db, R db db) (trans : ∀ {db db' db''}, R db db' → R db' db'' → R db db'')
    (step : ∀ s op actor, op.caller = some actor → P actor → R s.db (serve env s op).db)
    {requests : List HttpRequest}
    (hrequests : ∀ request ∈ requests, ∀ actor, request.actor settings = .ok actor → P actor)
    (s : Service) : R s.db (Machine.run (serveHttp env settings) s requests).db := by
  apply Machine.run_rel (R := fun s s' : Service => R s.db s'.db)
  · exact fun s => refl s.db
  · exact fun h h' => trans h h'
  · intro s request hmem
    rw [serveHttp]
    split
    · exact refl s.db
    · rename_i actor hactor
      exact step s _ actor (Operation.caller_as request.called actor)
        (hrequests request hmem actor hactor)

end

/-- As long as the auth service confirms nobody, no run of requests, whatever their headers,
touches an event, an invitation or a membership, or makes a token: all that the internal token is
good for is to take attendance, and without it nothing changes. -/
theorem unconfirmed_run (env : Env) (settings : AuthSettings) (s : Service)
    (requests : List HttpRequest)
    (hrequests : ∀ request ∈ requests, ∀ claims, request.answer ≠ .confirmed claims) :
    AttendanceOnly s.db (Machine.run (serveHttp env settings) s requests).db ∧
      ((∀ request ∈ requests, settings.isInternal request.creds = false) →
        (Machine.run (serveHttp env settings) s requests).db = s.db) := by
  have hactor : ∀ request ∈ requests, ∀ actor, request.actor settings = .ok actor →
      actor = serviceActor ∧ settings.isInternal request.creds = true := by
    intro request hmem actor h
    exact HttpRequest.actor_of_unconfirmed h (hrequests request hmem)
  constructor
  · apply serveHttp_rel (P := fun actor => actor = serviceActor) AttendanceOnly.refl
      AttendanceOnly.trans
    · rintro s op _ hcaller rfl
      exact serve_service env s hcaller
    · intro request hmem actor h
      exact (hactor request hmem actor h).1
  · intro hexternal
    apply serveHttp_rel (P := fun _ => False) (R := fun db db' => db' = db) (fun _ => rfl)
      (fun h h' => h'.trans h) (fun _ _ _ _ h => h.elim)
    intro request hmem actor h
    have hinternal := (hactor request hmem actor h).2
    rw [hexternal request hmem] at hinternal
    cases hinternal

def sampleSettings : AuthSettings :=
  .ofEnv (some "c0ffee ") (some "Greek-Life-Advisor, , crm")

def sampleInternal : HttpRequest where
  op := .register
    { sampleRegister sampleFan with
      payload := { attendeeUserId := some "fan-7", attendeeUserId_length := by decide } }
  called := rfl
  creds := { serviceToken := some "c0ffee", serviceName := some "greek-life-advisor" }
  answer := .refused

def sampleIntruder : HttpRequest where
  op := .delete { eventId := 1, actor := sampleCoach }
  called := rfl
  creds := { bearer := some ("Bearer", "forged") }
  answer := .refused

theorem unconfirmed_run_sample :
    AttendanceOnly sampleDatabase
      (Machine.run (serveHttp sampleEnv sampleSettings) { db := sampleDatabase }
        [sampleInternal, sampleIntruder]).db := by
  refine (unconfirmed_run sampleEnv sampleSettings { db := sampleDatabase } _ ?_).1
  intro request hmem claims
  rcases List.mem_pair.mp hmem with rfl | rfl <;> exact nofun

/-- A run of requests that are refused at the door or come from one user who is no admin, whatever
they ask for, changes no row of anybody else. -/
theorem confined_run (env : Env) (settings : AuthSettings) (user : String) (huser : user ≠ "")
    (s : Service) (requests : List HttpRequest)
    (hrequests : ∀ request ∈ requests, ∀ actor, request.actor settings = .ok actor →
      actor.IsPlain user) :
    Confined user s.db (Machine.run (serveHttp env settings) s requests).db := by
  apply serveHttp_rel (P := Actor.IsPlain user) (Confined.refl user) Confined.trans
  · intro s op actor hcaller h
    exact serve_confined env huser s hcaller h
  · exact hrequests

def sampleVisitor : HttpRequest where
  op := .register (sampleRegister sampleCoach)
  called := rfl
  creds := { bearer := some ("bearer", "e30"), serviceToken := some "guess" }
  answer := .confirmed { id := .text "fan-2", role := some " Fan" }

theorem confined_run_sample :
    Confined "fan-2" sampleDatabase
      (Machine.run (serveHttp sampleEnv sampleSettings) { db := sampleDatabase }
        [sampleVisitor, sampleIntruder]).db := by
  apply confined_run sampleEnv sampleSettings "fan-2" (by decide) { db := sampleDatabase }
  have hvisitor : sampleVisitor.actor sampleSettings =
      .ok ⟨some "fan-2", some "fan", some "fan", none⟩ := by decide +kernel
  have hintruder : (sampleIntruder.actor sampleSettings).isOk = false := by decide +kernel
  intro request hmem actor hactor
  rcases List.mem_pair.mp hmem with rfl | rfl
  · cases hvisitor.symm.trans hactor
    exact ⟨rfl, by decide +kernel⟩
  · rw [hactor] at hintruder
    cases hintruder

end CheckinService
