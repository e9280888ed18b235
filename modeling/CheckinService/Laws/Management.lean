import CheckinService.Laws.Cohorts
import CheckinService.Laws.Operations
import CheckinService.Laws.Visibility

namespace CheckinService

open Relational

def Operation.manager : Operation → Option Actor
  | .update call => some call.actor
  | .delete call => some call.actor
  | .send call => some call.actor
  | .mint call => some call.actor
  | _ => none

def Operation.schoolIds : Operation → List String
  | .create call => call.actor.schoolId.toList
  | .update call => call.actor.schoolId.toList
  | .delete call => call.actor.schoolId.toList
  | .register call => call.actor.schoolId.toList
  | .cancel call => call.actor.schoolId.toList
  | .checkin call => call.actor.schoolId.toList
  | .mint call => call.actor.schoolId.toList
  | .send call => call.actor.schoolId.toList
  | .respond call => call.actor.schoolId.toList
  | .purge _ => []
  | .rosters groups _ _ => groups.rows.map SchoolAdminGroup.schoolId

structure SchoolOperation where
  op : Operation
  real : ∀ sid ∈ op.schoolIds, isPersonal sid = false

def serveSchools (env : Env) (s : Service) (o : SchoolOperation) : Service := serve env s o.op

def MayManage (actor : Actor) (e : Event) : Prop :=
  actor.userId = some e.ownerUserId ∨
    actor.isAdmin = true ∧ e.schoolId ≠ "" ∧ actor.schoolId = some e.schoolId

def Touches (db db' : Database) (e : Event) : Prop :=
  e ∉ db'.events.rows ∨
    (∃ i ∈ db'.invitations.rows, i ∉ db.invitations.rows ∧ i.eventId = e.id) ∨
      ∃ t ∈ db'.qrTokens.rows, t ∉ db.qrTokens.rows ∧ t.eventTable = .events ∧ t.eventId = e.id

def Managed (env : Env) (s : Service) (o : SchoolOperation) : Prop :=
  ∀ actor, o.op.manager = some actor → ∀ e ∈ s.db.events.rows,
    Touches s.db (serveSchools env s o).db e → MayManage actor e

structure Namespaced (db : Database) : Prop where
  owned : ∀ e ∈ db.events.rows, ∀ userId, e.schoolId = personalNamespace userId →
    e.ownerUserId = userId
  groups : ∀ g ∈ db.groups.rows, isPersonal g.schoolId = false

theorem isPersonal_personalNamespace (userId : String) :
    isPersonal (personalNamespace userId) = true := by
  simp [isPersonal, Py.startsWith, personalNamespace]

theorem personalNamespace_injective : Function.Injective personalNamespace := by
  intro userId userId' h
  exact (String.append_right_inj "user:").mp h

theorem isAdmin_of_service {actor : Actor} (h : actor.canonicalizeRole = "service") :
    actor.isAdmin = true := by
  rw [Actor.isAdmin, h]
  decide

theorem assertEventOwnerOrAdmin_eq_ok {actor : Actor} {owner school : String} :
    assertEventOwnerOrAdmin actor owner school = .ok () ↔
      actor.userId = some owner ∨
        (actor.isAdmin = true ∧ Py.orNone actor.schoolId = some school) ∨
          actor.canonicalizeRole = "service" := by
  rw [assertEventOwnerOrAdmin]
  split
  · simp [*]
  · split
    · simp_all
    · split <;> simp_all [httpError]

theorem mem_candidateTenants {actor : Actor} {tenant : String} :
    tenant ∈ candidateTenants actor ↔ Py.orNone actor.schoolId = some tenant ∨
      ∃ userId, Py.orNone actor.userId = some userId ∧ tenant = personalNamespace userId := by
  simp [candidateTenants, eq_comm]

theorem resolveEventTenant_mem {actor : Actor} {tenant : String}
    (h : resolveEventTenant actor = .ok tenant) : tenant ∈ candidateTenants actor := by
  rw [mem_candidateTenants]
  rcases resolveEventTenant_eq_ok.mp h with hschool | ⟨-, hpersonal⟩
  · exact Or.inl hschool
  · exact Or.inr hpersonal

theorem mayManage_of_admin {actor : Actor} {e : Event} (hadmin : actor.isAdmin = true)
    (hschool : Py.orNone actor.schoolId = some e.schoolId) : MayManage actor e := by
  obtain ⟨hid, hne⟩ := Py.orNone_eq_some.mp hschool
  exact Or.inr ⟨hadmin, hne, hid⟩

/-- The exit for services is no wider than the other two: their tenant is their own namespace,
where they own everything, or their own school. -/
theorem mayManage_of_assert {actor : Actor} {e : Event} {db : Database} (h : Namespaced db)
    (he : e ∈ db.events.rows) (htenant : e.schoolId ∈ candidateTenants actor)
    (hassert : assertEventOwnerOrAdmin actor e.ownerUserId e.schoolId = .ok ()) :
    MayManage actor e := by
  rcases mem_candidateTenants.mp htenant with hschool | ⟨userId, hid, hspace⟩
  · rcases assertEventOwnerOrAdmin_eq_ok.mp hassert with howner | ⟨hadmin, -⟩ | hservice
    · exact Or.inl howner
    · exact mayManage_of_admin hadmin hschool
    · exact mayManage_of_admin (isAdmin_of_service hservice) hschool
  · refine Or.inl ?_
    rw [h.owned e he userId hspace]
    exact (Py.orNone_eq_some.mp hid).1

section

variable {db db' : Database} {e : Event}

theorem Touches.of_events (h : Touches db db' e)
    (hrest : db' = { db with events := db'.events }) : e ∉ db'.events.rows := by
  rcases h with hgone | ⟨i, hi, hnew, -⟩ | ⟨t, ht, hnew, -⟩
  · exact hgone
  · rw [hrest] at hi
    exact absurd hi hnew
  · rw [hrest] at ht
    exact absurd ht hnew

theorem Touches.of_invitations (h : Touches db db' e) (he : e ∈ db.events.rows)
    (hrest : db' = { db with invitations := db'.invitations }) :
    ∃ i ∈ db'.invitations.rows, i ∉ db.invitations.rows ∧ i.eventId = e.id := by
  rcases h with hgone | hinvited | ⟨t, ht, hnew, -⟩
  · rw [hrest] at hgone
    exact absurd he hgone
  · exact hinvited
  · rw [hrest] at ht
    exact absurd ht hnew

theorem Touches.of_qrTokens (h : Touches db db' e) (he : e ∈ db.events.rows)
    (hrest : db' = { db with qrTokens := db'.qrTokens }) :
    ∃ t ∈ db'.qrTokens.rows, t ∉ db.qrTokens.rows ∧ t.eventTable = .events ∧
      t.eventId = e.id := by
  rcases h with hgone | ⟨i, hi, hnew, -⟩ | hminted
  · rw [hrest] at hgone
    exact absurd he hgone
  · rw [hrest] at hi
    exact absurd hi hnew
  · exact hminted

theorem Saves.mayManage {actor : Actor} {eventId : Int} {old new : Event}
    (hsaves : Saves actor eventId old new db db') (h : Namespaced db) (he : e ∈ db.events.rows)
    (htouches : Touches db db' e) : MayManage actor e := by
  obtain ⟨hmem, -, htenant, hassert⟩ := ownEvent_eq_ok.mp hsaves.owned
  have hgone := htouches.of_events hsaves.rest
  have hold : e = old := by
    by_contra hne
    refine hgone ?_
    rw [hsaves.rows]
    exact List.mem_map.mpr ⟨e, he, if_neg hne⟩
  rw [hold]
  exact mayManage_of_assert h hmem (resolveEventTenant_mem htenant) hassert

theorem Invites.mayManage {call : SendCall} {event : Event}
    (hinvites : Invites call event db db')
    (horganized : organizedEvent call.actor call.eventId db = .ok event) (h : Namespaced db)
    (he : e ∈ db.events.rows) (htouches : Touches db db' e) : MayManage call.actor e := by
  obtain ⟨hmem, hid, htenant, hassert⟩ := organizedEvent_eq_ok.mp horganized
  obtain ⟨hrest, new, hrows, hadded⟩ := hinvites
  obtain ⟨i, hi, hnew, hevent⟩ := htouches.of_invitations he hrest
  rw [hrows, List.mem_append] at hi
  have hinvited := (hadded i (hi.resolve_left hnew)).1
  have hsame : e = event :=
    db.events.eq_of_id he hmem (hevent.symm.trans (hinvited.trans hid.symm))
  rw [hsame]
  exact mayManage_of_assert h hmem htenant hassert

theorem Mints.mayManage {call : MintCall} {schoolId : String} {row : QrToken}
    (hmints : Mints call schoolId row db db') (he : e ∈ db.events.rows)
    (htouches : Touches db db' e) : MayManage call.actor e := by
  obtain ⟨hadmin, hschool, event, hmem, hid, hevent⟩ := mintSchool_eq_ok.mp hmints.allowed
  obtain ⟨t, ht, hnew, -, htoken⟩ := htouches.of_qrTokens he hmints.rest
  rw [hmints.rows, List.mem_append, List.mem_singleton] at ht
  rw [ht.resolve_left hnew, hmints.eventId] at htoken
  have hsame : e = event := db.events.eq_of_id he hmem (htoken.symm.trans hid.symm)
  rw [hsame]
  exact mayManage_of_admin hadmin (hschool.trans (congrArg some hevent.symm))

end

theorem not_touches_self (db : Database) {e : Event} (he : e ∈ db.events.rows) :
    ¬ Touches db db e := by
  rintro (hgone | ⟨i, hi, hnew, -⟩ | ⟨t, ht, hnew, -⟩)
  · exact hgone he
  · exact hnew hi
  · exact hnew ht

theorem managed_of_namespaced (env : Env) (s : Service) (o : SchoolOperation)
    (h : Namespaced s.db) : Managed env s o := by
  obtain ⟨op, hreal⟩ := o
  intro actor hactor e he htouches
  have hserves := serve_serves env s op
  simp only [serveSchools] at htouches
  generalize (serve env s op).db = db' at hserves htouches
  cases hserves with
  | nothing _ => exact absurd htouches (not_touches_self s.db he)
  | updates hsaves =>
    cases hactor
    exact hsaves.mayManage h he htouches
  | deletes hsaves =>
    cases hactor
    exact hsaves.mayManage h he htouches
  | invites horganized hinvites =>
    cases hactor
    exact hinvites.mayManage horganized h he htouches
  | mints hmints =>
    cases hactor
    exact hmints.mayManage he htouches
  | creates _ | registers _ | cancels _ | records _ | responds _ | scrubs | rosters => cases hactor

theorem StampedBy.owned {actor : Actor} {db : Database} {e : Event} (h : StampedBy actor db e)
    (hschool : ∀ sid, actor.schoolId = some sid → isPersonal sid = false)
    (hgroups : ∀ g ∈ db.groups.rows, isPersonal g.schoolId = false) {userId : String}
    (hspace : e.schoolId = personalNamespace userId) : e.ownerUserId = userId := by
  have hpersonal : isPersonal e.schoolId = true := by
    rw [hspace]
    exact isPersonal_personalNamespace userId
  rcases h with hown | hid | ⟨g, hg, hgroup⟩
  · exact personalNamespace_injective (hown.symm.trans hspace)
  · rw [hschool _ hid] at hpersonal
    cases hpersonal
  · rw [← hgroup, hgroups g hg] at hpersonal
    cases hpersonal

theorem namespaced_step (env : Env) (s : Service) (o : SchoolOperation) (h : Namespaced s.db) :
    Namespaced (serveSchools env s o).db := by
  obtain ⟨op, hreal⟩ := o
  have heffect := serve_effect env s op
  constructor
  · refine heffect.events.all h.owned ?_ ?_
    · intro e e' hsame howned userId hspace
      rw [hsame.ownerUserId]
      exact howned userId (hsame.schoolId.symm.trans hspace)
    · intro e hcreated userId hspace
      cases op with
      | create call =>
        refine hcreated.owned ?_ h.groups hspace
        intro sid hsid
        exact hreal sid (Option.mem_toList.mpr hsid)
      | update _ | delete _ | register _ | cancel _ | checkin _ | mint _ | send _ | respond _
      | purge _ | rosters _ _ _ => cases hcreated
  · simp only [serveSchools, heffect.groups]
    cases op with
    | rosters groups members relationships =>
      intro g hg
      exact hreal g.schoolId (List.mem_map_of_mem hg)
    | create _ | update _ | delete _ | register _ | cancel _ | checkin _ | mint _ | send _
    | respond _ | purge _ => exact h.groups

theorem namespaced_empty : Namespaced {} := by
  constructor <;> intro row hrow <;> cases hrow

/-- Nobody manages an event but its owner and the admins of its school. -/
theorem managed_always (env : Env) (limiter : RateLimiter) (ops : List SchoolOperation) :
    Machine.Guarded (serveSchools env) (Managed env) { limiter := limiter } ops := by
  apply Machine.guarded_invariant (I := fun s => Namespaced s.db)
  · intro s o h
    exact namespaced_step env s o h
  · intro s o h
    exact managed_of_namespaced env s o h
  · exact namespaced_empty

def Failure.refuses : Failure → Prop
  | .http e => e.statusCode = 403 ∨ e.statusCode = 404
  | .unhandled _ => False

def Refused (answer : Handler α) : Prop := ∃ f, answer = .error f ∧ f.refuses

structure Manages (actor : Actor) (eventId : Int) (db : Database) : Prop where
  update : ∀ payload, ¬ Refused (updateEvent ⟨eventId, payload, actor⟩ db).2
  delete : ¬ Refused (deleteEvent ⟨eventId, actor⟩ db).2
  send : ∀ c payload, ¬ Refused (sendInvitations c ⟨eventId, payload, actor⟩ db).2
  list : ¬ Refused (listInvitations eventId actor db)

def InOwnTenant (call : CreateCall) (db : Database) : Prop :=
  call.payload.visibility = .groupOnly →
    match call.payload.groupKind with
    | some .schoolAdminGroup =>
      ∀ g ∈ db.groups.rows, call.payload.groupId = some g.id → g.isActive = true →
        resolveEventTenant call.actor = .ok g.schoolId
    | some .teamLeadCohort =>
      resolveEventTenant call.actor = .ok (personalNamespace (call.actor.userId.getD ""))
    | none => True

theorem not_refused_ok (a : α) : ¬ Refused (.ok a : Handler α) := by
  rintro ⟨f, h, -⟩
  cases h

theorem not_refused_error {f : Failure} (h : ¬ f.refuses) : ¬ Refused (.error f : Handler α) := by
  rintro ⟨f', hf, hrefuses⟩
  cases hf
  exact h hrefuses

section

variable {f : Failure}

theorem sanitizedTitle_error {title : Option String} (h : sanitizedTitle title = .error f) :
    ¬ f.refuses := by
  rw [(sanitizedTitle_eq_error.mp h).2]
  simp [Failure.refuses, emptyTitle]

theorem endsAfterStart_error {payload : EventUpdate} {event : Event}
    (h : endsAfterStart payload event = .error f) : ¬ f.refuses := by
  rcases endsAfterStart_cases payload event with ⟨-, hends⟩ | ⟨-, -, hends⟩ | ⟨-, -, hends⟩
  · rw [hends] at h
    cases h
    exact id
  · rw [hends] at h
    cases h
    simp [Failure.refuses]
  · rw [hends] at h
    cases h

theorem notNull_error {field : Field (Option α)} {stored : α}
    (h : notNull field stored = .error f) : ¬ f.refuses := by
  cases field with
  | unset => cases h
  | supplied o =>
    cases o with
    | none =>
      cases h
      exact id
    | some value => cases h

theorem patched_error {payload : EventUpdate} {event : Event}
    (h : patched payload event = .error f) : ¬ f.refuses := by
  rcases Except.bind_eq_error.mp h with htitle | ⟨title, -, h⟩
  · rw [patchedTitle] at htitle
    split at htitle
    · cases htitle
    · exact sanitizedTitle_error htitle
  rcases Except.bind_eq_error.mp h with hends | ⟨_, -, h⟩
  · exact endsAfterStart_error hends
  rcases Except.bind_eq_error.mp h with hmethod | ⟨method, -, h⟩
  · exact notNull_error hmethod
  rcases Except.bind_eq_error.mp h with hstatus | ⟨status, -, h⟩
  · exact notNull_error hstatus
  rcases Except.bind_eq_error.mp h with hvisibility | ⟨visibility, -, h⟩
  · exact notNull_error hvisibility
  rcases Except.bind_eq_error.mp h with hnfc | ⟨nfc, -, h⟩
  · exact notNull_error hnfc
  cases h

theorem ownEvent_error {actor : Actor} {eventId : Int} {db : Database}
    (h : ownEvent actor eventId db = .error f) : f.refuses := by
  rcases Except.bind_eq_error.mp h with htenant | ⟨tenant, -, h⟩
  · rw [actorTenant_eq, resolveEventTenant] at htenant
    split at htenant
    · cases htenant
    · cases htenant
    · cases htenant
      exact Or.inl rfl
  · split at h
    · cases h
      exact Or.inr rfl
    · rcases Except.bind_eq_error.mp h with hassert | ⟨_, -, h⟩
      · rw [assertEventOwnerOrAdmin] at hassert
        split_ifs at hassert
        cases hassert
        exact Or.inl rfl
      · cases h

end

section

variable {actor : Actor} {eventId : Int} {db : Database} {event : Event}

theorem Manages.of_found (hown : ownEvent actor eventId db = .ok event)
    (horganized : organizedEvent actor eventId db = .ok event) : Manages actor eventId db where
  update payload := by
    cases hpatched : patched payload event with
    | ok new =>
      rw [updateEvent_of_ok hown hpatched]
      exact not_refused_ok new
    | error f =>
      rw [updateEvent_of_error hown hpatched]
      exact not_refused_error (patched_error hpatched)
  delete := by simp [deleteEvent, hown, not_refused_ok]
  send c payload := by
    simp only [sendInvitations, horganized]
    split
    · exact not_refused_error id
    · exact not_refused_ok _
  list := by
    simp only [listInvitations, horganized]
    exact not_refused_ok _

theorem Manages.found (h : Manages actor eventId db) :
    ∃ event, ownEvent actor eventId db = .ok event := by
  cases hown : ownEvent actor eventId db with
  | ok event => exact ⟨event, rfl⟩
  | error f =>
    refine absurd ?_ h.delete
    simp only [deleteEvent, hown]
    exact ⟨f, rfl, ownEvent_error hown⟩

theorem owner_manages_iff (hevent : event ∈ db.events.rows)
    (howner : actor.userId = some event.ownerUserId) :
    Manages actor event.id db ↔ resolveEventTenant actor = .ok event.schoolId := by
  constructor
  · intro h
    obtain ⟨found, hfound⟩ := h.found
    obtain ⟨hmem, hid, htenant, -⟩ := ownEvent_eq_ok.mp hfound
    rw [← db.events.eq_of_id hmem hevent hid]
    exact htenant
  · intro htenant
    have hassert := assertEventOwnerOrAdmin_eq_ok.mpr (Or.inl (b := (actor.isAdmin = true ∧
      Py.orNone actor.schoolId = some event.schoolId) ∨ actor.canonicalizeRole = "service") howner)
    exact Manages.of_found (ownEvent_eq_ok.mpr ⟨hevent, rfl, htenant, hassert⟩)
      (organizedEvent_eq_ok.mpr ⟨hevent, rfl, resolveEventTenant_mem htenant, hassert⟩)

end

theorem Event.Same.run (env : Env) {s : Service} {e : Event} (he : e ∈ s.db.events.rows)
    (ops : List Operation) :
    ∃ e' ∈ (Machine.run (serve env) s ops).db.events.rows, Event.Same e e' := by
  apply Machine.run_invariant (I := fun s : Service => ∃ e' ∈ s.db.events.rows, Event.Same e e')
  · rintro s op ⟨e', he', hsame⟩
    obtain ⟨e'', he'', hsame'⟩ := (serve_effect env s op).events.keeps e' he'
    exact ⟨e'', he'', hsame.trans hsame'⟩
  · exact ⟨e, he, .refl e⟩

theorem Creates.ownTenant_iff {call : CreateCall} {event : Event} {db db' : Database}
    (h : Creates call event db db') :
    resolveEventTenant call.actor = .ok event.schoolId ↔ InOwnTenant call db := by
  obtain ⟨key, title, hreads, -⟩ := h.reads
  rw [InOwnTenant]
  rcases createReads_tier hreads with ⟨hother, hown⟩ | ⟨hgroup, groupId, groupKind, hid, hkind, h⟩
  · exact ⟨fun _ h => absurd h hother, fun _ => hown⟩
  · simp only [hgroup, hkind, forall_const]
    cases groupKind with
    | schoolAdminGroup =>
      obtain ⟨g, hg, hgid, hactive, hschool⟩ := assertGroupEventEligible_group h
      constructor
      · intro htenant g' hg' hid' _
        rw [hid, Option.some.injEq] at hid'
        rw [db.groups.eq_of_id hg' hg (hid'.symm.trans hgid.symm), hschool]
        exact htenant
      · intro hall
        rw [← hschool]
        exact hall g hg (by rw [hid, hgid]) hactive
    | teamLeadCohort =>
      obtain ⟨userId, huser, hspace⟩ := assertGroupEventEligible_cohort h
      rw [hspace, (Py.orNone_eq_some.mp huser).1, Option.getD_some]

/-- The author of an event may manage it, for ever after, exactly when it is stamped with the
tenant that their own requests resolve to: a group of another school or a cohort of a lead with a
school is out of their reach. -/
theorem creator_manages_iff (env : Env) (s : Service) (call : CreateCall) (event : Event)
    (userId : String) (ops : List Operation) (hid : Py.orNone call.actor.userId = some userId)
    (hinserted : (createEvent call s.db).1.events.rows = s.db.events.rows ++ [event]) :
    Manages call.actor event.id (Machine.run (serve env) s (.create call :: ops)).db ↔
      InOwnTenant call s.db := by
  rw [Machine.run]
  have hcreates := createEvent_inserts hinserted
  have hmem : event ∈ (serve env s (.create call)).db.events.rows := by
    simp only [serve, hinserted, List.mem_append, List.mem_singleton, or_true]
  obtain ⟨e, he, hsame⟩ := Event.Same.run env hmem ops
  have howner : call.actor.userId = some e.ownerUserId := by
    obtain ⟨key, title, -, hevent⟩ := hcreates.reads
    rw [hsame.ownerUserId, hevent, (Py.orNone_eq_some.mp hid).1]
    simp [newEvent, hid]
  rw [← hcreates.ownTenant_iff, ← hsame.id, ← hsame.schoolId]
  exact owner_manages_iff he howner

theorem creator_manages_sample :
    Manages sampleCreator 1 (Machine.run (serve sampleEnv) {}
      [.create sampleSmallEvent, .register (sampleRegister sampleFan)]).db := by
  have hiff := creator_manages_iff sampleEnv {} sampleSmallEvent
    (newEvent sampleSmallEvent "user:7" none "Mixer" 1) "7" [.register (sampleRegister sampleFan)]
    (by decide +kernel) (by decide +kernel)
  exact hiff.mpr (fun h => absurd h (by decide))

def sampleSchoolCohortCreate : CreateCall where
  payload := sampleCohortCreate.payload
  actor := ⟨some "11", some "college_team_lead", none, some "school-1"⟩

/-- A team lead with a school creates an event for their cohort, which goes to their own
namespace; they cannot delete it again, because the lookup is in their school. -/
theorem creator_manages_fails_cohort :
    sampleSchoolCohortCreate.payload.accepted 500 = true ∧
      ¬ ∀ (env : Env) (s : Service) (call : CreateCall) (event : Event) (userId : String)
        (ops : List Operation), Py.orNone call.actor.userId = some userId →
          (createEvent call s.db).1.events.rows = s.db.events.rows ++ [event] →
            Manages call.actor event.id
              (Machine.run (serve env) s (.create call :: ops)).db := by
  refine ⟨by decide +kernel, ?_⟩
  intro h
  have hmanages := h sampleEnv {} sampleSchoolCohortCreate
    (newEvent sampleSchoolCohortCreate "user:11" none "Practice" 1) "11" [] (by decide +kernel)
    (by decide +kernel)
  have hrefused : (deleteEvent ⟨1, sampleSchoolCohortCreate.actor⟩
      (createEvent sampleSchoolCohortCreate {}).1).2 = .error (.http eventNotFound) := by
    decide +kernel
  exact hmanages.delete ⟨_, hrefused, Or.inr rfl⟩

end CheckinService
