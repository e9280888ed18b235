import CheckinService.Laws.EventHistory
import CheckinService.Laws.EventRace
import CheckinService.Laws.Responses

namespace CheckinService

open Relational

section

variable {env : Env} {e : Event}

theorem createEvent_keyed {call : CreateCall} {db : Database} {key : String}
    (h : (createEvent call db).2 = .ok e)
    (hkey : validateIdemKey call.idempotencyKey = .ok (some key)) :
    e ∈ (createEvent call db).1.events.rows ∧ e.idempotencyKey = some key := by
  have hfound : ∀ {tenant existing}, findByIdemKey db tenant (some key) = some existing →
      existing ∈ db.events.rows ∧ existing.idempotencyKey = some key := by
    intro tenant existing hfind
    obtain ⟨k, hk, hmem, hkeyed⟩ := findByIdemKey_eq_some.mp hfind
    cases hk
    simp only [Event.keyed, Bool.and_eq_true, decide_eq_true_eq] at hkeyed
    exact ⟨hmem, hkeyed.2⟩
  cases hreads : createReads call db with
  | error f =>
    unfold createEvent at h
    simp only [hreads] at h
    cases h
  | ok reads =>
    obtain ⟨tenant, key', replay⟩ := reads
    obtain ⟨-, -, hvalid, hreplay⟩ := createReads_eq_ok.mp hreads
    cases hkey.symm.trans hvalid
    cases replay with
    | some existing =>
      unfold createEvent at h ⊢
      simp only [hreads, Except.ok.injEq] at h ⊢
      exact h ▸ hfound hreplay.symm
    | none =>
      cases htitle : sanitizedTitle (some call.payload.title) with
      | error f =>
        unfold createEvent at h
        simp only [hreads, htitle] at h
        cases h
      | ok title =>
        obtain ⟨events, hresult, hrows⟩ := createEvent_of_reads hreads htitle
        rw [hresult] at h ⊢
        cases h
        refine ⟨?_, rfl⟩
        simp [hrows]

theorem registerForEvent_stored {call : RegisterCall} {db : Database} {r : EventRegistration}
    (h : (registerForEvent call db).2 = .ok r) :
    r ∈ (registerForEvent call db).1.registrations.rows := by
  obtain ⟨db', hresult⟩ : ∃ db', registerForEvent call db = (db', .ok r) :=
    ⟨_, Prod.ext rfl h⟩
  rw [hresult]
  obtain ⟨target, -, hcases⟩ := registerForEvent_ok hresult
  rcases hcases with ⟨rfl, hreplay⟩ | ⟨rfl, hfound⟩ | ⟨event, -, hmem, -⟩
  · exact (replayedRegistration_eq_some hreplay).1
  · exact (findRegistration_eq_some.mp hfound).1
  · exact hmem

theorem registerForEvent_replays {retry : RegisterCall} {db : Database} {r : EventRegistration}
    {replay : Option EventRegistration} (hr : r ∈ db.registrations.rows)
    (hevent : r.eventId = retry.eventId) (htarget : registerTarget retry = .ok r.attendeeUserId)
    (hkey : Py.orNone retry.idempotencyKey = none ∨ r.idempotencyKey = retry.idempotencyKey)
    (hreads : registrationReads retry r.attendeeUserId db = .ok replay) :
    registerForEvent retry db = (db, .ok r) := by
  obtain ⟨event, hscope, -, -, hreplay⟩ := registrationReads_eq_ok.mp hreads
  have hlock : lockEvent db retry.eventId = .ok event :=
    lockEvent_eq_ok.mpr (resolveEventOr404_eq_ok.mp hscope).1
  have hrefused : insertRegistration retry r.attendeeUserId event (assignSeat db event) db = none :=
    insertRegistration_eq_none.mpr fun hunclaimed => (hunclaimed r hr hevent).1 rfl
  have hexisting : existingRegistration db retry.eventId r.attendeeUserId = .ok r := by
    rw [existingRegistration, findRegistration_eq_some.mpr ⟨hr, hevent, rfl⟩]
  unfold registerForEvent
  cases replay with
  | none => simp only [htarget, hreads, hlock, hrefused, hexisting]
  | some existing =>
    obtain ⟨hmem, hevent', key, hne, hretry, hexistingKey⟩ :=
      replayedRegistration_eq_some hreplay.symm
    have hrkey : r.idempotencyKey = some key := by
      rcases hkey with hkeyless | hkey
      · rw [Py.orNone_eq_some.mpr ⟨hretry, hne⟩] at hkeyless
        cases hkeyless
      · rw [hkey, hretry]
    have hsame : existing = r := by
      apply db.registrations.eq_of_key hmem hr (k := .eventIdem retry.eventId key)
      · simp [Row.keys, hexistingKey, hevent']
      · simp [Row.keys, hrkey, hevent]
    simp only [htarget, hreads, hsame]

end

/-- A create that goes through with a key can be retried for ever: whatever has happened since,
with the key and in the tenant of the event it is answered with the event as it is then, and
changes nothing. -/
theorem creation_replayed (env : Env) (s : Service) (call : CreateCall) (e : Event) (key : String)
    (h : (createEvent call s.db).2 = .ok e)
    (hkey : validateIdemKey call.idempotencyKey = .ok (some key)) (ops : List Operation)
    (retry : CreateCall) (replay : Option Event)
    (hretry : createReads retry
      (Machine.run (serve env) (serve env s (.create call)) ops).db =
        .ok (e.schoolId, some key, replay)) :
    createEvent retry (Machine.run (serve env) (serve env s (.create call)) ops).db =
      ((Machine.run (serve env) (serve env s (.create call)) ops).db,
        .ok (e.fate env (serve env s (.create call)) ops)) := by
  obtain ⟨hmem, hidempotency⟩ := createEvent_keyed h hkey
  have hstored : e ∈ (serve env s (.create call)).db.events.rows := by
    simp only [serve]
    exact hmem
  have hlater := (events_fate env (serve env s (.create call)) ops).subset
    (List.mem_map_of_mem hstored)
  have hkeyed : (e.fate env (serve env s (.create call)) ops).keyed e.schoolId key = true := by
    simp only [Event.keyed, Bool.and_eq_true, decide_eq_true_eq]
    exact ⟨rfl, hidempotency⟩
  have hfound := findByIdemKey_eq_some.mpr ⟨key, rfl, hlater, hkeyed⟩
  obtain ⟨-, -, -, hreplay⟩ := createReads_eq_ok.mp hretry
  rw [hfound] at hreplay
  rw [hreplay] at hretry
  unfold createEvent
  simp only [hretry]

def sampleRetriedRow : Event :=
  newEvent sampleRetriedEvent "school-1" (some "create-1") "Mixer" 1

def sampleCalledOff : List Operation := [.delete { eventId := 1, actor := sampleCoach }]

theorem creation_replayed_sample :
    createEvent sampleRetriedEvent (Machine.run (serve sampleEnv)
        (serve sampleEnv {} (.create sampleRetriedEvent)) sampleCalledOff).db =
      ((Machine.run (serve sampleEnv) (serve sampleEnv {} (.create sampleRetriedEvent))
          sampleCalledOff).db,
        .ok (sampleRetriedRow.fate sampleEnv
          (serve sampleEnv {} (.create sampleRetriedEvent)) sampleCalledOff)) :=
  creation_replayed sampleEnv {} sampleRetriedEvent sampleRetriedRow "create-1"
    (by decide +kernel) (by decide +kernel) sampleCalledOff sampleRetriedEvent
    (some { sampleRetriedRow with status := .cancelled }) (by decide +kernel)

/-- A registration that goes through can be retried for ever: whatever has happened since, a
request for its attendee that passes the gates, without a key or with that of the row, is answered
with the row as it is then, and changes nothing. -/
theorem registration_replayed (env : Env) (s : Service) (call : RegisterCall)
    (r : EventRegistration) (h : (registerForEvent call s.db).2 = .ok r) (ops : List Operation)
    (retry : RegisterCall) (hevent : retry.eventId = r.eventId)
    (htarget : registerTarget retry = .ok r.attendeeUserId)
    (hkey : Py.orNone retry.idempotencyKey = none ∨ retry.idempotencyKey = r.idempotencyKey)
    (replay : Option EventRegistration)
    (hgates : registrationReads retry r.attendeeUserId
      (Machine.run (serve env) (serve env s (.register call)) ops).db = .ok replay) :
    registerForEvent retry (Machine.run (serve env) (serve env s (.register call)) ops).db =
      ((Machine.run (serve env) (serve env s (.register call)) ops).db,
        .ok (r.fate env (serve env s (.register call)) ops)) := by
  have hstored : r ∈ (serve env s (.register call)).db.registrations.rows := by
    simp only [serve]
    exact registerForEvent_stored h
  have hlater := (registrations_fate env (serve env s (.register call)) ops).subset
    (List.mem_map_of_mem hstored)
  exact registerForEvent_replays hlater hevent.symm htarget (hkey.imp_right Eq.symm) hgates

theorem registration_replayed_sample :
    registerForEvent (sampleRegister sampleFan) (Machine.run (serve sampleEnv)
        (serve sampleEnv sampleSmallService (.register (sampleKeyed sampleFan)))
        [.cancel { eventId := 1, attendeeUserId := "fan-1", actor := sampleFan }]).db =
      ((Machine.run (serve sampleEnv)
          (serve sampleEnv sampleSmallService (.register (sampleKeyed sampleFan)))
          [.cancel { eventId := 1, attendeeUserId := "fan-1", actor := sampleFan }]).db,
        .ok (sampleKeyedRow.fate sampleEnv
          (serve sampleEnv sampleSmallService (.register (sampleKeyed sampleFan)))
          [.cancel { eventId := 1, attendeeUserId := "fan-1", actor := sampleFan }])) :=
  registration_replayed sampleEnv sampleSmallService (sampleKeyed sampleFan) sampleKeyedRow
    (by decide +kernel) _ (sampleRegister sampleFan) rfl (by decide) (Or.inl rfl) none
    (by decide +kernel)

end CheckinService
