import CheckinService.Laws.QrTokens
import CheckinService.Routers.Checkins

namespace CheckinService

open Relational

@[simp] theorem ofHandler_eq_ok {x : Handler α} {a : α} : ofHandler x = .ok a ↔ x = .ok a := by
  cases x <;> simp [ofHandler, Except.mapError]

theorem findEvent_eq_some {db : Database} {eventId : Int} {event : Event} :
    findEvent db eventId = some event ↔ event ∈ db.events.rows ∧ event.id = eventId := by
  rw [findEvent, Table.first_eq_some_iff]
  · simp
  · intro e hevent he
    simp only [decide_eq_true_eq] at hevent he
    exact Or.inl (he.trans hevent.symm)

theorem eventGate_eq_ok {db : Database} {eventId : Int} {event : Event} :
    eventGate db eventId = .ok event ↔
      findEvent db eventId = some event ∧ event.status.isOpen = true := by
  rw [eventGate]
  cases findEvent db eventId with
  | none => simp
  | some e =>
    simp only [Option.some.injEq]
    split
    · rename_i h
      rw [Except.ok.injEq]
      refine ⟨fun he => ⟨he, he ▸ h⟩, And.left⟩
    · rename_i h
      simp only [refuse, reduceCtorEq, false_iff, not_and]
      rintro rfl
      exact h

theorem velocityGate_eq_ok {env : Env} {db : Database} {target : String} {event : Event}
    {now : ℚ} :
    velocityGate env db target event now = .ok () ↔
      velocityCheck env.settings env.haversineDistanceM db target event now = .ok () := by
  rw [velocityGate]
  split <;> simp [refuse, *]

theorem methodGate_eq_ok {payload : CheckinRequest} {event : Event} {method : CheckinMethod} :
    methodGate payload event = .ok method ↔
      method = effectiveMethod payload event ∧ effectiveMethod payload event ≠ .none ∧
        (effectiveMethod payload event = .nfc → event.allowNfcCheckin = true) := by
  rw [methodGate]
  split
  · rename_i h
    simp [h, ofHandler, httpError, Except.mapError]
  · rename_i h
    split
    · rename_i h'
      simp only [Bool.and_eq_true, decide_eq_true_eq, Bool.not_eq_true'] at h'
      simp [ofHandler, httpError, Except.mapError, h'.1, h'.2]
    · rename_i h'
      simp only [Bool.and_eq_true, decide_eq_true_eq, Bool.not_eq_true', not_and,
        Bool.not_eq_false] at h'
      rw [Except.ok.injEq]
      exact ⟨fun hm => ⟨hm.symm, h, h'⟩, fun hm => hm.1.symm⟩

def PeeksOk (env : Env) (call : CheckinCall) (target : String) (db : Database)
    (rawToken : String) (row : QrToken) : Prop :=
  Py.orNone call.payload.qrToken = some rawToken ∧
    peekToken env.crypto rawToken call.eventId "events" (some target) call.clock.time
      call.clock.utcnow db = .ok ⟨.ok, some row⟩

theorem peeksOk_iff {env : Env} {call : CheckinCall} {target : String} {db : Database}
    {rawToken : String} {row : QrToken} :
    PeeksOk env call target db rawToken row ↔
      Py.orNone call.payload.qrToken = some rawToken ∧
        Genuine env.crypto rawToken call.eventId "events" (some target) call.clock.time ∧
        findToken env.crypto rawToken db = some row ∧ row.spent = false := by
  rw [PeeksOk, peekToken_eq, checkToken_eq_ok]
  simp only [Option.some.injEq]
  constructor
  · rintro ⟨hraw, hgenuine, t, hfind, hrow, hspent⟩
    subst hrow
    exact ⟨hraw, hgenuine, hfind, hspent⟩
  · rintro ⟨hraw, hgenuine, hfind, hspent⟩
    exact ⟨hraw, hgenuine, row, hfind, rfl, hspent⟩

theorem qrGate_of_not_needsQr {env : Env} {call : CheckinCall} {target : String}
    {method : CheckinMethod} {db : Database} (h : method.needsQr = false) :
    qrGate env call target method db = .ok none := by simp [qrGate, h]

theorem qrGate_of_needsQr {env : Env} {call : CheckinCall} {target : String}
    {method : CheckinMethod} {db : Database} {qr : Option (QrToken × String)}
    (h : method.needsQr = true) :
    qrGate env call target method db = .ok qr ↔
      ∃ rawToken row, PeeksOk env call target db rawToken row ∧
        qr = some (row, env.crypto.sha256Full rawToken) := by
  rw [qrGate, h]
  simp only [Bool.not_true, Bool.false_eq_true, ↓reduceIte, PeeksOk]
  cases hraw : Py.orNone call.payload.qrToken with
  | none => simp [refuse]
  | some rawToken =>
    simp only [Option.some.injEq, exists_and_left, exists_eq_left', and_assoc]
    cases hpeek : peekToken env.crypto rawToken call.eventId "events" (some target)
        call.clock.time call.clock.utcnow db with
    | error e => simp
    | ok result =>
      split
      · rename_i h
        cases h
      · rename_i row h
        cases h
        simp only [Except.ok.injEq, QrTokenVerifyResult.mk.injEq, Option.some.injEq, true_and,
          exists_eq_left', eq_comm]
      · rename_i h
        cases h
        simp [refuse]
      · rename_i hok _ h
        cases h
        simp only [refuse, reduceCtorEq, false_iff, not_exists, not_and, Except.ok.injEq]
        rintro row rfl
        exact absurd rfl (hok row)

theorem geoGate_eq_ok {env : Env} {payload : CheckinRequest} {method : CheckinMethod}
    {event : Event} {geo : GeoFacts} (h : geoGate env payload method event = .ok geo) :
    (method.needsGeo = true → (checkDistance env payload event).passed = true) ∧
      geo.geofencePassed = if method.needsGeo then some true else none := by
  rw [geoGate] at h
  cases hm : method.needsGeo with
  | false =>
    simp only [hm, Bool.not_false, ↓reduceIte, Except.ok.injEq] at h
    subst h
    simp
  | true =>
    simp only [hm, Bool.not_true, Bool.false_eq_true, ↓reduceIte] at h
    split at h
    · rename_i hpassed
      cases h
      exact ⟨fun _ => hpassed, rfl⟩
    · cases h

theorem eq_of_attendee {db : Database} {r r' : EventRegistration}
    (hr : r ∈ db.registrations.rows) (hr' : r' ∈ db.registrations.rows)
    (hevent : r.eventId = r'.eventId) (hattendee : r.attendeeUserId = r'.attendeeUserId) :
    r = r' := by
  apply db.registrations.eq_of_key hr hr' (k := .eventAttendee r.eventId r.attendeeUserId)
  · simp [Row.keys]
  · simp [Row.keys, hevent, hattendee]

theorem findRegistration_eq_some {db : Database} {eventId : Int} {attendee : String}
    {r : EventRegistration} :
    findRegistration db eventId attendee = some r ↔
      r ∈ db.registrations.rows ∧ r.eventId = eventId ∧ r.attendeeUserId = attendee := by
  rw [findRegistration, Table.first_eq_some_iff]
  · simp
  · intro t hr ht
    simp only [Bool.and_eq_true, decide_eq_true_eq] at hr ht
    refine Or.inr ⟨.eventAttendee eventId attendee, ?_, ?_⟩
    · simp [Row.keys, ht]
    · simp [Row.keys, hr]

theorem registrationGate_eq_ok {db : Database} {eventId : Int} {target : String}
    {registration : EventRegistration} :
    registrationGate db eventId target = .ok registration ↔
      findRegistration db eventId target = some registration ∧
        registration.status ≠ .cancelled := by
  rw [registrationGate]
  cases findRegistration db eventId target with
  | none => simp [refuse]
  | some r =>
    simp only [Option.some.injEq]
    split
    · rename_i h
      simp only [refuse, reduceCtorEq, false_iff, not_and, not_not]
      rintro rfl
      exact h
    · rename_i h
      rw [Except.ok.injEq]
      exact ⟨fun hr => ⟨hr, hr ▸ h⟩, And.left⟩

structure Cleared (env : Env) (call : CheckinCall) (target : String) (db : Database)
    (plan : CheckinPlan) : Prop where
  attestation : attestationGate env.settings call.payload = .ok ()
  event : eventGate db call.eventId = .ok plan.event
  country : countryGate env.settings plan.event call.headers = .ok ()
  velocity : velocityGate env db target plan.event call.clock.utcnow = .ok ()
  method : methodGate call.payload plan.event = .ok plan.method
  qr : qrGate env call target plan.method db = .ok plan.qr
  geo : geoGate env call.payload plan.method plan.event = .ok plan.geo
  registration : registrationGate db call.eventId target = .ok plan.registration

section

variable {env : Env} {call : CheckinCall} {target : String} {db : Database} {plan : CheckinPlan}

theorem openGates_eq_ok {event : Event} {method : CheckinMethod} :
    openGates env call target db = .ok (event, method) ↔
      attestationGate env.settings call.payload = .ok () ∧
        eventGate db call.eventId = .ok event ∧
        countryGate env.settings event call.headers = .ok () ∧
        velocityGate env db target event call.clock.utcnow = .ok () ∧
        methodGate call.payload event = .ok method := by
  simp only [openGates, Except.bind_eq_ok, pure, Except.pure, Except.ok.injEq, Prod.mk.injEq]
  constructor
  · rintro ⟨_, ha, e, he, _, hc, _, hv, m, hm, rfl, rfl⟩
    exact ⟨ha, he, hc, hv, hm⟩
  · rintro ⟨ha, he, hc, hv, hm⟩
    exact ⟨(), ha, event, he, (), hc, (), hv, method, hm, rfl, rfl⟩

theorem checkinGates_eq_ok :
    checkinGates env call target db = .ok plan ↔ Cleared env call target db plan := by
  simp only [checkinGates, Except.bind_eq_ok, pure, Except.pure, Except.ok.injEq]
  constructor
  · rintro ⟨⟨event, method⟩, hopen, qr, hqr, geo, hgeo, reg, hreg, rfl⟩
    obtain ⟨ha, he, hc, hv, hm⟩ := openGates_eq_ok.mp hopen
    exact ⟨ha, he, hc, hv, hm, hqr, hgeo, hreg⟩
  · intro h
    exact ⟨(plan.event, plan.method),
      openGates_eq_ok.mpr ⟨h.attestation, h.event, h.country, h.velocity, h.method⟩,
      plan.qr, h.qr, plan.geo, h.geo, plan.registration, h.registration, rfl⟩

theorem Cleared.event_found (h : Cleared env call target db plan) :
    findEvent db call.eventId = some plan.event := (eventGate_eq_ok.mp h.event).1

theorem Cleared.effective (h : Cleared env call target db plan) :
    plan.method = effectiveMethod call.payload plan.event := (methodGate_eq_ok.mp h.method).1

theorem Cleared.qr_eq (h : Cleared env call target db plan) :
    plan.method.needsQr = false ∧ plan.qr = none ∨
      plan.method.needsQr = true ∧ ∃ rawToken row, PeeksOk env call target db rawToken row ∧
        plan.qr = some (row, env.crypto.sha256Full rawToken) := by
  have hqr := h.qr
  cases hm : plan.method.needsQr with
  | false =>
    rw [qrGate_of_not_needsQr hm, Except.ok.injEq] at hqr
    exact Or.inl ⟨rfl, hqr.symm⟩
  | true => exact Or.inr ⟨rfl, (qrGate_of_needsQr hm).mp hqr⟩

theorem Cleared.peeked (h : Cleared env call target db plan)
    (hneeds : (effectiveMethod call.payload plan.event).needsQr = true) :
    ∃ rawToken row, PeeksOk env call target db rawToken row := by
  rcases h.qr_eq with ⟨hnot, -⟩ | ⟨-, rawToken, row, hpeek, -⟩
  · rw [h.effective, hneeds] at hnot
    cases hnot
  · exact ⟨rawToken, row, hpeek⟩

theorem Cleared.unspent (h : Cleared env call target db plan)
    (hneeds : (effectiveMethod call.payload plan.event).needsQr = true) {rawToken : String}
    (hraw : Py.orNone call.payload.qrToken = some rawToken) {t : QrToken}
    (ht : t ∈ db.qrTokens.rows) (hhash : t.tokenHash = env.crypto.sha256Full rawToken) :
    t.spent = false := by
  obtain ⟨rawToken', row, hpeek⟩ := h.peeked hneeds
  obtain ⟨hraw', -, hfind, hspent⟩ := peeksOk_iff.mp hpeek
  cases hraw.symm.trans hraw'
  rw [findToken_eq_some.mpr ⟨ht, hhash⟩] at hfind
  cases hfind
  exact hspent

theorem Cleared.registered (h : Cleared env call target db plan) :
    findRegistration db call.eventId target = some plan.registration ∧
      plan.registration.status ≠ .cancelled := registrationGate_eq_ok.mp h.registration

end

theorem findCheckin_eq_some {db : Database} {eventId : Int} {attendee : String}
    {checkin : EventCheckin} :
    findCheckin db eventId attendee = some checkin ↔
      checkin ∈ db.checkins.rows ∧ checkin.eventId = eventId ∧
        checkin.attendeeUserId = attendee := by
  rw [findCheckin, Table.first_eq_some_iff]
  · simp
  · intro c hcheckin hc
    simp only [Bool.and_eq_true, decide_eq_true_eq] at hcheckin hc
    exact Or.inr ⟨(eventId, attendee), by simp [Row.keys, hc], by simp [Row.keys, hcheckin]⟩

theorem findCheckin_eq_none {db : Database} {eventId : Int} {attendee : String} :
    findCheckin db eventId attendee = none ↔
      ∀ c ∈ db.checkins.rows, ¬ (c.eventId = eventId ∧ c.attendeeUserId = attendee) := by
  simp [findCheckin, Table.first_eq_none]

section

variable {call : CheckinCall} {target : String} {db : Database} {plan : CheckinPlan}

theorem insertCheckin_eq_none :
    insertCheckin call target plan db = none ↔ findCheckin db call.eventId target ≠ none := by
  rw [insertCheckin, Option.map_eq_none_iff, Table.insert?_nextId_eq_none rfl, Ne,
    findCheckin_eq_none]
  simp [Row.keys, newCheckin, eq_comm]

theorem insertCheckin_eq_some {inserted : Database} {checkin : EventCheckin}
    (h : insertCheckin call target plan db = some (checkin, inserted)) :
    findCheckin db call.eventId target = none ∧
      checkin = newCheckin call target plan db.checkins.nextId ∧
      inserted.checkins.rows = db.checkins.rows ++ [checkin] ∧
      inserted = { db with checkins := inserted.checkins } := by
  have hfresh : findCheckin db call.eventId target = none := by
    by_contra hne
    rw [insertCheckin_eq_none.mpr hne] at h
    cases h
  rw [insertCheckin, Option.map_eq_some_iff] at h
  obtain ⟨checkins, hinsert, heq⟩ := h
  cases heq
  exact ⟨hfresh, rfl, (Table.insert?_eq_some.mp hinsert).2, rfl⟩

end

def Admitted (call : CheckinCall) (s : Service) (target : String) : Prop :=
  checkinTarget call = .ok target ∧
    (s.limiter.rateLimit target call.eventId (clientIp call) call.clock.monotonic).2 = none

structure Recorded (env : Env) (call : CheckinCall) (s : Service) (target : String)
    (plan : CheckinPlan) : Prop where
  resolved : checkinTarget call = .ok target
  unthrottled :
    (s.limiter.rateLimit target call.eventId (clientIp call) call.clock.monotonic).2 = none
  cleared : Cleared env call target s.db plan
  fresh : findCheckin s.db call.eventId target = none

section

variable {env : Env} {call : CheckinCall} {target : String} {db : Database} {plan : CheckinPlan}

theorem admittedCheckin_of_cleared (h : Cleared env call target db plan) :
    admittedCheckin env call target db = recordCheckin call target plan db := by
  rw [admittedCheckin, checkinGates_eq_ok.mpr h]

theorem recordCheckin_of_fresh (plan : CheckinPlan)
    (h : findCheckin db call.eventId target = none) :
    ∃ inserted,
      insertCheckin call target plan db =
        some (newCheckin call target plan db.checkins.nextId, inserted) ∧
      recordCheckin call target plan db =
        (consumeQr call target plan (markAttended plan.registration.id inserted),
          .returned (successResponse plan (newCheckin call target plan db.checkins.nextId))) := by
  cases hinsert : insertCheckin call target plan db with
  | none => exact absurd h (insertCheckin_eq_none.mp hinsert)
  | some result =>
    obtain ⟨checkin, inserted⟩ := result
    obtain ⟨-, rfl, -, -⟩ := insertCheckin_eq_some hinsert
    refine ⟨inserted, rfl, ?_⟩
    rw [recordCheckin, hinsert]

theorem recordCheckin_of_found (h : findCheckin db call.eventId target ≠ none) :
    recordCheckin call target plan db =
      (db, .returned (duplicateResponse call target db)) := by
  rw [recordCheckin, insertCheckin_eq_none.mpr h]

end

def CheckinOutcome.settled : CheckinOutcome → Bool
  | .raised _ => false
  | .returned r => r.status = .success || r.status = .duplicate

theorem CheckinOutcome.settled_of_succeeded {o : CheckinOutcome} (h : o.succeeded = true) :
    o.settled = true := by
  cases o with
  | raised f => cases h
  | returned r => simpa [settled] using Or.inl (by simpa [succeeded] using h)

def OnlyRefuses (x : Gate α) : Prop := ∀ o, x = .error o → o.settled = false

namespace OnlyRefuses

theorem ok (a : α) : OnlyRefuses (.ok a) := by
  intro o h
  cases h

theorem refuse {status : CheckinStatus} (h : status ≠ .success ∧ status ≠ .duplicate) :
    OnlyRefuses (α := α) (refuse status) := by
  intro o ho
  cases ho
  simpa [CheckinOutcome.settled] using h

theorem raised (f : Failure) : OnlyRefuses (α := α) (.error (.raised f)) := by
  intro o ho
  cases ho
  rfl

theorem ofHandler (x : Handler α) : OnlyRefuses (ofHandler x) := by
  cases x with
  | error f => exact raised f
  | ok a => exact ok a

theorem bind {x : Gate α} {f : α → Gate β} (hx : OnlyRefuses x)
    (hf : ∀ a, OnlyRefuses (f a)) : OnlyRefuses (x >>= f) := by
  intro o h
  rcases Except.bind_eq_error.mp h with h | ⟨a, -, h⟩
  · exact hx o h
  · exact hf a o h

theorem attestationGate (settings : Settings) (payload : CheckinRequest) :
    OnlyRefuses (attestationGate settings payload) := by
  rw [CheckinService.attestationGate]
  split
  · exact ok ()
  · split
    · exact refuse (by decide)
    · split
      · exact ok ()
      · split
        · exact refuse (by decide)
        · split <;> exact refuse (by decide)

theorem eventGate (db : Database) (eventId : Int) : OnlyRefuses (eventGate db eventId) := by
  rw [CheckinService.eventGate]
  split
  · exact ofHandler _
  · split
    · exact ok _
    · exact refuse (by decide)

theorem countryGate (settings : Settings) (event : Event) (headers : List (String × String)) :
    OnlyRefuses (countryGate settings event headers) := by
  rw [CheckinService.countryGate]
  split
  · exact ok ()
  · exact refuse (by decide)

theorem velocityGate (env : Env) (db : Database) (target : String) (event : Event) (now : ℚ) :
    OnlyRefuses (velocityGate env db target event now) := by
  rw [CheckinService.velocityGate]
  split
  · exact ok ()
  · exact refuse (by decide)

theorem methodGate (payload : CheckinRequest) (event : Event) :
    OnlyRefuses (methodGate payload event) := by
  rw [CheckinService.methodGate]
  split
  · exact ofHandler _
  · split
    · exact ofHandler _
    · exact ok _

theorem qrGate (env : Env) (call : CheckinCall) (target : String) (method : CheckinMethod)
    (db : Database) : OnlyRefuses (qrGate env call target method db) := by
  rw [CheckinService.qrGate]
  split
  · exact ok none
  · split
    · exact refuse (by decide)
    · split
      · exact raised _
      · exact ok _
      · exact refuse (by decide)
      · exact refuse (by decide)

theorem geoGate (env : Env) (payload : CheckinRequest) (method : CheckinMethod)
    (event : Event) : OnlyRefuses (geoGate env payload method event) := by
  rw [CheckinService.geoGate]
  split
  · exact ok _
  · simp only
    split
    · exact ok _
    · intro o ho
      cases ho
      rfl

theorem registrationGate (db : Database) (eventId : Int) (target : String) :
    OnlyRefuses (registrationGate db eventId target) := by
  rw [CheckinService.registrationGate]
  split
  · exact refuse (by decide)
  · split
    · exact refuse (by decide)
    · exact ok _

theorem openGates (env : Env) (call : CheckinCall) (target : String) (db : Database) :
    OnlyRefuses (openGates env call target db) :=
  bind (attestationGate _ _) fun _ => bind (eventGate _ _) fun _ =>
    bind (countryGate _ _ _) fun _ => bind (velocityGate _ _ _ _ _) fun _ =>
      bind (methodGate _ _) fun _ => ok _

theorem checkinGates (env : Env) (call : CheckinCall) (target : String) (db : Database) :
    OnlyRefuses (checkinGates env call target db) :=
  bind (openGates _ _ _ _) fun _ => bind (qrGate _ _ _ _ _) fun _ =>
    bind (geoGate _ _ _ _) fun _ => bind (registrationGate _ _ _) fun _ => ok _

end OnlyRefuses

section

variable {env : Env} {call : CheckinCall} {s : Service} {target : String} {db : Database}
  {plan : CheckinPlan}

theorem recordCheckin_succeeded :
    (recordCheckin call target plan db).2.succeeded = true ↔
      findCheckin db call.eventId target = none := by
  by_cases h : findCheckin db call.eventId target = none
  · obtain ⟨inserted, -, hrecord⟩ := recordCheckin_of_fresh plan h
    simp [hrecord, h, CheckinOutcome.succeeded, successResponse]
  · simp [recordCheckin_of_found h, h, CheckinOutcome.succeeded, duplicateResponse]

theorem Recorded.admitted (h : Recorded env call s target plan) : Admitted call s target :=
  ⟨h.resolved, h.unthrottled⟩

theorem admittedCheckin_unchanged (h : (admittedCheckin env call target db).2.succeeded = false) :
    (admittedCheckin env call target db).1 = db := by
  rw [admittedCheckin] at h ⊢
  split
  · rfl
  · rename_i plan hgates
    rw [hgates] at h
    have hfound : findCheckin db call.eventId target ≠ none := by
      intro hfresh
      rw [recordCheckin_succeeded.mpr hfresh] at h
      cases h
    rw [recordCheckin_of_found hfound]

theorem admittedCheckin_succeeded :
    (admittedCheckin env call target db).2.succeeded = true ↔
      (∃ plan, Cleared env call target db plan) ∧ findCheckin db call.eventId target = none := by
  rw [admittedCheckin]
  cases hgates : checkinGates env call target db with
  | error o =>
    have hno : ¬ ∃ plan, Cleared env call target db plan := by
      rintro ⟨plan, hplan⟩
      rw [checkinGates_eq_ok.mpr hplan] at hgates
      cases hgates
    have hrefused : ¬ o.succeeded = true := by
      intro h
      have := CheckinOutcome.settled_of_succeeded h
      rw [OnlyRefuses.checkinGates env call target db o hgates] at this
      cases this
    simp [hrefused, hno]
  | ok plan =>
    have hplan : Cleared env call target db plan := checkinGates_eq_ok.mp hgates
    rw [recordCheckin_succeeded]
    exact ⟨fun h => ⟨⟨plan, hplan⟩, h⟩, And.right⟩

theorem admittedCheckin_settled :
    (admittedCheckin env call target db).2.settled = true ↔
      ∃ plan, Cleared env call target db plan := by
  rw [admittedCheckin]
  cases hgates : checkinGates env call target db with
  | error o =>
    simp only [OnlyRefuses.checkinGates env call target db o hgates, Bool.false_eq_true,
      false_iff]
    rintro ⟨plan, hplan⟩
    rw [checkinGates_eq_ok.mpr hplan] at hgates
    cases hgates
  | ok plan =>
    have hsettled : (recordCheckin call target plan db).2.settled = true := by
      by_cases hfresh : findCheckin db call.eventId target = none
      · exact CheckinOutcome.settled_of_succeeded (recordCheckin_succeeded.mpr hfresh)
      · rw [recordCheckin_of_found hfresh]
        rfl
    exact ⟨fun _ => ⟨plan, checkinGates_eq_ok.mp hgates⟩, fun _ => hsettled⟩

theorem submitCheckin_of_admitted (env : Env) (h : Admitted call s target) :
    ∃ limiter, submitCheckin env call s =
      (⟨(admittedCheckin env call target s.db).1, limiter⟩,
        (admittedCheckin env call target s.db).2) := by
  rw [submitCheckin, h.1]
  obtain ⟨limiter, hl⟩ : ∃ limiter, s.limiter.rateLimit target call.eventId (clientIp call)
      call.clock.monotonic = (limiter, none) := ⟨_, Prod.ext rfl h.2⟩
  exact ⟨limiter, by simp only [hl]⟩

theorem submitCheckin_of_not_admitted (env : Env) (h : ¬ ∃ target, Admitted call s target) :
    (submitCheckin env call s).1.db = s.db ∧
      (submitCheckin env call s).2.succeeded = false := by
  rw [submitCheckin]
  split
  · exact ⟨rfl, rfl⟩
  · rename_i target ht
    split
    · exact ⟨rfl, rfl⟩
    · rename_i limiter hl
      exact absurd ⟨target, ht, by rw [hl]⟩ h

theorem submitCheckin_unchanged (h : (submitCheckin env call s).2.succeeded = false) :
    (submitCheckin env call s).1.db = s.db := by
  by_cases hadmitted : ∃ target, Admitted call s target
  · obtain ⟨target, hadmitted⟩ := hadmitted
    obtain ⟨limiter, hsubmit⟩ := submitCheckin_of_admitted env hadmitted
    rw [hsubmit] at h ⊢
    exact admittedCheckin_unchanged h
  · exact (submitCheckin_of_not_admitted env hadmitted).1

theorem submitCheckin_succeeded :
    (submitCheckin env call s).2.succeeded = true ↔
      ∃ target plan, Recorded env call s target plan := by
  constructor
  · intro h
    by_cases hadmitted : ∃ target, Admitted call s target
    · obtain ⟨target, hadmitted⟩ := hadmitted
      obtain ⟨limiter, hsubmit⟩ := submitCheckin_of_admitted env hadmitted
      rw [hsubmit] at h
      obtain ⟨⟨plan, hplan⟩, hfresh⟩ := admittedCheckin_succeeded.mp h
      exact ⟨target, plan, hadmitted.1, hadmitted.2, hplan, hfresh⟩
    · rw [(submitCheckin_of_not_admitted env hadmitted).2] at h
      cases h
  · rintro ⟨target, plan, h⟩
    obtain ⟨limiter, hsubmit⟩ := submitCheckin_of_admitted env h.admitted
    rw [hsubmit]
    exact admittedCheckin_succeeded.mpr ⟨⟨plan, h.cleared⟩, h.fresh⟩

theorem submitCheckin_cases (env : Env) (call : CheckinCall) (s : Service) :
    (submitCheckin env call s).1.db = s.db ∨ ∃ target plan, Recorded env call s target plan := by
  cases hsuccess : (submitCheckin env call s).2.succeeded with
  | false => exact Or.inl (submitCheckin_unchanged hsuccess)
  | true => exact Or.inr (submitCheckin_succeeded.mp hsuccess)

theorem Recorded.result (h : Recorded env call s target plan) :
    ∃ inserted limiter,
      insertCheckin call target plan s.db =
        some (newCheckin call target plan s.db.checkins.nextId, inserted) ∧
      submitCheckin env call s =
        (⟨consumeQr call target plan (markAttended plan.registration.id inserted), limiter⟩,
          .returned
            (successResponse plan (newCheckin call target plan s.db.checkins.nextId))) := by
  obtain ⟨limiter, hsubmit⟩ := submitCheckin_of_admitted env h.admitted
  obtain ⟨inserted, hinsert, hrecord⟩ := recordCheckin_of_fresh plan h.fresh
  rw [admittedCheckin_of_cleared h.cleared, hrecord] at hsubmit
  exact ⟨inserted, limiter, hinsert, hsubmit⟩

end

end CheckinService
