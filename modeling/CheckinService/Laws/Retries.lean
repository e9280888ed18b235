import CheckinService.Laws.CheckinEffect
import CheckinService.Laws.Factors

namespace CheckinService

open Relational

def retried (call : CheckinCall) (clock : Clock) : CheckinCall := { call with clock }

def TokenInDate (payload : CheckinRequest) (time : ℚ) : Prop :=
  ∀ rawToken p, Py.orNone payload.qrToken = some rawToken → parseToken rawToken = some p →
    Py.trunc time ≤ p.expiresUnix

def Replayed (env : Env) (call : CheckinCall) (clock : Clock) (s : Service) : Prop :=
  ∃ r r', (submitCheckin env call s).2 = .returned r ∧
    (submitCheckin env (retried call clock) (submitCheckin env call s).1).2 = .returned r' ∧
    r'.status = .duplicate ∧ r'.checkinId = r.checkinId ∧
    (submitCheckin env (retried call clock) (submitCheckin env call s).1).1.db =
      (submitCheckin env call s).1.db

/-- Check-ins at the event itself do not count for its velocity check. -/
theorem velocityCheck_congr {settings : Settings} {haversineDistanceM : ℚ → ℚ → ℚ → ℚ → ℚ}
    {db db' : Database} {target : String} {event : Event} {now : ℚ} {checkin : EventCheckin}
    (hevents : db'.events = db.events)
    (hrows : db'.checkins.rows = db.checkins.rows ++ [checkin])
    (hid : checkin.eventId = event.id) :
    velocityCheck settings haversineDistanceM db' target event now =
      velocityCheck settings haversineDistanceM db target event now := by
  have hprior : ∀ since, priorCheckin db' target event.id since =
      priorCheckin db target event.id since := by
    intro since
    simp [priorCheckin, hrows, hid]
  simp only [velocityCheck, hprior, hevents]

section

variable {env : Env} {call : CheckinCall} {s : Service} {target : String} {plan : CheckinPlan}
  {db' : Database} {clock : Clock}

theorem Cleared.retried {db : Database} (h : Cleared env call target db plan)
    (heffect : CheckinEffect env call target plan.event db db')
    {qr : Option (QrToken × String)}
    (hqr : qrGate env (retried call clock) target plan.method db' = .ok qr)
    (hvelocity : velocityCheck env.settings env.haversineDistanceM db target plan.event
      clock.utcnow = .ok ()) :
    Cleared env (CheckinService.retried call clock) target db'
      { plan with qr, registration := { plan.registration with status := .attended } } := by
  obtain ⟨checkin, hrows, hid, -⟩ := heffect.checkins
  obtain ⟨hmem, hkey⟩ := findRegistration_eq_some.mp h.registered.1
  refine {
    attestation := h.attestation
    event := ?_
    country := h.country
    velocity := ?_
    method := h.method
    qr := hqr
    geo := h.geo
    registration := ?_ }
  · have hevent := eventGate_eq_ok.mp h.event
    rw [eventGate_eq_ok, findEvent, heffect.events]
    exact hevent
  · rw [velocityGate_eq_ok,
      velocityCheck_congr heffect.events hrows (hid.trans (findEvent_eq_some.mp h.event_found).2.symm)]
    exact hvelocity
  · rw [registrationGate_eq_ok, findRegistration_eq_some, heffect.registrations]
    refine ⟨⟨?_, hkey⟩, by simp⟩
    rw [List.mem_map]
    exact ⟨plan.registration, hmem, if_pos hkey⟩

theorem Recorded.retry_cleared_iff (h : Recorded env call s target plan)
    (heffect : CheckinEffect env call target plan.event s.db db')
    (hdate : TokenInDate call.payload clock.time) :
    (∃ plan', Cleared env (retried call clock) target db' plan') ↔
      (¬ ∃ t ∈ s.db.qrTokens.rows, Redeems env call plan.event t) ∧
        velocityCheck env.settings env.haversineDistanceM s.db target plan.event clock.utcnow =
          .ok () := by
  have hcleared := h.cleared
  obtain ⟨checkin, hrows, hid, -⟩ := heffect.checkins
  have hevent := hcleared.event_found
  constructor
  · rintro ⟨plan', hplan'⟩
    have hevent' : plan'.event = plan.event := by
      have := hplan'.event_found
      rw [findEvent, heffect.events] at this
      exact Option.some.inj (this.symm.trans hevent)
    constructor
    · rintro ⟨t, ht, hredeems⟩
      obtain ⟨hneeds, hsingle, rawToken, hraw, hhash⟩ := hredeems
      -- the first request burnt the row that the retry finds
      have hburnt : { t with usedAt := some call.clock.utcnow, usedByUserId := some target } ∈
          db'.qrTokens.rows := by
        rw [heffect.qrTokens, List.mem_map]
        exact ⟨t, ht, if_pos ⟨hneeds, hsingle, rawToken, hraw, hhash⟩⟩
      have hunspent := hplan'.unspent (by rw [hevent']; exact hneeds) hraw hburnt hhash
      simp [QrToken.spent, hsingle] at hunspent
    · have hv := velocityGate_eq_ok.mp hplan'.velocity
      rw [hevent', velocityCheck_congr heffect.events hrows
        (hid.trans (findEvent_eq_some.mp hevent).2.symm)] at hv
      exact hv
  · rintro ⟨hredeems, hvelocity⟩
    obtain ⟨qr, hqr⟩ : ∃ qr, qrGate env (retried call clock) target plan.method db' = .ok qr := by
      rcases hcleared.qr_eq with ⟨hneeds, -⟩ | ⟨hneeds, rawToken, row, hpeek, -⟩
      · exact ⟨none, qrGate_of_not_needsQr hneeds⟩
      · obtain ⟨hraw, hgenuine, hfind, hspent⟩ := peeksOk_iff.mp hpeek
        obtain ⟨hmem, hhash⟩ := findToken_eq_some.mp hfind
        have hkept : row ∈ db'.qrTokens.rows := by
          rw [heffect.qrTokens, List.mem_map]
          exact ⟨row, hmem, if_neg fun hr => hredeems ⟨row, hmem, hr⟩⟩
        refine ⟨_, (qrGate_of_needsQr hneeds).mpr ⟨rawToken, row, peeksOk_iff.mpr
          ⟨hraw, hgenuine.later fun p hp => hdate rawToken p hraw hp,
            findToken_eq_some.mpr ⟨hkept, hhash⟩, hspent⟩, rfl⟩⟩
    exact ⟨_, hcleared.retried heffect hqr hvelocity⟩

theorem Recorded.found (h : Recorded env call s target plan) :
    findCheckin (submitCheckin env call s).1.db call.eventId target =
      some (newCheckin call target plan s.db.checkins.nextId) := by
  obtain ⟨inserted, limiter, hinsert, hsubmit⟩ := h.result
  obtain ⟨-, -, hrows, -⟩ := insertCheckin_eq_some hinsert
  rw [hsubmit, consumeQr_frame, findCheckin_eq_some]
  refine ⟨?_, rfl, rfl⟩
  change _ ∈ inserted.checkins.rows
  rw [hrows]
  exact List.mem_append_right _ (List.mem_singleton.mpr rfl)

theorem Recorded.replayed_iff (h : Recorded env call s target plan)
    (hlimit : ((submitCheckin env call s).1.limiter.rateLimit target call.eventId
      (clientIp call) clock.monotonic).2 = none)
    (hdate : TokenInDate call.payload clock.time) :
    Replayed env call clock s ↔
      (¬ ∃ t ∈ s.db.qrTokens.rows, Redeems env call plan.event t) ∧
        velocityCheck env.settings env.haversineDistanceM s.db target plan.event clock.utcnow =
          .ok () := by
  rw [← h.retry_cleared_iff h.effect hdate]
  obtain ⟨limiter, hretry⟩ : ∃ limiter,
      submitCheckin env (retried call clock) (submitCheckin env call s).1 =
        (⟨(admittedCheckin env (retried call clock) target (submitCheckin env call s).1.db).1,
          limiter⟩,
          (admittedCheckin env (retried call clock) target (submitCheckin env call s).1.db).2) :=
    submitCheckin_of_admitted env ⟨h.resolved, hlimit⟩
  obtain ⟨inserted, limiter', hinsert, hsubmit⟩ := h.result
  constructor
  · rintro ⟨r, r', _, hr', hstatus, _, _⟩
    rw [hretry] at hr'
    rw [← admittedCheckin_settled, hr']
    simp [CheckinOutcome.settled, hstatus]
  · rintro ⟨plan', hplan'⟩
    have hfound : findCheckin (submitCheckin env call s).1.db (retried call clock).eventId target =
        some (newCheckin call target plan s.db.checkins.nextId) := h.found
    have hsome : findCheckin (submitCheckin env call s).1.db (retried call clock).eventId target ≠
        none := by simp [hfound]
    rw [admittedCheckin_of_cleared hplan', recordCheckin_of_found hsome] at hretry
    refine ⟨_, _, congrArg Prod.snd hsubmit, congrArg Prod.snd hretry, rfl, ?_, by rw [hretry]⟩
    simp only [duplicateResponse, hfound]
    rfl

end

/-- A success may be repeated safely exactly when it consumed no single-use token, and the
velocity check passes once more. -/
theorem retry_replayed_iff (env : Env) (call : CheckinCall) (clock : Clock) (s : Service)
    (h : (submitCheckin env call s).2.succeeded = true)
    (hlimit : ∀ target, checkinTarget call = .ok target →
      ((submitCheckin env call s).1.limiter.rateLimit target call.eventId (clientIp call)
        clock.monotonic).2 = none)
    (hdate : TokenInDate call.payload clock.time) :
    Replayed env call clock s ↔
      ∀ target event, checkinTarget call = .ok target →
        findEvent s.db call.eventId = some event →
          (¬ ∃ t ∈ s.db.qrTokens.rows, Redeems env call event t) ∧
            velocityCheck env.settings env.haversineDistanceM s.db target event clock.utcnow =
              .ok () := by
  obtain ⟨target, plan, hrec⟩ := submitCheckin_succeeded.mp h
  rw [hrec.replayed_iff (hlimit target hrec.resolved) hdate]
  constructor
  · intro hsafe target' event htarget hevent
    cases hrec.resolved.symm.trans htarget
    cases hrec.cleared.event_found.symm.trans hevent
    exact hsafe
  · intro hsafe
    exact hsafe target plan.event hrec.resolved hrec.cleared.event_found

def sampleCall : CheckinCall :=
  { eventId := 1
    payload := { CheckinRequest.empty with
      qrToken := some sampleToken, qrToken_length := by decide +kernel }
    actor := sampleFan, clock := sampleClock }

def sampleTokenRow (singleUse : Bool) : QrToken :=
  { id := 1, schoolId := "school-1", eventId := 1
    tokenHash := "d4e14db227122b9bb5abdf2a6b7595340bfe8a54b427892ddf3bebe93243d502"
    nonce := "0123456789abcdef0123456789abcdef", expiresAt := 3600, singleUse
    issuedByUserId := "coach-1" }

def sampleTokenService (singleUse : Bool) : Service :=
  { db := { sampleDatabase with qrTokens := .single (sampleTokenRow singleUse) } }

theorem sampleToken_inDate : TokenInDate sampleCall.payload sampleClock.time := by
  intro rawToken p hraw hp
  have hsample : sampleToken = rawToken := Option.some.inj (Py.orNone_eq_some.mp hraw).1
  subst hsample
  have hexpires : (parseToken sampleToken).map TokenParts.expiresUnix = some 3600 := by
    decide +kernel
  rw [hp, Option.map_some, Option.some.injEq] at hexpires
  rw [hexpires]
  decide +kernel

theorem sampleCall_target {target : String} (h : checkinTarget sampleCall = .ok target) :
    "fan-1" = target := by
  have hfan : checkinTarget sampleCall = .ok "fan-1" := by decide +kernel
  exact Except.ok.inj (hfan.symm.trans h)

theorem sampleCall_runs (singleUse : Bool) :
    (submitCheckin sampleEnv sampleCall (sampleTokenService singleUse)).2.succeeded = true ∧
      ((submitCheckin sampleEnv sampleCall (sampleTokenService singleUse)).1.limiter.rateLimit
        "fan-1" 1 none 100).2 = none := by
  cases singleUse <;> decide +kernel

theorem sampleCall_unthrottled (singleUse : Bool) (target : String)
    (h : checkinTarget sampleCall = .ok target) :
    ((submitCheckin sampleEnv sampleCall (sampleTokenService singleUse)).1.limiter.rateLimit
      target sampleCall.eventId (clientIp sampleCall) sampleClock.monotonic).2 = none := by
  cases sampleCall_target h
  exact (sampleCall_runs singleUse).2

theorem retry_replayed_reusable :
    Replayed sampleEnv sampleCall sampleClock (sampleTokenService false) := by
  apply (retry_replayed_iff sampleEnv sampleCall sampleClock (sampleTokenService false)
    (sampleCall_runs false).1 (sampleCall_unthrottled false) sampleToken_inDate).mpr
  intro target event htarget hevent
  have hmixer : findEvent (sampleTokenService false).db sampleCall.eventId = some sampleEvent := by
    decide +kernel
  cases sampleCall_target htarget
  cases hmixer.symm.trans hevent
  constructor
  · rintro ⟨t, ht, hredeems⟩
    rw [List.mem_singleton.mp ht] at hredeems
    cases hredeems.2.1
  · decide +kernel

/-- The retry of a check-in with a single-use token is told that the token is invalid. -/
theorem retry_fails_singleUse :
    (submitCheckin sampleEnv sampleCall (sampleTokenService true)).2.succeeded = true ∧
      (∀ target, checkinTarget sampleCall = .ok target →
        ((submitCheckin sampleEnv sampleCall (sampleTokenService true)).1.limiter.rateLimit
          target sampleCall.eventId (clientIp sampleCall) sampleClock.monotonic).2 = none) ∧
      TokenInDate sampleCall.payload sampleClock.time ∧
      ¬ Replayed sampleEnv sampleCall sampleClock (sampleTokenService true) := by
  refine ⟨(sampleCall_runs true).1, sampleCall_unthrottled true, sampleToken_inDate, ?_⟩
  have hrefused : (submitCheckin sampleEnv (retried sampleCall sampleClock)
      (submitCheckin sampleEnv sampleCall (sampleTokenService true)).1).2 =
        .returned { status := .invalidToken } := by decide +kernel
  rintro ⟨_, r', _, hretry, hstatus, _⟩
  rw [hrefused] at hretry
  cases hretry
  cases hstatus

inductive CrashPoint where
  | afterInsert | afterAttend
  deriving DecidableEq

def crashedDb (env : Env) (call : CheckinCall) (point : CrashPoint) (db : Database) :
    Option Database :=
  match checkinTarget call with
  | .error _ => none
  | .ok target =>
    match checkinGates env call target db with
    | .error _ => none
    | .ok plan =>
      (insertCheckin call target plan db).map fun inserted =>
        match point with
        | .afterInsert => inserted.2
        | .afterAttend => markAttended plan.registration.id inserted.2

def QrToken.usage (t : QrToken) : Int × Bool × Option String :=
  (t.id, t.usedAt.isSome, t.usedByUserId)

def SameRecord (db db' : Database) : Prop :=
  db.checkins.rows = db'.checkins.rows ∧ db.registrations.rows = db'.registrations.rows ∧
    db.qrTokens.rows.map QrToken.usage = db'.qrTokens.rows.map QrToken.usage

instance (db db' : Database) : Decidable (SameRecord db db') := by
  unfold SameRecord
  infer_instance

/-- Whatever the restarted limiter holds, the retry ends where the uninterrupted request
would have. -/
def Repaired (env : Env) (call : CheckinCall) (clock : Clock) (point : CrashPoint)
    (s : Service) : Prop :=
  ∀ crashed limiter, crashedDb env call point s.db = some crashed →
    SameRecord (submitCheckin env (retried call clock) ⟨crashed, limiter⟩).1.db
      (submitCheckin env call s).1.db

section

variable {env : Env} {call : CheckinCall} {s : Service} {target : String} {plan : CheckinPlan}
  {clock : Clock} {crashed : Database}

theorem Recorded.crash (h : Recorded env call s target plan) (point : CrashPoint) :
    ∃ crashed, crashedDb env call point s.db = some crashed ∧
      crashed.checkins = (submitCheckin env call s).1.db.checkins ∧
      crashed.qrTokens = s.db.qrTokens ∧
      crashed.registrations = match point with
        | .afterInsert => s.db.registrations
        | .afterAttend => (submitCheckin env call s).1.db.registrations := by
  obtain ⟨inserted, limiter, hinsert, hsubmit⟩ := h.result
  obtain ⟨-, -, -, hinserted⟩ := insertCheckin_eq_some hinsert
  rw [crashedDb, h.resolved]
  simp only [checkinGates_eq_ok.mpr h.cleared, hinsert, Option.map_some, Option.some.injEq,
    exists_eq_left']
  rw [hsubmit, consumeQr_frame]
  cases point with
  | afterInsert => exact ⟨rfl, by rw [hinserted], by rw [hinserted]⟩
  | afterAttend =>
    refine ⟨rfl, ?_, rfl⟩
    rw [hinserted]
    rfl

theorem Recorded.retry_unchanged (h : Recorded env call s target plan)
    (hsame : crashed.checkins = (submitCheckin env call s).1.db.checkins)
    (limiter : RateLimiter) :
    (submitCheckin env (retried call clock) ⟨crashed, limiter⟩).1.db = crashed := by
  apply submitCheckin_unchanged
  rw [← Bool.not_eq_true, submitCheckin_succeeded]
  rintro ⟨target', plan', hretry⟩
  cases h.resolved.symm.trans hretry.resolved
  have hfresh : findCheckin crashed call.eventId target = none := hretry.fresh
  have hfound := h.found
  rw [findCheckin, ← hsame] at hfound
  rw [findCheckin, hfound] at hfresh
  cases hfresh

theorem Recorded.redeems_unused (h : Recorded env call s target plan) {t : QrToken}
    (ht : t ∈ s.db.qrTokens.rows) (hredeems : Redeems env call plan.event t) :
    t.usedAt = none := by
  obtain ⟨hneeds, hsingle, rawToken, hraw, hhash⟩ := hredeems
  have hunspent := h.cleared.unspent hneeds hraw ht hhash
  simpa [QrToken.spent, hsingle] using hunspent

theorem Recorded.sameTokens_iff (h : Recorded env call s target plan) :
    s.db.qrTokens.rows.map QrToken.usage =
        (submitCheckin env call s).1.db.qrTokens.rows.map QrToken.usage ↔
      ¬ ∃ t ∈ s.db.qrTokens.rows, Redeems env call plan.event t := by
  rw [h.effect.qrTokens, List.map_map, List.map_inj_left]
  constructor
  · intro hsame ⟨t, ht, hredeems⟩
    have := hsame t ht
    simp [QrToken.usage, hredeems, h.redeems_unused ht hredeems] at this
  · intro hnone t ht
    rw [Function.comp_apply, if_neg fun hr => hnone ⟨t, ht, hr⟩]

theorem Recorded.sameRegistrations_iff (h : Recorded env call s target plan) :
    s.db.registrations.rows = (submitCheckin env call s).1.db.registrations.rows ↔
      ∀ r ∈ s.db.registrations.rows, r.eventId = call.eventId → r.attendeeUserId = target →
        r.status = .attended := by
  rw [h.effect.registrations]
  have hid := List.map_id s.db.registrations.rows
  constructor
  · intro hsame r hr hevent hattendee
    rw [← hid, List.map_map, List.map_inj_left] at hsame
    have := hsame r hr
    simp only [id_eq, Function.comp_apply, hevent, hattendee, and_self, ↓reduceIte] at this
    rw [this]
  · intro hattended
    refine hid.symm.trans (List.map_congr_left ?_)
    intro r hr
    split
    · rename_i hkey
      rw [← hattended r hr hkey.1 hkey.2]
      rfl
    · rfl

end

/-- A retry completes what the crash cut short exactly when there was nothing left to do: the
duplicate path returns before the two later commits. -/
theorem retry_repairs_iff (env : Env) (call : CheckinCall) (clock : Clock) (point : CrashPoint)
    (s : Service) (h : (submitCheckin env call s).2.succeeded = true) :
    Repaired env call clock point s ↔
      ∀ target event, checkinTarget call = .ok target →
        findEvent s.db call.eventId = some event →
          (¬ ∃ t ∈ s.db.qrTokens.rows, Redeems env call event t) ∧
            (point = .afterInsert → ∀ r ∈ s.db.registrations.rows, r.eventId = call.eventId →
              r.attendeeUserId = target → r.status = .attended) := by
  obtain ⟨target, plan, hrec⟩ := submitCheckin_succeeded.mp h
  obtain ⟨crashed, hcrashed, hcheckins, htokens, hregistrations⟩ := hrec.crash point
  -- the retry changes nothing, so the crash must not have cut anything off
  have hrepaired : Repaired env call clock point s ↔
      SameRecord crashed (submitCheckin env call s).1.db := by
    constructor
    · intro hrepaired
      have := hrepaired crashed {} hcrashed
      rw [hrec.retry_unchanged hcheckins] at this
      exact this
    · intro hsame crashed' limiter hcrashed'
      cases hcrashed.symm.trans hcrashed'
      rw [hrec.retry_unchanged hcheckins]
      exact hsame
  have hevent : (∀ target' event, checkinTarget call = .ok target' →
        findEvent s.db call.eventId = some event →
          (¬ ∃ t ∈ s.db.qrTokens.rows, Redeems env call event t) ∧
            (point = .afterInsert → ∀ r ∈ s.db.registrations.rows, r.eventId = call.eventId →
              r.attendeeUserId = target' → r.status = .attended)) ↔
      (¬ ∃ t ∈ s.db.qrTokens.rows, Redeems env call plan.event t) ∧
        (point = .afterInsert → ∀ r ∈ s.db.registrations.rows, r.eventId = call.eventId →
          r.attendeeUserId = target → r.status = .attended) := by
    constructor
    · intro hall
      exact hall target plan.event hrec.resolved hrec.cleared.event_found
    · intro hone target' event htarget hevent
      cases hrec.resolved.symm.trans htarget
      cases hrec.cleared.event_found.symm.trans hevent
      exact hone
  rw [hrepaired, hevent, SameRecord, hcheckins, htokens, hrec.sameTokens_iff, hregistrations]
  cases point with
  | afterInsert =>
    simp only [hrec.sameRegistrations_iff, true_and, forall_const]
    exact and_comm
  | afterAttend => simp

theorem retry_repairs_reusable :
    Repaired sampleEnv sampleCall sampleClock .afterAttend (sampleTokenService false) := by
  apply (retry_repairs_iff sampleEnv sampleCall sampleClock .afterAttend
    (sampleTokenService false) (sampleCall_runs false).1).mpr
  intro target event htarget hevent
  constructor
  · rintro ⟨t, ht, hredeems⟩
    rw [List.mem_singleton.mp ht] at hredeems
    cases hredeems.2.1
  · intro h
    cases h

/-- After a crash behind the first commit the registration is never marked; after one behind
the second the single-use token is never burnt. -/
theorem retry_repairs_neither :
    ((submitCheckin sampleEnv sampleCall (sampleTokenService false)).2.succeeded = true ∧
      ¬ Repaired sampleEnv sampleCall sampleClock .afterInsert (sampleTokenService false)) ∧
    ((submitCheckin sampleEnv sampleCall (sampleTokenService true)).2.succeeded = true ∧
      ¬ Repaired sampleEnv sampleCall sampleClock .afterAttend (sampleTokenService true)) := by
  have hdiffers : ∀ point singleUse, (point = .afterInsert ∧ singleUse = false) ∨
        (point = .afterAttend ∧ singleUse = true) →
      ¬ Repaired sampleEnv sampleCall sampleClock point (sampleTokenService singleUse) := by
    intro point singleUse hcase hrepaired
    have hsame : ((crashedDb sampleEnv sampleCall point (sampleTokenService singleUse).db).map
        fun crashed => decide (SameRecord
          (submitCheckin sampleEnv (retried sampleCall sampleClock) ⟨crashed, {}⟩).1.db
          (submitCheckin sampleEnv sampleCall (sampleTokenService singleUse)).1.db)) =
        some false := by
      rcases hcase with ⟨rfl, rfl⟩ | ⟨rfl, rfl⟩ <;> decide +kernel
    obtain ⟨crashed, hcrashed, hdiffer⟩ := Option.map_eq_some_iff.mp hsame
    exact of_decide_eq_false hdiffer (hrepaired crashed {} hcrashed)
  exact ⟨⟨(sampleCall_runs false).1, hdiffers _ _ (Or.inl ⟨rfl, rfl⟩)⟩,
    (sampleCall_runs true).1, hdiffers _ _ (Or.inr ⟨rfl, rfl⟩)⟩

end CheckinService
