import CheckinService.Laws.Tenancy
import CheckinService.Laws.Visibility
import CheckinService.Lib.SpeedLimit

namespace CheckinService

open Relational SpeedLimit

def Event.place (e : Event) : Option (ℚ × ℚ) :=
  match e.latitude, e.longitude with
  | some lat, some lon => some (lat.float, lon.float)
  | _, _ => none

def travel (env : Env) (p q : ℚ × ℚ) : ℚ := env.haversineDistanceM p.1 p.2 q.1 q.2

/-- `VELOCITY_MAX_MPH` in meters per second. -/
def maxSpeed (settings : Settings) : ℚ := settings.velocityMaxMph / (22369362921 / 10000000000)

def visits (db : Database) (attendee : String) : Set (Visit (ℚ × ℚ) ℚ) :=
  {v | ∃ c ∈ db.checkins.rows, c.attendeeUserId = attendee ∧ c.checkinAt = v.time ∧
    ∃ e ∈ db.events.rows, e.id = c.eventId ∧ e.place = some v.place}

def NoTeleport (env : Env) (db : Database) : Prop :=
  ∀ attendee, Limited (travel env) (maxSpeed env.settings) env.settings.velocityWindowSeconds
    (visits db attendee)

structure VelocityPolicy (env : Env) : Prop where
  enabled : env.settings.velocityCheckEnabled = true
  window : 0 < env.settings.velocityWindowSeconds
  maxMph : 0 < env.settings.velocityMaxMph
  metric : IsMetric (travel env)

def KeepsPlaces (db db' : Database) : Prop :=
  ∀ e ∈ db.events.rows, ∀ e' ∈ db'.events.rows, e'.id = e.id → e'.place = e.place

instance (db db' : Database) : Decidable (KeepsPlaces db db') :=
  inferInstanceAs (Decidable (∀ e ∈ db.events.rows, ∀ e' ∈ db'.events.rows,
    e'.id = e.id → e'.place = e.place))

def checkinReadings (ops : List Operation) : List ℚ :=
  ops.filterMap fun
    | .checkin call => some call.clock.utcnow
    | _ => none

def Operation.stamped : Operation → Bool
  | .checkin call => call.clock.dbNow = call.clock.utcnow
  | _ => true

structure OnTime (ops : List Operation) : Prop where
  sorted : (checkinReadings ops).Pairwise (· ≤ ·)
  stamped : ∀ op ∈ ops, op.stamped = true

/-- The check-in that `velocity_check` looks up, if there is one, was made at an event with
coordinates, and either strictly before this one or at the same place. -/
def Compares (env : Env) (s : Service) : Operation → Prop
  | .checkin call => ∀ target plan, Recorded env call s target plan →
      plan.event.place.isSome = true → ∀ prior,
        priorCheckin s.db target call.eventId
          (call.clock.utcnow - env.settings.velocityWindowSeconds) = some prior →
        ∃ priorEvent, findEvent s.db prior.eventId = some priorEvent ∧
          priorEvent.place.isSome = true ∧
          (prior.checkinAt < call.clock.utcnow ∨ priorEvent.place = plan.event.place)
  | _ => True

theorem Event.place_eq_some {e : Event} {p : ℚ × ℚ} :
    e.place = some p ↔ ∃ lat lon, e.latitude = some lat ∧ e.longitude = some lon ∧
      lat.float = p.1 ∧ lon.float = p.2 := by
  obtain ⟨lat, lon⟩ := p
  rw [Event.place]
  cases e.latitude <;> cases e.longitude <;> simp

theorem maxSpeed_pos {env : Env} (h : VelocityPolicy env) : 0 < maxSpeed env.settings :=
  div_pos h.maxMph (by norm_num)

section

variable {db : Database} {target : String} {eventId : Int} {since : ℚ}

theorem priorCheckin_eq_none :
    priorCheckin db target eventId since = none ↔
      ∀ c ∈ db.checkins.rows, c.attendeeUserId = target → c.eventId ≠ eventId →
        c.checkinAt < since := by
  simp [priorCheckin, List.filter_eq_nil_iff]

theorem priorCheckin_eq_some {prior : EventCheckin}
    (h : priorCheckin db target eventId since = some prior) :
    prior ∈ db.checkins.rows ∧ prior.attendeeUserId = target ∧
      ∀ c ∈ db.checkins.rows, c.attendeeUserId = target → c.eventId ≠ eventId →
        since ≤ c.checkinAt → c.checkinAt ≤ prior.checkinAt := by
  have hmem := List.argmax_mem h
  simp only [List.mem_filter, Bool.and_eq_true, decide_eq_true_eq] at hmem
  refine ⟨hmem.1, hmem.2.1.1, ?_⟩
  intro c hc htarget hother hsince
  exact List.le_of_mem_argmax (by simp [hc, htarget, hother, hsince]) h

end

theorem velocityCheck_compares {env : Env} {db : Database} {target : String}
    {event priorEvent : Event} {now : ℚ} {prior : EventCheckin} {p q : ℚ × ℚ}
    (hpolicy : VelocityPolicy env)
    (h : velocityCheck env.settings env.haversineDistanceM db target event now = .ok ())
    (hplace : event.place = some q)
    (hprior : priorCheckin db target event.id (now - env.settings.velocityWindowSeconds) =
      some prior)
    (hfound : findEvent db prior.eventId = some priorEvent) (hpriorPlace : priorEvent.place = some p)
    (hbefore : prior.checkinAt < now) :
    travel env p q ≤ maxSpeed env.settings * (now - prior.checkinAt) := by
  obtain ⟨lat, lon, hlat, hlon, hqlat, hqlon⟩ := Event.place_eq_some.mp hplace
  obtain ⟨plat, plon, hplat, hplon, hpplat, hpplon⟩ := Event.place_eq_some.mp hpriorPlace
  have helapsed : 0 < now - prior.checkinAt := sub_pos.mpr hbefore
  rw [findEvent] at hfound
  simp only [velocityCheck, hpolicy.enabled, hlat, hlon, hprior, hfound, hplat, hplon, hqlat,
    hqlon, hpplat, hpplon, not_le.mpr helapsed, Bool.not_true, Bool.false_eq_true, if_false] at h
  split at h
  · cases h
  · rename_i hspeed
    rw [not_lt] at hspeed
    rw [maxSpeed, div_mul_eq_mul_div, le_div_iff₀ (by norm_num)]
    calc
      travel env p q * (22369362921 / 10000000000) =
          travel env p q / (now - prior.checkinAt) * (22369362921 / 10000000000) *
            (now - prior.checkinAt) := by field_simp
      _ ≤ env.settings.velocityMaxMph * (now - prior.checkinAt) :=
        mul_le_mul_of_nonneg_right hspeed helapsed.le

def EventCheckin.visit (c : EventCheckin) : String × Int × ℚ :=
  (c.attendeeUserId, c.eventId, c.checkinAt)

section

variable {env : Env} {s : Service} {op : Operation} {call : CheckinCall} {target attendee : String}
  {plan : CheckinPlan} {db' : Database}

theorem Recorded.checkins_rows (h : Recorded env call s target plan) :
    (submitCheckin env call s).1.db.checkins.rows =
      s.db.checkins.rows ++ [newCheckin call target plan s.db.checkins.nextId] := by
  obtain ⟨inserted, limiter, hinsert, hsubmit⟩ := h.result
  obtain ⟨-, -, hrows, -⟩ := insertCheckin_eq_some hinsert
  rw [hsubmit, consumeQr_frame]
  exact hrows

theorem Serves.visit (h : Serves env s op db') :
    db'.checkins.rows.map EventCheckin.visit = s.db.checkins.rows.map EventCheckin.visit ∨
      ∃ call target plan, op = .checkin call ∧ Recorded env call s target plan ∧
        db' = (submitCheckin env call s).1.db := by
  cases op with
  | checkin call =>
    cases h with
    | nothing _ => exact Or.inl rfl
    | records h => exact Or.inr ⟨_, _, _, rfl, h, rfl⟩
  | purge call =>
    cases h with
    | nothing _ => exact Or.inl rfl
    | scrubs =>
      refine Or.inl ?_
      simp only [scrubbed, Table.updateWhere, List.map_map]
      apply List.map_congr_left
      intro c _
      simp only [Function.comp_apply]
      split <;> rfl
  | _ =>
    rw [h.frame.checkins rfl]
    exact Or.inl rfl

theorem Tenanted.place_eq {db : Database} (h : Tenanted db) (hplaces : KeepsPlaces db db')
    {c : EventCheckin} (hc : c ∈ db.checkins.rows) {e' : Event} (he' : e' ∈ db'.events.rows)
    (hid : e'.id = c.eventId) :
    ∃ e ∈ db.events.rows, e.id = c.eventId ∧ e'.place = e.place := by
  obtain ⟨⟨e, he, heid, -⟩, -⟩ := h.checkins c hc
  exact ⟨e, he, heid, hplaces e he e' he' (hid.trans heid.symm)⟩

theorem visits_subset {db : Database} (h : Tenanted db) (hplaces : KeepsPlaces db db')
    (hsame : db'.checkins.rows.map EventCheckin.visit = db.checkins.rows.map EventCheckin.visit) :
    visits db' attendee ⊆ visits db attendee := by
  rintro v ⟨c', hc', hattendee, htime, e', he', hid, hplace⟩
  have hmem : c'.visit ∈ db.checkins.rows.map EventCheckin.visit := by
    rw [← hsame]
    exact List.mem_map_of_mem hc'
  obtain ⟨c, hc, hvisit⟩ := List.mem_map.mp hmem
  simp only [EventCheckin.visit, Prod.mk.injEq] at hvisit
  obtain ⟨hca, hce, hct⟩ := hvisit
  obtain ⟨e, he, heid, hsamePlace⟩ := h.place_eq hplaces hc he' (hid.trans hce.symm)
  exact ⟨c, hc, hca.trans hattendee, hct.trans htime, e, he, heid, hsamePlace ▸ hplace⟩

theorem Recorded.visits_subset (h : Recorded env call s target plan) {v : Visit (ℚ × ℚ) ℚ}
    (hv : v ∈ visits (submitCheckin env call s).1.db attendee) :
    v ∈ visits s.db attendee ∨
      attendee = target ∧ plan.event.place = some v.place ∧ v.time = call.clock.dbNow := by
  obtain ⟨c, hc, hattendee, htime, e, he, hid, hplace⟩ := hv
  rw [h.effect.events] at he
  rw [h.checkins_rows] at hc
  rcases List.mem_append.mp hc with hc | hc
  · exact Or.inl ⟨c, hc, hattendee, htime, e, he, hid, hplace⟩
  · rw [List.mem_singleton.mp hc] at hattendee htime hid
    have hfound : findEvent s.db call.eventId = some e := findEvent_eq_some.mpr ⟨he, hid⟩
    cases hfound.symm.trans h.cleared.event_found
    exact Or.inr ⟨hattendee.symm, hplace, htime.symm⟩

theorem Recorded.latest (hpolicy : VelocityPolicy env) (h : Recorded env call s target plan)
    (hcompares : Compares env s (.checkin call))
    (hstamped : call.clock.dbNow = call.clock.utcnow) {q : ℚ × ℚ}
    (hplace : plan.event.place = some q) :
    (∀ v ∈ visits s.db target,
        ¬ call.clock.dbNow ≤ v.time + env.settings.velocityWindowSeconds) ∨
      ∃ w ∈ visits s.db target,
        Reaches (travel env) (maxSpeed env.settings) env.settings.velocityWindowSeconds w
          ⟨q, call.clock.dbNow⟩ ∧
        ∀ v ∈ visits s.db target,
          call.clock.dbNow ≤ v.time + env.settings.velocityWindowSeconds → v.time ≤ w.time := by
  -- no earlier check-in of the attendee is at this event
  have hother : ∀ c ∈ s.db.checkins.rows, c.attendeeUserId = target →
      c.eventId ≠ call.eventId :=
    fun c hc htarget hid => findCheckin_eq_none.mp h.fresh c hc ⟨hid, htarget⟩
  obtain ⟨-, hid⟩ := findEvent_eq_some.mp h.cleared.event_found
  rw [hstamped]
  cases hprior : priorCheckin s.db target call.eventId
      (call.clock.utcnow - env.settings.velocityWindowSeconds) with
  | none =>
    refine Or.inl ?_
    rintro v ⟨c, hc, htarget, htime, -⟩ hwindow
    have hlt := priorCheckin_eq_none.mp hprior c hc htarget (hother c hc htarget)
    rw [htime] at hlt
    linarith
  | some prior =>
    obtain ⟨hmem, htarget, hlast⟩ := priorCheckin_eq_some hprior
    obtain ⟨priorEvent, hfound, hlocated, hbefore⟩ :=
      hcompares target plan h (by rw [hplace]; rfl) prior hprior
    obtain ⟨p, hp⟩ := Option.isSome_iff_exists.mp hlocated
    obtain ⟨hpmem, hpid⟩ := findEvent_eq_some.mp hfound
    refine Or.inr ⟨⟨p, prior.checkinAt⟩, ⟨prior, hmem, htarget, rfl, priorEvent, hpmem, hpid, hp⟩,
      ?_, ?_⟩
    · rcases hbefore with hbefore | hsame
      · intro _ _
        refine velocityCheck_compares hpolicy (velocityGate_eq_ok.mp h.cleared.velocity) hplace ?_
          hfound hp hbefore
        rw [hid]
        exact hprior
      · refine Reaches.of_place_eq hpolicy.metric (maxSpeed_pos hpolicy).le ?_
        rw [hp, hplace] at hsame
        exact Option.some.inj hsame
    · rintro v ⟨c, hc, hctarget, htime, -⟩ hwindow
      rw [← htime] at hwindow ⊢
      exact hlast c hc hctarget (hother c hc hctarget) (by linarith)

theorem Recorded.noTeleport (hpolicy : VelocityPolicy env) (h : Recorded env call s target plan)
    (hcompares : Compares env s (.checkin call))
    (hstamped : call.clock.dbNow = call.clock.utcnow)
    (hpast : ∀ c ∈ s.db.checkins.rows, c.checkinAt ≤ call.clock.utcnow)
    (hlimited : NoTeleport env s.db) : NoTeleport env (submitCheckin env call s).1.db := by
  intro attendee
  by_cases hadds : attendee = target ∧ ∃ q, plan.event.place = some q
  · obtain ⟨rfl, q, hplace⟩ := hadds
    have hlast : ∀ v ∈ visits s.db attendee, v.time ≤ call.clock.dbNow := by
      rintro v ⟨c, hc, -, htime, -⟩
      rw [← htime, hstamped]
      exact hpast c hc
    have hmore := (hlimited attendee).insert hpolicy.metric (maxSpeed_pos hpolicy).le
      (x := ⟨q, call.clock.dbNow⟩) hlast (h.latest hpolicy hcompares hstamped hplace)
    apply hmore.subset
    intro v hv
    rcases h.visits_subset hv with hold | ⟨-, hnew, htime⟩
    · exact Or.inr hold
    · rw [hplace, Option.some.injEq] at hnew
      refine Or.inl ?_
      rw [hnew, ← htime]
  · apply (hlimited attendee).subset
    intro v hv
    rcases h.visits_subset hv with hold | ⟨htarget, hnew, -⟩
    · exact hold
    · exact absurd ⟨htarget, _, hnew⟩ hadds

structure Timely (env : Env) (s : Service) (ops : List Operation) : Prop where
  tenanted : Tenanted s.db
  onTime : OnTime ops
  places : Machine.Guarded (serve env) (fun s op => KeepsPlaces s.db (serve env s op).db) s ops
  past : ∀ c ∈ s.db.checkins.rows, ∀ t ∈ checkinReadings ops, c.checkinAt ≤ t

theorem checkinReadings_cons (op : Operation) (ops : List Operation) :
    checkinReadings (op :: ops) = checkinReadings [op] ++ checkinReadings ops :=
  List.filterMap_append (l := [op])

theorem OnTime.tail {ops : List Operation} (h : OnTime (op :: ops)) : OnTime ops where
  sorted := by
    have hsorted := h.sorted
    rw [checkinReadings_cons] at hsorted
    exact (List.pairwise_append.mp hsorted).2.1
  stamped op hop := h.stamped op (List.mem_cons_of_mem _ hop)

theorem OnTime.dbNow_eq {ops : List Operation} (h : OnTime (.checkin call :: ops)) :
    call.clock.dbNow = call.clock.utcnow :=
  of_decide_eq_true (h.stamped _ List.mem_cons_self)

theorem OnTime.head_le {ops : List Operation} (h : OnTime (.checkin call :: ops)) :
    ∀ t ∈ checkinReadings ops, call.clock.dbNow ≤ t := by
  have hsorted := h.sorted
  rw [checkinReadings_cons] at hsorted
  intro t ht
  rw [h.dbNow_eq]
  exact (List.pairwise_append.mp hsorted).2.2 _ List.mem_cons_self t ht

theorem Timely.next {ops : List Operation} (h : Timely env s (op :: ops)) :
    Timely env (serve env s op) ops where
  tenanted := (serve_effect env s op).tenanted h.tenanted
  onTime := h.onTime.tail
  places := h.places.2
  past := by
    have hold : ∀ c ∈ s.db.checkins.rows, ∀ t ∈ checkinReadings ops, c.checkinAt ≤ t := by
      intro c hc t ht
      apply h.past c hc
      rw [checkinReadings_cons]
      exact List.mem_append_right _ ht
    rcases (serve_serves env s op).visit with hsame | ⟨call, target, plan, rfl, hrec, hdb⟩
    · intro c hc t ht
      have hmem : c.visit ∈ s.db.checkins.rows.map EventCheckin.visit := by
        rw [← hsame]
        exact List.mem_map_of_mem hc
      obtain ⟨c', hc', hvisit⟩ := List.mem_map.mp hmem
      simp only [EventCheckin.visit, Prod.mk.injEq] at hvisit
      rw [← hvisit.2.2]
      exact hold c' hc' t ht
    · rw [hdb, hrec.checkins_rows]
      intro c hc t ht
      rcases List.mem_append.mp hc with hc | hc
      · exact hold c hc t ht
      · rw [List.mem_singleton.mp hc]
        exact h.onTime.head_le t ht

theorem Timely.noTeleport {ops : List Operation} (hpolicy : VelocityPolicy env)
    (h : Timely env s (op :: ops)) (hlimited : NoTeleport env s.db)
    (hcompares : Compares env s op) : NoTeleport env (serve env s op).db := by
  rcases (serve_serves env s op).visit with hsame | ⟨call, target, plan, rfl, hrec, hdb⟩
  · intro attendee
    exact (hlimited attendee).subset (visits_subset h.tenanted h.places.1 hsame)
  · rw [hdb]
    apply hrec.noTeleport hpolicy hcompares h.onTime.dbNow_eq _ hlimited
    intro c hc
    apply h.past c hc
    rw [checkinReadings_cons]
    exact List.mem_append_left _ List.mem_cons_self

end

/-- Over every run in which the check-in that `velocity_check` looks up can be compared with,
nobody travels faster than the limit between any two of their check-ins in the window. -/
theorem noTeleport_of_compares (env : Env) (limiter : RateLimiter) (ops : List Operation)
    (hpolicy : VelocityPolicy env) (hclock : OnTime ops)
    (hplaces : Machine.Guarded (serve env) (fun s op => KeepsPlaces s.db (serve env s op).db)
      { limiter := limiter } ops)
    (hcompares : Machine.Guarded (serve env) (Compares env) { limiter := limiter } ops) :
    Machine.Always (serve env) (fun s => NoTeleport env s.db) { limiter := limiter } ops := by
  refine Machine.always_of_guarded_rest (K := Timely env) (fun _ _ _ h => h.next)
    (fun _ _ _ h => h.noTeleport hpolicy) ?_ ?_ hcompares
  · refine ⟨tenanted_empty, hclock, hplaces, ?_⟩
    intro c hc
    cases hc
  · rintro attendee v ⟨c, hc, -⟩
    cases hc

def sampleGlobe : Env :=
  { sampleEnv with
    haversineDistanceM := fun lat lon lat' lon' => 111195 * (|lat - lat'| + |lon - lon'|) }

theorem velocityPolicy_sampleGlobe : VelocityPolicy sampleGlobe where
  enabled := rfl
  window := by decide +kernel
  maxMph := by decide +kernel
  metric := by
    constructor
    · intro p
      simp [travel, sampleGlobe]
    · intro p q h
      simp only [travel, sampleGlobe, mul_eq_zero, OfNat.ofNat_ne_zero, false_or] at h
      obtain ⟨hlat, hlon⟩ := (add_eq_zero_iff_of_nonneg (abs_nonneg _) (abs_nonneg _)).mp h
      exact Prod.ext (sub_eq_zero.mp (abs_eq_zero.mp hlat)) (sub_eq_zero.mp (abs_eq_zero.mp hlon))
    · intro p q
      simp only [travel, sampleGlobe, abs_sub_comm]
    · intro p q r
      simp only [travel, sampleGlobe]
      linarith [abs_sub_le p.1 q.1 r.1, abs_sub_le p.2 q.2 r.2]

def sampleVenue (latitude : Field (Option ℚ)) : Operation :=
  .create
    { payload :=
        { title := "Mixer"
          latitude := latitude
          longitude := latitude
          checkinMethod := .manual
          status := .published }
      actor := sampleCreator }

def sampleScan (eventId : Int) (now : ℕ) : CheckinCall where
  eventId := eventId
  payload := .empty
  actor := sampleFan
  clock := ⟨now, now, now, now, Nat.cast_nonneg now⟩

def sampleItinerary (far : ℚ) : List Operation :=
  [sampleVenue (.supplied (some 0)), sampleVenue .unset, sampleVenue (.supplied (some far)),
    .register { sampleRegister sampleFan with eventId := 1 },
    .register { sampleRegister sampleFan with eventId := 2 },
    .register { sampleRegister sampleFan with eventId := 3 }]

def sampleStroll : List Operation :=
  sampleItinerary (1 / 100) ++
    [.checkin (sampleScan 1 100), .checkin (sampleScan 3 220)]

def ComparesWithEarlier (env : Env) (s : Service) : Operation → Prop
  | .checkin call => ∀ target ∈ (checkinTarget call).toOption,
      ∀ prior ∈ priorCheckin s.db target call.eventId
          (call.clock.utcnow - env.settings.velocityWindowSeconds),
        ∃ priorEvent ∈ findEvent s.db prior.eventId,
          priorEvent.place.isSome = true ∧ prior.checkinAt < call.clock.utcnow
  | _ => True

instance (env : Env) (s : Service) : ∀ op, Decidable (ComparesWithEarlier env s op)
  | .checkin _ =>
    inferInstanceAs (Decidable (∀ target ∈ Except.toOption _, ∀ prior ∈ priorCheckin _ _ _ _,
      ∃ priorEvent ∈ findEvent _ _, _ ∧ _))
  | .create _ | .update _ | .delete _ | .register _ | .cancel _ | .mint _ | .send _ | .respond _
  | .purge _ | .rosters _ _ _ => .isTrue trivial

theorem ComparesWithEarlier.compares {env : Env} {s : Service} {op : Operation}
    (h : ComparesWithEarlier env s op) : Compares env s op := by
  cases op with
  | checkin call =>
    intro target plan hrec _ prior hprior
    obtain ⟨priorEvent, hfound, hlocated, hbefore⟩ :=
      h target (by rw [hrec.resolved]; rfl) prior hprior
    exact ⟨priorEvent, hfound, hlocated, Or.inl hbefore⟩
  | _ => trivial

theorem noTeleport_of_compares_sample :
    Machine.Always (serve sampleGlobe) (fun s => NoTeleport sampleGlobe s.db) {} sampleStroll := by
  apply noTeleport_of_compares sampleGlobe {} sampleStroll velocityPolicy_sampleGlobe
  · exact ⟨by decide +kernel, by decide +kernel⟩
  · decide +kernel
  · exact Machine.Guarded.imp (fun _ _ h => h.compares)
      (by decide +kernel : Machine.Guarded (serve sampleGlobe) (ComparesWithEarlier sampleGlobe) {}
        sampleStroll)

/-- The check-in in between, at the event without coordinates, hides the first one. -/
def sampleTour : List Operation :=
  sampleItinerary 45 ++
    [.checkin (sampleScan 1 100), .checkin (sampleScan 2 160), .checkin (sampleScan 3 220)]

theorem onTime_sampleTour : OnTime sampleTour := ⟨by decide +kernel, by decide +kernel⟩

theorem noTeleport_fails_unlocated :
    VelocityPolicy sampleGlobe ∧ OnTime sampleTour ∧
      Machine.Guarded (serve sampleGlobe)
        (fun s op => KeepsPlaces s.db (serve sampleGlobe s op).db) {} sampleTour ∧
      ¬ Machine.Always (serve sampleGlobe) (fun s => NoTeleport sampleGlobe s.db) {}
        sampleTour := by
  refine ⟨velocityPolicy_sampleGlobe, onTime_sampleTour, by decide +kernel, ?_⟩
  intro h
  have hhere : (⟨(0, 0), 100⟩ : Visit (ℚ × ℚ) ℚ) ∈
      visits (Machine.run (serve sampleGlobe) {} sampleTour).db "fan-1" := by
    show ∃ c ∈ _, _
    decide +kernel
  have hfar : (⟨(45, 45), 220⟩ : Visit (ℚ × ℚ) ℚ) ∈
      visits (Machine.run (serve sampleGlobe) {} sampleTour).db "fan-1" := by
    show ∃ c ∈ _, _
    decide +kernel
  have hreach := h.run "fan-1" _ hhere _ hfar (by decide +kernel) (by decide +kernel)
  revert hreach
  decide +kernel

end CheckinService
